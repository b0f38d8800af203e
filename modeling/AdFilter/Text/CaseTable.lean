import AdFilter.Text.Run

/-!
# The case maps as shifts

Lower case and simple case folding of version 16 of the standard. The capital dotted I, whose lower
case is two characters, and the capital sigma, whose lower case hangs on its neighbours, are the
business of the functions that use the table.
-/

namespace AdFilter.Text.CaseTable

/-- The single characters that lower case sends to a single other one. -/
def lowercase : List Shift := Shift.ofCodes [
  0x0041_00005A_1_000061, 0x00C0_0000D6_1_0000E0, 0x00D8_0000DE_1_0000F8, 0x0100_00012E_2_000101,
  0x0132_000136_2_000133, 0x0139_000147_2_00013A, 0x014A_000176_2_00014B, 0x0178_000178_1_0000FF,
  0x0179_00017D_2_00017A, 0x0181_000181_1_000253, 0x0182_000182_1_000183, 0x0184_000184_1_000185,
  0x0186_000186_1_000254, 0x0187_000187_1_000188, 0x0189_00018A_1_000256, 0x018B_00018B_1_00018C,
  0x018E_00018E_1_0001DD, 0x018F_00018F_1_000259, 0x0190_000190_1_00025B, 0x0191_000191_1_000192,
  0x0193_000193_1_000260, 0x0194_000194_1_000263, 0x0196_000196_1_000269, 0x0197_000197_1_000268,
  0x0198_000198_1_000199, 0x019C_00019C_1_00026F, 0x019D_00019D_1_000272, 0x019F_00019F_1_000275,
  0x01A0_0001A4_2_0001A1, 0x01A6_0001A6_1_000280, 0x01A7_0001A7_1_0001A8, 0x01A9_0001A9_1_000283,
  0x01AC_0001AC_1_0001AD, 0x01AE_0001AE_1_000288, 0x01AF_0001AF_1_0001B0, 0x01B1_0001B2_1_00028A,
  0x01B3_0001B3_1_0001B4, 0x01B5_0001B5_1_0001B6, 0x01B7_0001B7_1_000292, 0x01B8_0001B8_1_0001B9,
  0x01BC_0001BC_1_0001BD, 0x01C4_0001C4_1_0001C6, 0x01C5_0001C5_1_0001C6, 0x01C7_0001C7_1_0001C9,
  0x01C8_0001C8_1_0001C9, 0x01CA_0001CA_1_0001CC, 0x01CB_0001DB_2_0001CC, 0x01DE_0001EE_2_0001DF,
  0x01F1_0001F1_1_0001F3, 0x01F2_0001F2_1_0001F3, 0x01F4_0001F4_1_0001F5, 0x01F6_0001F6_1_000195,
  0x01F7_0001F7_1_0001BF, 0x01F8_00021E_2_0001F9, 0x0220_000220_1_00019E, 0x0222_000232_2_000223,
  0x023A_00023A_1_002C65, 0x023B_00023B_1_00023C, 0x023D_00023D_1_00019A, 0x023E_00023E_1_002C66,
  0x0241_000241_1_000242, 0x0243_000243_1_000180, 0x0244_000244_1_000289, 0x0245_000245_1_00028C,
  0x0246_00024E_2_000247, 0x0370_000370_1_000371, 0x0372_000372_1_000373, 0x0376_000376_1_000377,
  0x037F_00037F_1_0003F3, 0x0386_000386_1_0003AC, 0x0388_00038A_1_0003AD, 0x038C_00038C_1_0003CC,
  0x038E_00038F_1_0003CD, 0x0391_0003A1_1_0003B1, 0x03A3_0003AB_1_0003C3, 0x03CF_0003CF_1_0003D7,
  0x03D8_0003EE_2_0003D9, 0x03F4_0003F4_1_0003B8, 0x03F7_0003F7_1_0003F8, 0x03F9_0003F9_1_0003F2,
  0x03FA_0003FA_1_0003FB, 0x03FD_0003FF_1_00037B, 0x0400_00040F_1_000450, 0x0410_00042F_1_000430,
  0x0460_000480_2_000461, 0x048A_0004BE_2_00048B, 0x04C0_0004C0_1_0004CF, 0x04C1_0004CD_2_0004C2,
  0x04D0_00052E_2_0004D1, 0x0531_000556_1_000561, 0x10A0_0010C5_1_002D00, 0x10C7_0010C7_1_002D27,
  0x10CD_0010CD_1_002D2D, 0x13A0_0013EF_1_00AB70, 0x13F0_0013F5_1_0013F8, 0x1C89_001C89_1_001C8A,
  0x1C90_001CBA_1_0010D0, 0x1CBD_001CBF_1_0010FD, 0x1E00_001E94_2_001E01, 0x1E9E_001E9E_1_0000DF,
  0x1EA0_001EFE_2_001EA1, 0x1F08_001F0F_1_001F00, 0x1F18_001F1D_1_001F10, 0x1F28_001F2F_1_001F20,
  0x1F38_001F3F_1_001F30, 0x1F48_001F4D_1_001F40, 0x1F59_001F5F_2_001F51, 0x1F68_001F6F_1_001F60,
  0x1F88_001F8F_1_001F80, 0x1F98_001F9F_1_001F90, 0x1FA8_001FAF_1_001FA0, 0x1FB8_001FB9_1_001FB0,
  0x1FBA_001FBB_1_001F70, 0x1FBC_001FBC_1_001FB3, 0x1FC8_001FCB_1_001F72, 0x1FCC_001FCC_1_001FC3,
  0x1FD8_001FD9_1_001FD0, 0x1FDA_001FDB_1_001F76, 0x1FE8_001FE9_1_001FE0, 0x1FEA_001FEB_1_001F7A,
  0x1FEC_001FEC_1_001FE5, 0x1FF8_001FF9_1_001F78, 0x1FFA_001FFB_1_001F7C, 0x1FFC_001FFC_1_001FF3,
  0x2126_002126_1_0003C9, 0x212A_00212A_1_00006B, 0x212B_00212B_1_0000E5, 0x2132_002132_1_00214E,
  0x2160_00216F_1_002170, 0x2183_002183_1_002184, 0x24B6_0024CF_1_0024D0, 0x2C00_002C2F_1_002C30,
  0x2C60_002C60_1_002C61, 0x2C62_002C62_1_00026B, 0x2C63_002C63_1_001D7D, 0x2C64_002C64_1_00027D,
  0x2C67_002C6B_2_002C68, 0x2C6D_002C6D_1_000251, 0x2C6E_002C6E_1_000271, 0x2C6F_002C6F_1_000250,
  0x2C70_002C70_1_000252, 0x2C72_002C72_1_002C73, 0x2C75_002C75_1_002C76, 0x2C7E_002C7F_1_00023F,
  0x2C80_002CE2_2_002C81, 0x2CEB_002CEB_1_002CEC, 0x2CED_002CED_1_002CEE, 0x2CF2_002CF2_1_002CF3,
  0xA640_00A66C_2_00A641, 0xA680_00A69A_2_00A681, 0xA722_00A72E_2_00A723, 0xA732_00A76E_2_00A733,
  0xA779_00A779_1_00A77A, 0xA77B_00A77B_1_00A77C, 0xA77D_00A77D_1_001D79, 0xA77E_00A786_2_00A77F,
  0xA78B_00A78B_1_00A78C, 0xA78D_00A78D_1_000265, 0xA790_00A790_1_00A791, 0xA792_00A792_1_00A793,
  0xA796_00A7A8_2_00A797, 0xA7AA_00A7AA_1_000266, 0xA7AB_00A7AB_1_00025C, 0xA7AC_00A7AC_1_000261,
  0xA7AD_00A7AD_1_00026C, 0xA7AE_00A7AE_1_00026A, 0xA7B0_00A7B0_1_00029E, 0xA7B1_00A7B1_1_000287,
  0xA7B2_00A7B2_1_00029D, 0xA7B3_00A7B3_1_00AB53, 0xA7B4_00A7C2_2_00A7B5, 0xA7C4_00A7C4_1_00A794,
  0xA7C5_00A7C5_1_000282, 0xA7C6_00A7C6_1_001D8E, 0xA7C7_00A7C7_1_00A7C8, 0xA7C9_00A7C9_1_00A7CA,
  0xA7CB_00A7CB_1_000264, 0xA7CC_00A7CC_1_00A7CD, 0xA7D0_00A7D0_1_00A7D1, 0xA7D6_00A7DA_2_00A7D7,
  0xA7DC_00A7DC_1_00019B, 0xA7F5_00A7F5_1_00A7F6, 0xFF21_00FF3A_1_00FF41, 0x10400_010427_1_010428,
  0x104B0_0104D3_1_0104D8, 0x10570_010594_2_010597, 0x10571_010579_2_010598,
  0x1057D_010589_2_0105A4, 0x1058D_010591_2_0105B4, 0x10595_010595_1_0105BC,
  0x10C80_010CB2_1_010CC0, 0x10D50_010D65_1_010D70, 0x118A0_0118BF_1_0118C0,
  0x16E40_016E5F_1_016E60, 0x1E900_01E921_1_01E922]

/-- The characters that simple case folding moves, each to the one that stands for its class. -/
def folding : List Shift := Shift.ofCodes [
  0x0041_00005A_1_000061, 0x00B5_0000B5_1_0003BC, 0x00C0_0000D6_1_0000E0, 0x00D8_0000DE_1_0000F8,
  0x0100_00012E_2_000101, 0x0132_000136_2_000133, 0x0139_000147_2_00013A, 0x014A_000176_2_00014B,
  0x0178_000178_1_0000FF, 0x0179_00017D_2_00017A, 0x017F_00017F_1_000073, 0x0181_000181_1_000253,
  0x0182_000182_1_000183, 0x0184_000184_1_000185, 0x0186_000186_1_000254, 0x0187_000187_1_000188,
  0x0189_00018A_1_000256, 0x018B_00018B_1_00018C, 0x018E_00018E_1_0001DD, 0x018F_00018F_1_000259,
  0x0190_000190_1_00025B, 0x0191_000191_1_000192, 0x0193_000193_1_000260, 0x0194_000194_1_000263,
  0x0196_000196_1_000269, 0x0197_000197_1_000268, 0x0198_000198_1_000199, 0x019C_00019C_1_00026F,
  0x019D_00019D_1_000272, 0x019F_00019F_1_000275, 0x01A0_0001A4_2_0001A1, 0x01A6_0001A6_1_000280,
  0x01A7_0001A7_1_0001A8, 0x01A9_0001A9_1_000283, 0x01AC_0001AC_1_0001AD, 0x01AE_0001AE_1_000288,
  0x01AF_0001AF_1_0001B0, 0x01B1_0001B2_1_00028A, 0x01B3_0001B3_1_0001B4, 0x01B5_0001B5_1_0001B6,
  0x01B7_0001B7_1_000292, 0x01B8_0001B8_1_0001B9, 0x01BC_0001BC_1_0001BD, 0x01C4_0001C4_1_0001C6,
  0x01C5_0001C5_1_0001C6, 0x01C7_0001C7_1_0001C9, 0x01C8_0001C8_1_0001C9, 0x01CA_0001CA_1_0001CC,
  0x01CB_0001DB_2_0001CC, 0x01DE_0001EE_2_0001DF, 0x01F1_0001F1_1_0001F3, 0x01F2_0001F2_1_0001F3,
  0x01F4_0001F4_1_0001F5, 0x01F6_0001F6_1_000195, 0x01F7_0001F7_1_0001BF, 0x01F8_00021E_2_0001F9,
  0x0220_000220_1_00019E, 0x0222_000232_2_000223, 0x023A_00023A_1_002C65, 0x023B_00023B_1_00023C,
  0x023D_00023D_1_00019A, 0x023E_00023E_1_002C66, 0x0241_000241_1_000242, 0x0243_000243_1_000180,
  0x0244_000244_1_000289, 0x0245_000245_1_00028C, 0x0246_00024E_2_000247, 0x0345_000345_1_0003B9,
  0x0370_000370_1_000371, 0x0372_000372_1_000373, 0x0376_000376_1_000377, 0x037F_00037F_1_0003F3,
  0x0386_000386_1_0003AC, 0x0388_00038A_1_0003AD, 0x038C_00038C_1_0003CC, 0x038E_00038F_1_0003CD,
  0x0391_0003A1_1_0003B1, 0x03A3_0003AB_1_0003C3, 0x03C2_0003C2_1_0003C3, 0x03CF_0003CF_1_0003D7,
  0x03D0_0003D0_1_0003B2, 0x03D1_0003D1_1_0003B8, 0x03D5_0003D5_1_0003C6, 0x03D6_0003D6_1_0003C0,
  0x03D8_0003EE_2_0003D9, 0x03F0_0003F0_1_0003BA, 0x03F1_0003F1_1_0003C1, 0x03F4_0003F4_1_0003B8,
  0x03F5_0003F5_1_0003B5, 0x03F7_0003F7_1_0003F8, 0x03F9_0003F9_1_0003F2, 0x03FA_0003FA_1_0003FB,
  0x03FD_0003FF_1_00037B, 0x0400_00040F_1_000450, 0x0410_00042F_1_000430, 0x0460_000480_2_000461,
  0x048A_0004BE_2_00048B, 0x04C0_0004C0_1_0004CF, 0x04C1_0004CD_2_0004C2, 0x04D0_00052E_2_0004D1,
  0x0531_000556_1_000561, 0x10A0_0010C5_1_002D00, 0x10C7_0010C7_1_002D27, 0x10CD_0010CD_1_002D2D,
  0x13F8_0013FD_1_0013F0, 0x1C80_001C80_1_000432, 0x1C81_001C81_1_000434, 0x1C82_001C82_1_00043E,
  0x1C83_001C84_1_000441, 0x1C85_001C85_1_000442, 0x1C86_001C86_1_00044A, 0x1C87_001C87_1_000463,
  0x1C88_001C88_1_00A64B, 0x1C89_001C89_1_001C8A, 0x1C90_001CBA_1_0010D0, 0x1CBD_001CBF_1_0010FD,
  0x1E00_001E94_2_001E01, 0x1E9B_001E9B_1_001E61, 0x1E9E_001E9E_1_0000DF, 0x1EA0_001EFE_2_001EA1,
  0x1F08_001F0F_1_001F00, 0x1F18_001F1D_1_001F10, 0x1F28_001F2F_1_001F20, 0x1F38_001F3F_1_001F30,
  0x1F48_001F4D_1_001F40, 0x1F59_001F5F_2_001F51, 0x1F68_001F6F_1_001F60, 0x1F88_001F8F_1_001F80,
  0x1F98_001F9F_1_001F90, 0x1FA8_001FAF_1_001FA0, 0x1FB8_001FB9_1_001FB0, 0x1FBA_001FBB_1_001F70,
  0x1FBC_001FBC_1_001FB3, 0x1FBE_001FBE_1_0003B9, 0x1FC8_001FCB_1_001F72, 0x1FCC_001FCC_1_001FC3,
  0x1FD3_001FD3_1_000390, 0x1FD8_001FD9_1_001FD0, 0x1FDA_001FDB_1_001F76, 0x1FE3_001FE3_1_0003B0,
  0x1FE8_001FE9_1_001FE0, 0x1FEA_001FEB_1_001F7A, 0x1FEC_001FEC_1_001FE5, 0x1FF8_001FF9_1_001F78,
  0x1FFA_001FFB_1_001F7C, 0x1FFC_001FFC_1_001FF3, 0x2126_002126_1_0003C9, 0x212A_00212A_1_00006B,
  0x212B_00212B_1_0000E5, 0x2132_002132_1_00214E, 0x2160_00216F_1_002170, 0x2183_002183_1_002184,
  0x24B6_0024CF_1_0024D0, 0x2C00_002C2F_1_002C30, 0x2C60_002C60_1_002C61, 0x2C62_002C62_1_00026B,
  0x2C63_002C63_1_001D7D, 0x2C64_002C64_1_00027D, 0x2C67_002C6B_2_002C68, 0x2C6D_002C6D_1_000251,
  0x2C6E_002C6E_1_000271, 0x2C6F_002C6F_1_000250, 0x2C70_002C70_1_000252, 0x2C72_002C72_1_002C73,
  0x2C75_002C75_1_002C76, 0x2C7E_002C7F_1_00023F, 0x2C80_002CE2_2_002C81, 0x2CEB_002CEB_1_002CEC,
  0x2CED_002CED_1_002CEE, 0x2CF2_002CF2_1_002CF3, 0xA640_00A66C_2_00A641, 0xA680_00A69A_2_00A681,
  0xA722_00A72E_2_00A723, 0xA732_00A76E_2_00A733, 0xA779_00A779_1_00A77A, 0xA77B_00A77B_1_00A77C,
  0xA77D_00A77D_1_001D79, 0xA77E_00A786_2_00A77F, 0xA78B_00A78B_1_00A78C, 0xA78D_00A78D_1_000265,
  0xA790_00A790_1_00A791, 0xA792_00A792_1_00A793, 0xA796_00A7A8_2_00A797, 0xA7AA_00A7AA_1_000266,
  0xA7AB_00A7AB_1_00025C, 0xA7AC_00A7AC_1_000261, 0xA7AD_00A7AD_1_00026C, 0xA7AE_00A7AE_1_00026A,
  0xA7B0_00A7B0_1_00029E, 0xA7B1_00A7B1_1_000287, 0xA7B2_00A7B2_1_00029D, 0xA7B3_00A7B3_1_00AB53,
  0xA7B4_00A7C2_2_00A7B5, 0xA7C4_00A7C4_1_00A794, 0xA7C5_00A7C5_1_000282, 0xA7C6_00A7C6_1_001D8E,
  0xA7C7_00A7C7_1_00A7C8, 0xA7C9_00A7C9_1_00A7CA, 0xA7CB_00A7CB_1_000264, 0xA7CC_00A7CC_1_00A7CD,
  0xA7D0_00A7D0_1_00A7D1, 0xA7D6_00A7DA_2_00A7D7, 0xA7DC_00A7DC_1_00019B, 0xA7F5_00A7F5_1_00A7F6,
  0xAB70_00ABBF_1_0013A0, 0xFB05_00FB05_1_00FB06, 0xFF21_00FF3A_1_00FF41, 0x10400_010427_1_010428,
  0x104B0_0104D3_1_0104D8, 0x10570_010594_2_010597, 0x10571_010579_2_010598,
  0x1057D_010589_2_0105A4, 0x1058D_010591_2_0105B4, 0x10595_010595_1_0105BC,
  0x10C80_010CB2_1_010CC0, 0x10D50_010D65_1_010D70, 0x118A0_0118BF_1_0118C0,
  0x16E40_016E5F_1_016E60, 0x1E900_01E921_1_01E922]

end AdFilter.Text.CaseTable
