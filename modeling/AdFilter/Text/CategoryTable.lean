import AdFilter.Text.Run

/-!
# The general categories as runs

One list for each general category of version 16 of the standard, in ascending order of the first
code points. Surrogates are not characters and the unassigned code points are those on no list, so
neither has a list of its own.
-/

namespace AdFilter.Text.CategoryTable

/-- The characters of general category *uppercase letter*. -/
def uppercaseLetter : List Run := Run.ofCodes [
  0x0041_00005A_1, 0x00C0_0000D6_1, 0x00D8_0000DE_1, 0x0100_000136_2, 0x0139_000147_2,
  0x014A_000176_2, 0x0178_000179_1, 0x017B_00017B_1, 0x017D_00017D_1, 0x0181_000182_1,
  0x0184_000184_1, 0x0186_000187_1, 0x0189_00018B_1, 0x018E_000191_1, 0x0193_000194_1,
  0x0196_000198_1, 0x019C_00019D_1, 0x019F_0001A0_1, 0x01A2_0001A2_1, 0x01A4_0001A4_1,
  0x01A6_0001A7_1, 0x01A9_0001A9_1, 0x01AC_0001AC_1, 0x01AE_0001AF_1, 0x01B1_0001B3_1,
  0x01B5_0001B5_1, 0x01B7_0001B8_1, 0x01BC_0001BC_1, 0x01C4_0001CD_3, 0x01CF_0001DB_2,
  0x01DE_0001EE_2, 0x01F1_0001F1_1, 0x01F4_0001F4_1, 0x01F6_0001F8_1, 0x01FA_000232_2,
  0x023A_00023B_1, 0x023D_00023E_1, 0x0241_000241_1, 0x0243_000246_1, 0x0248_00024E_2,
  0x0370_000370_1, 0x0372_000372_1, 0x0376_000376_1, 0x037F_00037F_1, 0x0386_000386_1,
  0x0388_00038A_1, 0x038C_00038C_1, 0x038E_00038F_1, 0x0391_0003A1_1, 0x03A3_0003AB_1,
  0x03CF_0003CF_1, 0x03D2_0003D4_1, 0x03D8_0003EE_2, 0x03F4_0003F4_1, 0x03F7_0003F7_1,
  0x03F9_0003FA_1, 0x03FD_00042F_1, 0x0460_000480_2, 0x048A_0004BE_2, 0x04C0_0004C1_1,
  0x04C3_0004CD_2, 0x04D0_00052E_2, 0x0531_000556_1, 0x10A0_0010C5_1, 0x10C7_0010C7_1,
  0x10CD_0010CD_1, 0x13A0_0013F5_1, 0x1C89_001C89_1, 0x1C90_001CBA_1, 0x1CBD_001CBF_1,
  0x1E00_001E94_2, 0x1E9E_001EFE_2, 0x1F08_001F0F_1, 0x1F18_001F1D_1, 0x1F28_001F2F_1,
  0x1F38_001F3F_1, 0x1F48_001F4D_1, 0x1F59_001F5F_2, 0x1F68_001F6F_1, 0x1FB8_001FBB_1,
  0x1FC8_001FCB_1, 0x1FD8_001FDB_1, 0x1FE8_001FEC_1, 0x1FF8_001FFB_1, 0x2102_002102_1,
  0x2107_002107_1, 0x210B_00210D_1, 0x2110_002112_1, 0x2115_002115_1, 0x2119_00211D_1,
  0x2124_002128_2, 0x212A_00212D_1, 0x2130_002133_1, 0x213E_00213F_1, 0x2145_002145_1,
  0x2183_002183_1, 0x2C00_002C2F_1, 0x2C60_002C60_1, 0x2C62_002C64_1, 0x2C67_002C6B_2,
  0x2C6D_002C70_1, 0x2C72_002C72_1, 0x2C75_002C75_1, 0x2C7E_002C80_1, 0x2C82_002CE2_2,
  0x2CEB_002CEB_1, 0x2CED_002CED_1, 0x2CF2_002CF2_1, 0xA640_00A66C_2, 0xA680_00A69A_2,
  0xA722_00A72E_2, 0xA732_00A76E_2, 0xA779_00A779_1, 0xA77B_00A77B_1, 0xA77D_00A77E_1,
  0xA780_00A786_2, 0xA78B_00A78B_1, 0xA78D_00A78D_1, 0xA790_00A790_1, 0xA792_00A792_1,
  0xA796_00A7A8_2, 0xA7AA_00A7AE_1, 0xA7B0_00A7B4_1, 0xA7B6_00A7C2_2, 0xA7C4_00A7C7_1,
  0xA7C9_00A7C9_1, 0xA7CB_00A7CC_1, 0xA7D0_00A7D0_1, 0xA7D6_00A7DC_2, 0xA7F5_00A7F5_1,
  0xFF21_00FF3A_1, 0x10400_010427_1, 0x104B0_0104D3_1, 0x10570_01057A_1, 0x1057C_01058A_1,
  0x1058C_010592_1, 0x10594_010595_1, 0x10C80_010CB2_1, 0x10D50_010D65_1, 0x118A0_0118BF_1,
  0x16E40_016E5F_1, 0x1D400_01D419_1, 0x1D434_01D44D_1, 0x1D468_01D481_1, 0x1D49C_01D49C_1,
  0x1D49E_01D49F_1, 0x1D4A2_01D4A2_1, 0x1D4A5_01D4A6_1, 0x1D4A9_01D4AC_1, 0x1D4AE_01D4B5_1,
  0x1D4D0_01D4E9_1, 0x1D504_01D505_1, 0x1D507_01D50A_1, 0x1D50D_01D514_1, 0x1D516_01D51C_1,
  0x1D538_01D539_1, 0x1D53B_01D53E_1, 0x1D540_01D544_1, 0x1D546_01D546_1, 0x1D54A_01D550_1,
  0x1D56C_01D585_1, 0x1D5A0_01D5B9_1, 0x1D5D4_01D5ED_1, 0x1D608_01D621_1, 0x1D63C_01D655_1,
  0x1D670_01D689_1, 0x1D6A8_01D6C0_1, 0x1D6E2_01D6FA_1, 0x1D71C_01D734_1, 0x1D756_01D76E_1,
  0x1D790_01D7A8_1, 0x1D7CA_01D7CA_1, 0x1E900_01E921_1]

/-- The characters of general category *lowercase letter*. -/
def lowercaseLetter : List Run := Run.ofCodes [
  0x0061_00007A_1, 0x00B5_0000B5_1, 0x00DF_0000F6_1, 0x00F8_0000FF_1, 0x0101_000135_2,
  0x0137_000138_1, 0x013A_000146_2, 0x0148_000149_1, 0x014B_000177_2, 0x017A_00017A_1,
  0x017C_00017C_1, 0x017E_000180_1, 0x0183_000183_1, 0x0185_000185_1, 0x0188_000188_1,
  0x018C_00018D_1, 0x0192_000192_1, 0x0195_000195_1, 0x0199_00019B_1, 0x019E_00019E_1,
  0x01A1_0001A5_2, 0x01A8_0001A8_1, 0x01AA_0001AB_1, 0x01AD_0001AD_1, 0x01B0_0001B0_1,
  0x01B4_0001B4_1, 0x01B6_0001B6_1, 0x01B9_0001BA_1, 0x01BD_0001BF_1, 0x01C6_0001CC_3,
  0x01CE_0001DA_2, 0x01DC_0001DD_1, 0x01DF_0001ED_2, 0x01EF_0001F0_1, 0x01F3_0001F3_1,
  0x01F5_0001F5_1, 0x01F9_000231_2, 0x0233_000239_1, 0x023C_00023C_1, 0x023F_000240_1,
  0x0242_000242_1, 0x0247_00024D_2, 0x024F_000293_1, 0x0296_0002AF_1, 0x0371_000371_1,
  0x0373_000373_1, 0x0377_000377_1, 0x037B_00037D_1, 0x0390_000390_1, 0x03AC_0003CE_1,
  0x03D0_0003D1_1, 0x03D5_0003D7_1, 0x03D9_0003ED_2, 0x03EF_0003F3_1, 0x03F5_0003F5_1,
  0x03F8_0003F8_1, 0x03FB_0003FC_1, 0x0430_00045F_1, 0x0461_000481_2, 0x048B_0004BF_2,
  0x04C2_0004CC_2, 0x04CE_0004CF_1, 0x04D1_00052F_2, 0x0560_000588_1, 0x10D0_0010FA_1,
  0x10FD_0010FF_1, 0x13F8_0013FD_1, 0x1C80_001C88_1, 0x1C8A_001C8A_1, 0x1D00_001D2B_1,
  0x1D6B_001D77_1, 0x1D79_001D9A_1, 0x1E01_001E93_2, 0x1E95_001E9D_1, 0x1E9F_001EFD_2,
  0x1EFF_001F07_1, 0x1F10_001F15_1, 0x1F20_001F27_1, 0x1F30_001F37_1, 0x1F40_001F45_1,
  0x1F50_001F57_1, 0x1F60_001F67_1, 0x1F70_001F7D_1, 0x1F80_001F87_1, 0x1F90_001F97_1,
  0x1FA0_001FA7_1, 0x1FB0_001FB4_1, 0x1FB6_001FB7_1, 0x1FBE_001FBE_1, 0x1FC2_001FC4_1,
  0x1FC6_001FC7_1, 0x1FD0_001FD3_1, 0x1FD6_001FD7_1, 0x1FE0_001FE7_1, 0x1FF2_001FF4_1,
  0x1FF6_001FF7_1, 0x210A_00210A_1, 0x210E_00210F_1, 0x2113_002113_1, 0x212F_002139_5,
  0x213C_00213D_1, 0x2146_002149_1, 0x214E_00214E_1, 0x2184_002184_1, 0x2C30_002C5F_1,
  0x2C61_002C61_1, 0x2C65_002C66_1, 0x2C68_002C6C_2, 0x2C71_002C71_1, 0x2C73_002C74_1,
  0x2C76_002C7B_1, 0x2C81_002CE1_2, 0x2CE3_002CE4_1, 0x2CEC_002CEC_1, 0x2CEE_002CEE_1,
  0x2CF3_002CF3_1, 0x2D00_002D25_1, 0x2D27_002D27_1, 0x2D2D_002D2D_1, 0xA641_00A66D_2,
  0xA681_00A69B_2, 0xA723_00A72D_2, 0xA72F_00A731_1, 0xA733_00A76F_2, 0xA771_00A778_1,
  0xA77A_00A77A_1, 0xA77C_00A77C_1, 0xA77F_00A787_2, 0xA78C_00A78C_1, 0xA78E_00A78E_1,
  0xA791_00A791_1, 0xA793_00A795_1, 0xA797_00A7A9_2, 0xA7AF_00A7AF_1, 0xA7B5_00A7C3_2,
  0xA7C8_00A7C8_1, 0xA7CA_00A7CA_1, 0xA7CD_00A7CD_1, 0xA7D1_00A7DB_2, 0xA7F6_00A7F6_1,
  0xA7FA_00A7FA_1, 0xAB30_00AB5A_1, 0xAB60_00AB68_1, 0xAB70_00ABBF_1, 0xFB00_00FB06_1,
  0xFB13_00FB17_1, 0xFF41_00FF5A_1, 0x10428_01044F_1, 0x104D8_0104FB_1, 0x10597_0105A1_1,
  0x105A3_0105B1_1, 0x105B3_0105B9_1, 0x105BB_0105BC_1, 0x10CC0_010CF2_1, 0x10D70_010D85_1,
  0x118C0_0118DF_1, 0x16E60_016E7F_1, 0x1D41A_01D433_1, 0x1D44E_01D454_1, 0x1D456_01D467_1,
  0x1D482_01D49B_1, 0x1D4B6_01D4B9_1, 0x1D4BB_01D4BB_1, 0x1D4BD_01D4C3_1, 0x1D4C5_01D4CF_1,
  0x1D4EA_01D503_1, 0x1D51E_01D537_1, 0x1D552_01D56B_1, 0x1D586_01D59F_1, 0x1D5BA_01D5D3_1,
  0x1D5EE_01D607_1, 0x1D622_01D63B_1, 0x1D656_01D66F_1, 0x1D68A_01D6A5_1, 0x1D6C2_01D6DA_1,
  0x1D6DC_01D6E1_1, 0x1D6FC_01D714_1, 0x1D716_01D71B_1, 0x1D736_01D74E_1, 0x1D750_01D755_1,
  0x1D770_01D788_1, 0x1D78A_01D78F_1, 0x1D7AA_01D7C2_1, 0x1D7C4_01D7C9_1, 0x1D7CB_01D7CB_1,
  0x1DF00_01DF09_1, 0x1DF0B_01DF1E_1, 0x1DF25_01DF2A_1, 0x1E922_01E943_1]

/-- The characters of general category *titlecase letter*. -/
def titlecaseLetter : List Run := Run.ofCodes [
  0x01C5_0001CB_3, 0x01F2_0001F2_1, 0x1F88_001F8F_1, 0x1F98_001F9F_1, 0x1FA8_001FAF_1,
  0x1FBC_001FBC_1, 0x1FCC_001FCC_1, 0x1FFC_001FFC_1]

/-- The characters of general category *modifier letter*. -/
def modifierLetter : List Run := Run.ofCodes [
  0x02B0_0002C1_1, 0x02C6_0002D1_1, 0x02E0_0002E4_1, 0x02EC_0002EC_1, 0x02EE_0002EE_1,
  0x0374_000374_1, 0x037A_00037A_1, 0x0559_000559_1, 0x0640_000640_1, 0x06E5_0006E6_1,
  0x07F4_0007F5_1, 0x07FA_0007FA_1, 0x081A_00081A_1, 0x0824_000824_1, 0x0828_000828_1,
  0x08C9_0008C9_1, 0x0971_000971_1, 0x0E46_000E46_1, 0x0EC6_000EC6_1, 0x10FC_0010FC_1,
  0x17D7_0017D7_1, 0x1843_001843_1, 0x1AA7_001AA7_1, 0x1C78_001C7D_1, 0x1D2C_001D6A_1,
  0x1D78_001D78_1, 0x1D9B_001DBF_1, 0x2071_002071_1, 0x207F_00207F_1, 0x2090_00209C_1,
  0x2C7C_002C7D_1, 0x2D6F_002D6F_1, 0x2E2F_002E2F_1, 0x3005_003005_1, 0x3031_003035_1,
  0x303B_00303B_1, 0x309D_00309E_1, 0x30FC_0030FE_1, 0xA015_00A015_1, 0xA4F8_00A4FD_1,
  0xA60C_00A60C_1, 0xA67F_00A67F_1, 0xA69C_00A69D_1, 0xA717_00A71F_1, 0xA770_00A770_1,
  0xA788_00A788_1, 0xA7F2_00A7F4_1, 0xA7F8_00A7F9_1, 0xA9CF_00A9CF_1, 0xA9E6_00A9E6_1,
  0xAA70_00AA70_1, 0xAADD_00AADD_1, 0xAAF3_00AAF4_1, 0xAB5C_00AB5F_1, 0xAB69_00AB69_1,
  0xFF70_00FF70_1, 0xFF9E_00FF9F_1, 0x10780_010785_1, 0x10787_0107B0_1, 0x107B2_0107BA_1,
  0x10D4E_010D4E_1, 0x10D6F_010D6F_1, 0x16B40_016B43_1, 0x16D40_016D42_1, 0x16D6B_016D6C_1,
  0x16F93_016F9F_1, 0x16FE0_016FE1_1, 0x16FE3_016FE3_1, 0x1AFF0_01AFF3_1, 0x1AFF5_01AFFB_1,
  0x1AFFD_01AFFE_1, 0x1E030_01E06D_1, 0x1E137_01E13D_1, 0x1E4EB_01E4EB_1, 0x1E94B_01E94B_1]

set_option maxRecDepth 6264 in
/-- The characters of general category *other letter*. -/
def otherLetter : List Run := Run.ofCodes [
  0x00AA_0000AA_1, 0x00BA_0000BA_1, 0x01BB_0001BB_1, 0x01C0_0001C3_1, 0x0294_000295_1,
  0x05D0_0005EA_1, 0x05EF_0005F2_1, 0x0620_00063F_1, 0x0641_00064A_1, 0x066E_00066F_1,
  0x0671_0006D3_1, 0x06D5_0006D5_1, 0x06EE_0006EF_1, 0x06FA_0006FC_1, 0x06FF_0006FF_1,
  0x0710_000710_1, 0x0712_00072F_1, 0x074D_0007A5_1, 0x07B1_0007B1_1, 0x07CA_0007EA_1,
  0x0800_000815_1, 0x0840_000858_1, 0x0860_00086A_1, 0x0870_000887_1, 0x0889_00088E_1,
  0x08A0_0008C8_1, 0x0904_000939_1, 0x093D_00093D_1, 0x0950_000950_1, 0x0958_000961_1,
  0x0972_000980_1, 0x0985_00098C_1, 0x098F_000990_1, 0x0993_0009A8_1, 0x09AA_0009B0_1,
  0x09B2_0009B2_1, 0x09B6_0009B9_1, 0x09BD_0009BD_1, 0x09CE_0009CE_1, 0x09DC_0009DD_1,
  0x09DF_0009E1_1, 0x09F0_0009F1_1, 0x09FC_0009FC_1, 0x0A05_000A0A_1, 0x0A0F_000A10_1,
  0x0A13_000A28_1, 0x0A2A_000A30_1, 0x0A32_000A33_1, 0x0A35_000A36_1, 0x0A38_000A39_1,
  0x0A59_000A5C_1, 0x0A5E_000A5E_1, 0x0A72_000A74_1, 0x0A85_000A8D_1, 0x0A8F_000A91_1,
  0x0A93_000AA8_1, 0x0AAA_000AB0_1, 0x0AB2_000AB3_1, 0x0AB5_000AB9_1, 0x0ABD_000ABD_1,
  0x0AD0_000AD0_1, 0x0AE0_000AE1_1, 0x0AF9_000AF9_1, 0x0B05_000B0C_1, 0x0B0F_000B10_1,
  0x0B13_000B28_1, 0x0B2A_000B30_1, 0x0B32_000B33_1, 0x0B35_000B39_1, 0x0B3D_000B3D_1,
  0x0B5C_000B5D_1, 0x0B5F_000B61_1, 0x0B71_000B71_1, 0x0B83_000B83_1, 0x0B85_000B8A_1,
  0x0B8E_000B90_1, 0x0B92_000B95_1, 0x0B99_000B9A_1, 0x0B9C_000B9C_1, 0x0B9E_000B9F_1,
  0x0BA3_000BA4_1, 0x0BA8_000BAA_1, 0x0BAE_000BB9_1, 0x0BD0_000BD0_1, 0x0C05_000C0C_1,
  0x0C0E_000C10_1, 0x0C12_000C28_1, 0x0C2A_000C39_1, 0x0C3D_000C3D_1, 0x0C58_000C5A_1,
  0x0C5D_000C5D_1, 0x0C60_000C61_1, 0x0C80_000C80_1, 0x0C85_000C8C_1, 0x0C8E_000C90_1,
  0x0C92_000CA8_1, 0x0CAA_000CB3_1, 0x0CB5_000CB9_1, 0x0CBD_000CBD_1, 0x0CDD_000CDE_1,
  0x0CE0_000CE1_1, 0x0CF1_000CF2_1, 0x0D04_000D0C_1, 0x0D0E_000D10_1, 0x0D12_000D3A_1,
  0x0D3D_000D3D_1, 0x0D4E_000D4E_1, 0x0D54_000D56_1, 0x0D5F_000D61_1, 0x0D7A_000D7F_1,
  0x0D85_000D96_1, 0x0D9A_000DB1_1, 0x0DB3_000DBB_1, 0x0DBD_000DBD_1, 0x0DC0_000DC6_1,
  0x0E01_000E30_1, 0x0E32_000E33_1, 0x0E40_000E45_1, 0x0E81_000E82_1, 0x0E84_000E84_1,
  0x0E86_000E8A_1, 0x0E8C_000EA3_1, 0x0EA5_000EA5_1, 0x0EA7_000EB0_1, 0x0EB2_000EB3_1,
  0x0EBD_000EBD_1, 0x0EC0_000EC4_1, 0x0EDC_000EDF_1, 0x0F00_000F00_1, 0x0F40_000F47_1,
  0x0F49_000F6C_1, 0x0F88_000F8C_1, 0x1000_00102A_1, 0x103F_00103F_1, 0x1050_001055_1,
  0x105A_00105D_1, 0x1061_001061_1, 0x1065_001066_1, 0x106E_001070_1, 0x1075_001081_1,
  0x108E_00108E_1, 0x1100_001248_1, 0x124A_00124D_1, 0x1250_001256_1, 0x1258_001258_1,
  0x125A_00125D_1, 0x1260_001288_1, 0x128A_00128D_1, 0x1290_0012B0_1, 0x12B2_0012B5_1,
  0x12B8_0012BE_1, 0x12C0_0012C0_1, 0x12C2_0012C5_1, 0x12C8_0012D6_1, 0x12D8_001310_1,
  0x1312_001315_1, 0x1318_00135A_1, 0x1380_00138F_1, 0x1401_00166C_1, 0x166F_00167F_1,
  0x1681_00169A_1, 0x16A0_0016EA_1, 0x16F1_0016F8_1, 0x1700_001711_1, 0x171F_001731_1,
  0x1740_001751_1, 0x1760_00176C_1, 0x176E_001770_1, 0x1780_0017B3_1, 0x17DC_0017DC_1,
  0x1820_001842_1, 0x1844_001878_1, 0x1880_001884_1, 0x1887_0018A8_1, 0x18AA_0018AA_1,
  0x18B0_0018F5_1, 0x1900_00191E_1, 0x1950_00196D_1, 0x1970_001974_1, 0x1980_0019AB_1,
  0x19B0_0019C9_1, 0x1A00_001A16_1, 0x1A20_001A54_1, 0x1B05_001B33_1, 0x1B45_001B4C_1,
  0x1B83_001BA0_1, 0x1BAE_001BAF_1, 0x1BBA_001BE5_1, 0x1C00_001C23_1, 0x1C4D_001C4F_1,
  0x1C5A_001C77_1, 0x1CE9_001CEC_1, 0x1CEE_001CF3_1, 0x1CF5_001CF6_1, 0x1CFA_001CFA_1,
  0x2135_002138_1, 0x2D30_002D67_1, 0x2D80_002D96_1, 0x2DA0_002DA6_1, 0x2DA8_002DAE_1,
  0x2DB0_002DB6_1, 0x2DB8_002DBE_1, 0x2DC0_002DC6_1, 0x2DC8_002DCE_1, 0x2DD0_002DD6_1,
  0x2DD8_002DDE_1, 0x3006_003006_1, 0x303C_00303C_1, 0x3041_003096_1, 0x309F_00309F_1,
  0x30A1_0030FA_1, 0x30FF_0030FF_1, 0x3105_00312F_1, 0x3131_00318E_1, 0x31A0_0031BF_1,
  0x31F0_0031FF_1, 0x3400_004DBF_1, 0x4E00_00A014_1, 0xA016_00A48C_1, 0xA4D0_00A4F7_1,
  0xA500_00A60B_1, 0xA610_00A61F_1, 0xA62A_00A62B_1, 0xA66E_00A66E_1, 0xA6A0_00A6E5_1,
  0xA78F_00A78F_1, 0xA7F7_00A7F7_1, 0xA7FB_00A801_1, 0xA803_00A805_1, 0xA807_00A80A_1,
  0xA80C_00A822_1, 0xA840_00A873_1, 0xA882_00A8B3_1, 0xA8F2_00A8F7_1, 0xA8FB_00A8FB_1,
  0xA8FD_00A8FE_1, 0xA90A_00A925_1, 0xA930_00A946_1, 0xA960_00A97C_1, 0xA984_00A9B2_1,
  0xA9E0_00A9E4_1, 0xA9E7_00A9EF_1, 0xA9FA_00A9FE_1, 0xAA00_00AA28_1, 0xAA40_00AA42_1,
  0xAA44_00AA4B_1, 0xAA60_00AA6F_1, 0xAA71_00AA76_1, 0xAA7A_00AA7A_1, 0xAA7E_00AAAF_1,
  0xAAB1_00AAB1_1, 0xAAB5_00AAB6_1, 0xAAB9_00AABD_1, 0xAAC0_00AAC0_1, 0xAAC2_00AAC2_1,
  0xAADB_00AADC_1, 0xAAE0_00AAEA_1, 0xAAF2_00AAF2_1, 0xAB01_00AB06_1, 0xAB09_00AB0E_1,
  0xAB11_00AB16_1, 0xAB20_00AB26_1, 0xAB28_00AB2E_1, 0xABC0_00ABE2_1, 0xAC00_00D7A3_1,
  0xD7B0_00D7C6_1, 0xD7CB_00D7FB_1, 0xF900_00FA6D_1, 0xFA70_00FAD9_1, 0xFB1D_00FB1D_1,
  0xFB1F_00FB28_1, 0xFB2A_00FB36_1, 0xFB38_00FB3C_1, 0xFB3E_00FB3E_1, 0xFB40_00FB41_1,
  0xFB43_00FB44_1, 0xFB46_00FBB1_1, 0xFBD3_00FD3D_1, 0xFD50_00FD8F_1, 0xFD92_00FDC7_1,
  0xFDF0_00FDFB_1, 0xFE70_00FE74_1, 0xFE76_00FEFC_1, 0xFF66_00FF6F_1, 0xFF71_00FF9D_1,
  0xFFA0_00FFBE_1, 0xFFC2_00FFC7_1, 0xFFCA_00FFCF_1, 0xFFD2_00FFD7_1, 0xFFDA_00FFDC_1,
  0x10000_01000B_1, 0x1000D_010026_1, 0x10028_01003A_1, 0x1003C_01003D_1, 0x1003F_01004D_1,
  0x10050_01005D_1, 0x10080_0100FA_1, 0x10280_01029C_1, 0x102A0_0102D0_1, 0x10300_01031F_1,
  0x1032D_010340_1, 0x10342_010349_1, 0x10350_010375_1, 0x10380_01039D_1, 0x103A0_0103C3_1,
  0x103C8_0103CF_1, 0x10450_01049D_1, 0x10500_010527_1, 0x10530_010563_1, 0x105C0_0105F3_1,
  0x10600_010736_1, 0x10740_010755_1, 0x10760_010767_1, 0x10800_010805_1, 0x10808_010808_1,
  0x1080A_010835_1, 0x10837_010838_1, 0x1083C_01083C_1, 0x1083F_010855_1, 0x10860_010876_1,
  0x10880_01089E_1, 0x108E0_0108F2_1, 0x108F4_0108F5_1, 0x10900_010915_1, 0x10920_010939_1,
  0x10980_0109B7_1, 0x109BE_0109BF_1, 0x10A00_010A00_1, 0x10A10_010A13_1, 0x10A15_010A17_1,
  0x10A19_010A35_1, 0x10A60_010A7C_1, 0x10A80_010A9C_1, 0x10AC0_010AC7_1, 0x10AC9_010AE4_1,
  0x10B00_010B35_1, 0x10B40_010B55_1, 0x10B60_010B72_1, 0x10B80_010B91_1, 0x10C00_010C48_1,
  0x10D00_010D23_1, 0x10D4A_010D4D_1, 0x10D4F_010D4F_1, 0x10E80_010EA9_1, 0x10EB0_010EB1_1,
  0x10EC2_010EC4_1, 0x10F00_010F1C_1, 0x10F27_010F27_1, 0x10F30_010F45_1, 0x10F70_010F81_1,
  0x10FB0_010FC4_1, 0x10FE0_010FF6_1, 0x11003_011037_1, 0x11071_011072_1, 0x11075_011075_1,
  0x11083_0110AF_1, 0x110D0_0110E8_1, 0x11103_011126_1, 0x11144_011144_1, 0x11147_011147_1,
  0x11150_011172_1, 0x11176_011176_1, 0x11183_0111B2_1, 0x111C1_0111C4_1, 0x111DA_0111DA_1,
  0x111DC_0111DC_1, 0x11200_011211_1, 0x11213_01122B_1, 0x1123F_011240_1, 0x11280_011286_1,
  0x11288_011288_1, 0x1128A_01128D_1, 0x1128F_01129D_1, 0x1129F_0112A8_1, 0x112B0_0112DE_1,
  0x11305_01130C_1, 0x1130F_011310_1, 0x11313_011328_1, 0x1132A_011330_1, 0x11332_011333_1,
  0x11335_011339_1, 0x1133D_01133D_1, 0x11350_011350_1, 0x1135D_011361_1, 0x11380_011389_1,
  0x1138B_01138B_1, 0x1138E_01138E_1, 0x11390_0113B5_1, 0x113B7_0113B7_1, 0x113D1_0113D1_1,
  0x113D3_0113D3_1, 0x11400_011434_1, 0x11447_01144A_1, 0x1145F_011461_1, 0x11480_0114AF_1,
  0x114C4_0114C5_1, 0x114C7_0114C7_1, 0x11580_0115AE_1, 0x115D8_0115DB_1, 0x11600_01162F_1,
  0x11644_011644_1, 0x11680_0116AA_1, 0x116B8_0116B8_1, 0x11700_01171A_1, 0x11740_011746_1,
  0x11800_01182B_1, 0x118FF_011906_1, 0x11909_011909_1, 0x1190C_011913_1, 0x11915_011916_1,
  0x11918_01192F_1, 0x1193F_01193F_1, 0x11941_011941_1, 0x119A0_0119A7_1, 0x119AA_0119D0_1,
  0x119E1_0119E1_1, 0x119E3_0119E3_1, 0x11A00_011A00_1, 0x11A0B_011A32_1, 0x11A3A_011A3A_1,
  0x11A50_011A50_1, 0x11A5C_011A89_1, 0x11A9D_011A9D_1, 0x11AB0_011AF8_1, 0x11BC0_011BE0_1,
  0x11C00_011C08_1, 0x11C0A_011C2E_1, 0x11C40_011C40_1, 0x11C72_011C8F_1, 0x11D00_011D06_1,
  0x11D08_011D09_1, 0x11D0B_011D30_1, 0x11D46_011D46_1, 0x11D60_011D65_1, 0x11D67_011D68_1,
  0x11D6A_011D89_1, 0x11D98_011D98_1, 0x11EE0_011EF2_1, 0x11F02_011F02_1, 0x11F04_011F10_1,
  0x11F12_011F33_1, 0x11FB0_011FB0_1, 0x12000_012399_1, 0x12480_012543_1, 0x12F90_012FF0_1,
  0x13000_01342F_1, 0x13441_013446_1, 0x13460_0143FA_1, 0x14400_014646_1, 0x16100_01611D_1,
  0x16800_016A38_1, 0x16A40_016A5E_1, 0x16A70_016ABE_1, 0x16AD0_016AED_1, 0x16B00_016B2F_1,
  0x16B63_016B77_1, 0x16B7D_016B8F_1, 0x16D43_016D6A_1, 0x16F00_016F4A_1, 0x16F50_016F50_1,
  0x17000_0187F7_1, 0x18800_018CD5_1, 0x18CFF_018D08_1, 0x1B000_01B122_1, 0x1B132_01B132_1,
  0x1B150_01B152_1, 0x1B155_01B155_1, 0x1B164_01B167_1, 0x1B170_01B2FB_1, 0x1BC00_01BC6A_1,
  0x1BC70_01BC7C_1, 0x1BC80_01BC88_1, 0x1BC90_01BC99_1, 0x1DF0A_01DF0A_1, 0x1E100_01E12C_1,
  0x1E14E_01E14E_1, 0x1E290_01E2AD_1, 0x1E2C0_01E2EB_1, 0x1E4D0_01E4EA_1, 0x1E5D0_01E5ED_1,
  0x1E5F0_01E5F0_1, 0x1E7E0_01E7E6_1, 0x1E7E8_01E7EB_1, 0x1E7ED_01E7EE_1, 0x1E7F0_01E7FE_1,
  0x1E800_01E8C4_1, 0x1EE00_01EE03_1, 0x1EE05_01EE1F_1, 0x1EE21_01EE22_1, 0x1EE24_01EE24_1,
  0x1EE27_01EE27_1, 0x1EE29_01EE32_1, 0x1EE34_01EE37_1, 0x1EE39_01EE39_1, 0x1EE3B_01EE3B_1,
  0x1EE42_01EE42_1, 0x1EE47_01EE4B_2, 0x1EE4D_01EE4F_1, 0x1EE51_01EE52_1, 0x1EE54_01EE54_1,
  0x1EE57_01EE5F_2, 0x1EE61_01EE62_1, 0x1EE64_01EE64_1, 0x1EE67_01EE6A_1, 0x1EE6C_01EE72_1,
  0x1EE74_01EE77_1, 0x1EE79_01EE7C_1, 0x1EE7E_01EE7E_1, 0x1EE80_01EE89_1, 0x1EE8B_01EE9B_1,
  0x1EEA1_01EEA3_1, 0x1EEA5_01EEA9_1, 0x1EEAB_01EEBB_1, 0x20000_02A6DF_1, 0x2A700_02B739_1,
  0x2B740_02B81D_1, 0x2B820_02CEA1_1, 0x2CEB0_02EBE0_1, 0x2EBF0_02EE5D_1, 0x2F800_02FA1D_1,
  0x30000_03134A_1, 0x31350_0323AF_1]

/-- The characters of general category *nonspacing mark*. -/
def nonspacingMark : List Run := Run.ofCodes [
  0x0300_00036F_1, 0x0483_000487_1, 0x0591_0005BD_1, 0x05BF_0005BF_1, 0x05C1_0005C2_1,
  0x05C4_0005C5_1, 0x05C7_0005C7_1, 0x0610_00061A_1, 0x064B_00065F_1, 0x0670_000670_1,
  0x06D6_0006DC_1, 0x06DF_0006E4_1, 0x06E7_0006E8_1, 0x06EA_0006ED_1, 0x0711_000711_1,
  0x0730_00074A_1, 0x07A6_0007B0_1, 0x07EB_0007F3_1, 0x07FD_0007FD_1, 0x0816_000819_1,
  0x081B_000823_1, 0x0825_000827_1, 0x0829_00082D_1, 0x0859_00085B_1, 0x0897_00089F_1,
  0x08CA_0008E1_1, 0x08E3_000902_1, 0x093A_00093A_1, 0x093C_00093C_1, 0x0941_000948_1,
  0x094D_00094D_1, 0x0951_000957_1, 0x0962_000963_1, 0x0981_000981_1, 0x09BC_0009BC_1,
  0x09C1_0009C4_1, 0x09CD_0009CD_1, 0x09E2_0009E3_1, 0x09FE_0009FE_1, 0x0A01_000A02_1,
  0x0A3C_000A3C_1, 0x0A41_000A42_1, 0x0A47_000A48_1, 0x0A4B_000A4D_1, 0x0A51_000A51_1,
  0x0A70_000A71_1, 0x0A75_000A75_1, 0x0A81_000A82_1, 0x0ABC_000ABC_1, 0x0AC1_000AC5_1,
  0x0AC7_000AC8_1, 0x0ACD_000ACD_1, 0x0AE2_000AE3_1, 0x0AFA_000AFF_1, 0x0B01_000B01_1,
  0x0B3C_000B3C_1, 0x0B3F_000B3F_1, 0x0B41_000B44_1, 0x0B4D_000B4D_1, 0x0B55_000B56_1,
  0x0B62_000B63_1, 0x0B82_000B82_1, 0x0BC0_000BC0_1, 0x0BCD_000BCD_1, 0x0C00_000C00_1,
  0x0C04_000C04_1, 0x0C3C_000C3C_1, 0x0C3E_000C40_1, 0x0C46_000C48_1, 0x0C4A_000C4D_1,
  0x0C55_000C56_1, 0x0C62_000C63_1, 0x0C81_000C81_1, 0x0CBC_000CBC_1, 0x0CBF_000CBF_1,
  0x0CC6_000CC6_1, 0x0CCC_000CCD_1, 0x0CE2_000CE3_1, 0x0D00_000D01_1, 0x0D3B_000D3C_1,
  0x0D41_000D44_1, 0x0D4D_000D4D_1, 0x0D62_000D63_1, 0x0D81_000D81_1, 0x0DCA_000DCA_1,
  0x0DD2_000DD4_1, 0x0DD6_000DD6_1, 0x0E31_000E31_1, 0x0E34_000E3A_1, 0x0E47_000E4E_1,
  0x0EB1_000EB1_1, 0x0EB4_000EBC_1, 0x0EC8_000ECE_1, 0x0F18_000F19_1, 0x0F35_000F39_2,
  0x0F71_000F7E_1, 0x0F80_000F84_1, 0x0F86_000F87_1, 0x0F8D_000F97_1, 0x0F99_000FBC_1,
  0x0FC6_000FC6_1, 0x102D_001030_1, 0x1032_001037_1, 0x1039_00103A_1, 0x103D_00103E_1,
  0x1058_001059_1, 0x105E_001060_1, 0x1071_001074_1, 0x1082_001082_1, 0x1085_001086_1,
  0x108D_00108D_1, 0x109D_00109D_1, 0x135D_00135F_1, 0x1712_001714_1, 0x1732_001733_1,
  0x1752_001753_1, 0x1772_001773_1, 0x17B4_0017B5_1, 0x17B7_0017BD_1, 0x17C6_0017C6_1,
  0x17C9_0017D3_1, 0x17DD_0017DD_1, 0x180B_00180D_1, 0x180F_00180F_1, 0x1885_001886_1,
  0x18A9_0018A9_1, 0x1920_001922_1, 0x1927_001928_1, 0x1932_001932_1, 0x1939_00193B_1,
  0x1A17_001A18_1, 0x1A1B_001A1B_1, 0x1A56_001A56_1, 0x1A58_001A5E_1, 0x1A60_001A60_1,
  0x1A62_001A62_1, 0x1A65_001A6C_1, 0x1A73_001A7C_1, 0x1A7F_001A7F_1, 0x1AB0_001ABD_1,
  0x1ABF_001ACE_1, 0x1B00_001B03_1, 0x1B34_001B34_1, 0x1B36_001B3A_1, 0x1B3C_001B3C_1,
  0x1B42_001B42_1, 0x1B6B_001B73_1, 0x1B80_001B81_1, 0x1BA2_001BA5_1, 0x1BA8_001BA9_1,
  0x1BAB_001BAD_1, 0x1BE6_001BE6_1, 0x1BE8_001BE9_1, 0x1BED_001BED_1, 0x1BEF_001BF1_1,
  0x1C2C_001C33_1, 0x1C36_001C37_1, 0x1CD0_001CD2_1, 0x1CD4_001CE0_1, 0x1CE2_001CE8_1,
  0x1CED_001CED_1, 0x1CF4_001CF4_1, 0x1CF8_001CF9_1, 0x1DC0_001DFF_1, 0x20D0_0020DC_1,
  0x20E1_0020E1_1, 0x20E5_0020F0_1, 0x2CEF_002CF1_1, 0x2D7F_002D7F_1, 0x2DE0_002DFF_1,
  0x302A_00302D_1, 0x3099_00309A_1, 0xA66F_00A66F_1, 0xA674_00A67D_1, 0xA69E_00A69F_1,
  0xA6F0_00A6F1_1, 0xA802_00A802_1, 0xA806_00A806_1, 0xA80B_00A80B_1, 0xA825_00A826_1,
  0xA82C_00A82C_1, 0xA8C4_00A8C5_1, 0xA8E0_00A8F1_1, 0xA8FF_00A8FF_1, 0xA926_00A92D_1,
  0xA947_00A951_1, 0xA980_00A982_1, 0xA9B3_00A9B3_1, 0xA9B6_00A9B9_1, 0xA9BC_00A9BD_1,
  0xA9E5_00A9E5_1, 0xAA29_00AA2E_1, 0xAA31_00AA32_1, 0xAA35_00AA36_1, 0xAA43_00AA43_1,
  0xAA4C_00AA4C_1, 0xAA7C_00AA7C_1, 0xAAB0_00AAB0_1, 0xAAB2_00AAB4_1, 0xAAB7_00AAB8_1,
  0xAABE_00AABF_1, 0xAAC1_00AAC1_1, 0xAAEC_00AAED_1, 0xAAF6_00AAF6_1, 0xABE5_00ABE5_1,
  0xABE8_00ABE8_1, 0xABED_00ABED_1, 0xFB1E_00FB1E_1, 0xFE00_00FE0F_1, 0xFE20_00FE2F_1,
  0x101FD_0101FD_1, 0x102E0_0102E0_1, 0x10376_01037A_1, 0x10A01_010A03_1, 0x10A05_010A06_1,
  0x10A0C_010A0F_1, 0x10A38_010A3A_1, 0x10A3F_010A3F_1, 0x10AE5_010AE6_1, 0x10D24_010D27_1,
  0x10D69_010D6D_1, 0x10EAB_010EAC_1, 0x10EFC_010EFF_1, 0x10F46_010F50_1, 0x10F82_010F85_1,
  0x11001_011001_1, 0x11038_011046_1, 0x11070_011070_1, 0x11073_011074_1, 0x1107F_011081_1,
  0x110B3_0110B6_1, 0x110B9_0110BA_1, 0x110C2_0110C2_1, 0x11100_011102_1, 0x11127_01112B_1,
  0x1112D_011134_1, 0x11173_011173_1, 0x11180_011181_1, 0x111B6_0111BE_1, 0x111C9_0111CC_1,
  0x111CF_0111CF_1, 0x1122F_011231_1, 0x11234_011234_1, 0x11236_011237_1, 0x1123E_01123E_1,
  0x11241_011241_1, 0x112DF_0112DF_1, 0x112E3_0112EA_1, 0x11300_011301_1, 0x1133B_01133C_1,
  0x11340_011340_1, 0x11366_01136C_1, 0x11370_011374_1, 0x113BB_0113C0_1, 0x113CE_0113D2_2,
  0x113E1_0113E2_1, 0x11438_01143F_1, 0x11442_011444_1, 0x11446_011446_1, 0x1145E_01145E_1,
  0x114B3_0114B8_1, 0x114BA_0114BA_1, 0x114BF_0114C0_1, 0x114C2_0114C3_1, 0x115B2_0115B5_1,
  0x115BC_0115BD_1, 0x115BF_0115C0_1, 0x115DC_0115DD_1, 0x11633_01163A_1, 0x1163D_01163D_1,
  0x1163F_011640_1, 0x116AB_0116AB_1, 0x116AD_0116AD_1, 0x116B0_0116B5_1, 0x116B7_0116B7_1,
  0x1171D_01171D_1, 0x1171F_01171F_1, 0x11722_011725_1, 0x11727_01172B_1, 0x1182F_011837_1,
  0x11839_01183A_1, 0x1193B_01193C_1, 0x1193E_01193E_1, 0x11943_011943_1, 0x119D4_0119D7_1,
  0x119DA_0119DB_1, 0x119E0_0119E0_1, 0x11A01_011A0A_1, 0x11A33_011A38_1, 0x11A3B_011A3E_1,
  0x11A47_011A47_1, 0x11A51_011A56_1, 0x11A59_011A5B_1, 0x11A8A_011A96_1, 0x11A98_011A99_1,
  0x11C30_011C36_1, 0x11C38_011C3D_1, 0x11C3F_011C3F_1, 0x11C92_011CA7_1, 0x11CAA_011CB0_1,
  0x11CB2_011CB3_1, 0x11CB5_011CB6_1, 0x11D31_011D36_1, 0x11D3A_011D3A_1, 0x11D3C_011D3D_1,
  0x11D3F_011D45_1, 0x11D47_011D47_1, 0x11D90_011D91_1, 0x11D95_011D95_1, 0x11D97_011D97_1,
  0x11EF3_011EF4_1, 0x11F00_011F01_1, 0x11F36_011F3A_1, 0x11F40_011F40_1, 0x11F42_011F42_1,
  0x11F5A_011F5A_1, 0x13440_013440_1, 0x13447_013455_1, 0x1611E_016129_1, 0x1612D_01612F_1,
  0x16AF0_016AF4_1, 0x16B30_016B36_1, 0x16F4F_016F4F_1, 0x16F8F_016F92_1, 0x16FE4_016FE4_1,
  0x1BC9D_01BC9E_1, 0x1CF00_01CF2D_1, 0x1CF30_01CF46_1, 0x1D167_01D169_1, 0x1D17B_01D182_1,
  0x1D185_01D18B_1, 0x1D1AA_01D1AD_1, 0x1D242_01D244_1, 0x1DA00_01DA36_1, 0x1DA3B_01DA6C_1,
  0x1DA75_01DA75_1, 0x1DA84_01DA84_1, 0x1DA9B_01DA9F_1, 0x1DAA1_01DAAF_1, 0x1E000_01E006_1,
  0x1E008_01E018_1, 0x1E01B_01E021_1, 0x1E023_01E024_1, 0x1E026_01E02A_1, 0x1E08F_01E08F_1,
  0x1E130_01E136_1, 0x1E2AE_01E2AE_1, 0x1E2EC_01E2EF_1, 0x1E4EC_01E4EF_1, 0x1E5EE_01E5EF_1,
  0x1E8D0_01E8D6_1, 0x1E944_01E94A_1, 0xE0100_0E01EF_1]

/-- The characters of general category *spacing mark*. -/
def spacingMark : List Run := Run.ofCodes [
  0x0903_000903_1, 0x093B_00093B_1, 0x093E_000940_1, 0x0949_00094C_1, 0x094E_00094F_1,
  0x0982_000983_1, 0x09BE_0009C0_1, 0x09C7_0009C8_1, 0x09CB_0009CC_1, 0x09D7_0009D7_1,
  0x0A03_000A03_1, 0x0A3E_000A40_1, 0x0A83_000A83_1, 0x0ABE_000AC0_1, 0x0AC9_000AC9_1,
  0x0ACB_000ACC_1, 0x0B02_000B03_1, 0x0B3E_000B3E_1, 0x0B40_000B40_1, 0x0B47_000B48_1,
  0x0B4B_000B4C_1, 0x0B57_000B57_1, 0x0BBE_000BBF_1, 0x0BC1_000BC2_1, 0x0BC6_000BC8_1,
  0x0BCA_000BCC_1, 0x0BD7_000BD7_1, 0x0C01_000C03_1, 0x0C41_000C44_1, 0x0C82_000C83_1,
  0x0CBE_000CBE_1, 0x0CC0_000CC4_1, 0x0CC7_000CC8_1, 0x0CCA_000CCB_1, 0x0CD5_000CD6_1,
  0x0CF3_000CF3_1, 0x0D02_000D03_1, 0x0D3E_000D40_1, 0x0D46_000D48_1, 0x0D4A_000D4C_1,
  0x0D57_000D57_1, 0x0D82_000D83_1, 0x0DCF_000DD1_1, 0x0DD8_000DDF_1, 0x0DF2_000DF3_1,
  0x0F3E_000F3F_1, 0x0F7F_000F7F_1, 0x102B_00102C_1, 0x1031_001031_1, 0x1038_001038_1,
  0x103B_00103C_1, 0x1056_001057_1, 0x1062_001064_1, 0x1067_00106D_1, 0x1083_001084_1,
  0x1087_00108C_1, 0x108F_00108F_1, 0x109A_00109C_1, 0x1715_001715_1, 0x1734_001734_1,
  0x17B6_0017B6_1, 0x17BE_0017C5_1, 0x17C7_0017C8_1, 0x1923_001926_1, 0x1929_00192B_1,
  0x1930_001931_1, 0x1933_001938_1, 0x1A19_001A1A_1, 0x1A55_001A55_1, 0x1A57_001A57_1,
  0x1A61_001A61_1, 0x1A63_001A64_1, 0x1A6D_001A72_1, 0x1B04_001B04_1, 0x1B35_001B35_1,
  0x1B3B_001B3B_1, 0x1B3D_001B41_1, 0x1B43_001B44_1, 0x1B82_001B82_1, 0x1BA1_001BA1_1,
  0x1BA6_001BA7_1, 0x1BAA_001BAA_1, 0x1BE7_001BE7_1, 0x1BEA_001BEC_1, 0x1BEE_001BEE_1,
  0x1BF2_001BF3_1, 0x1C24_001C2B_1, 0x1C34_001C35_1, 0x1CE1_001CE1_1, 0x1CF7_001CF7_1,
  0x302E_00302F_1, 0xA823_00A824_1, 0xA827_00A827_1, 0xA880_00A881_1, 0xA8B4_00A8C3_1,
  0xA952_00A953_1, 0xA983_00A983_1, 0xA9B4_00A9B5_1, 0xA9BA_00A9BB_1, 0xA9BE_00A9C0_1,
  0xAA2F_00AA30_1, 0xAA33_00AA34_1, 0xAA4D_00AA4D_1, 0xAA7B_00AA7B_1, 0xAA7D_00AA7D_1,
  0xAAEB_00AAEB_1, 0xAAEE_00AAEF_1, 0xAAF5_00AAF5_1, 0xABE3_00ABE4_1, 0xABE6_00ABE7_1,
  0xABE9_00ABEA_1, 0xABEC_00ABEC_1, 0x11000_011000_1, 0x11002_011002_1, 0x11082_011082_1,
  0x110B0_0110B2_1, 0x110B7_0110B8_1, 0x1112C_01112C_1, 0x11145_011146_1, 0x11182_011182_1,
  0x111B3_0111B5_1, 0x111BF_0111C0_1, 0x111CE_0111CE_1, 0x1122C_01122E_1, 0x11232_011233_1,
  0x11235_011235_1, 0x112E0_0112E2_1, 0x11302_011303_1, 0x1133E_01133F_1, 0x11341_011344_1,
  0x11347_011348_1, 0x1134B_01134D_1, 0x11357_011357_1, 0x11362_011363_1, 0x113B8_0113BA_1,
  0x113C2_0113C2_1, 0x113C5_0113C5_1, 0x113C7_0113CA_1, 0x113CC_0113CD_1, 0x113CF_0113CF_1,
  0x11435_011437_1, 0x11440_011441_1, 0x11445_011445_1, 0x114B0_0114B2_1, 0x114B9_0114B9_1,
  0x114BB_0114BE_1, 0x114C1_0114C1_1, 0x115AF_0115B1_1, 0x115B8_0115BB_1, 0x115BE_0115BE_1,
  0x11630_011632_1, 0x1163B_01163C_1, 0x1163E_01163E_1, 0x116AC_0116AC_1, 0x116AE_0116AF_1,
  0x116B6_0116B6_1, 0x1171E_01171E_1, 0x11720_011721_1, 0x11726_011726_1, 0x1182C_01182E_1,
  0x11838_011838_1, 0x11930_011935_1, 0x11937_011938_1, 0x1193D_01193D_1, 0x11940_011940_1,
  0x11942_011942_1, 0x119D1_0119D3_1, 0x119DC_0119DF_1, 0x119E4_0119E4_1, 0x11A39_011A39_1,
  0x11A57_011A58_1, 0x11A97_011A97_1, 0x11C2F_011C2F_1, 0x11C3E_011C3E_1, 0x11CA9_011CA9_1,
  0x11CB1_011CB1_1, 0x11CB4_011CB4_1, 0x11D8A_011D8E_1, 0x11D93_011D94_1, 0x11D96_011D96_1,
  0x11EF5_011EF6_1, 0x11F03_011F03_1, 0x11F34_011F35_1, 0x11F3E_011F3F_1, 0x11F41_011F41_1,
  0x1612A_01612C_1, 0x16F51_016F87_1, 0x16FF0_016FF1_1, 0x1D165_01D166_1, 0x1D16D_01D172_1]

/-- The characters of general category *enclosing mark*. -/
def enclosingMark : List Run := Run.ofCodes [
  0x0488_000489_1, 0x1ABE_001ABE_1, 0x20DD_0020E0_1, 0x20E2_0020E4_1, 0xA670_00A672_1]

/-- The characters of general category *decimal number*. -/
def decimalNumber : List Run := Run.ofCodes [
  0x0030_000039_1, 0x0660_000669_1, 0x06F0_0006F9_1, 0x07C0_0007C9_1, 0x0966_00096F_1,
  0x09E6_0009EF_1, 0x0A66_000A6F_1, 0x0AE6_000AEF_1, 0x0B66_000B6F_1, 0x0BE6_000BEF_1,
  0x0C66_000C6F_1, 0x0CE6_000CEF_1, 0x0D66_000D6F_1, 0x0DE6_000DEF_1, 0x0E50_000E59_1,
  0x0ED0_000ED9_1, 0x0F20_000F29_1, 0x1040_001049_1, 0x1090_001099_1, 0x17E0_0017E9_1,
  0x1810_001819_1, 0x1946_00194F_1, 0x19D0_0019D9_1, 0x1A80_001A89_1, 0x1A90_001A99_1,
  0x1B50_001B59_1, 0x1BB0_001BB9_1, 0x1C40_001C49_1, 0x1C50_001C59_1, 0xA620_00A629_1,
  0xA8D0_00A8D9_1, 0xA900_00A909_1, 0xA9D0_00A9D9_1, 0xA9F0_00A9F9_1, 0xAA50_00AA59_1,
  0xABF0_00ABF9_1, 0xFF10_00FF19_1, 0x104A0_0104A9_1, 0x10D30_010D39_1, 0x10D40_010D49_1,
  0x11066_01106F_1, 0x110F0_0110F9_1, 0x11136_01113F_1, 0x111D0_0111D9_1, 0x112F0_0112F9_1,
  0x11450_011459_1, 0x114D0_0114D9_1, 0x11650_011659_1, 0x116C0_0116C9_1, 0x116D0_0116E3_1,
  0x11730_011739_1, 0x118E0_0118E9_1, 0x11950_011959_1, 0x11BF0_011BF9_1, 0x11C50_011C59_1,
  0x11D50_011D59_1, 0x11DA0_011DA9_1, 0x11F50_011F59_1, 0x16130_016139_1, 0x16A60_016A69_1,
  0x16AC0_016AC9_1, 0x16B50_016B59_1, 0x16D70_016D79_1, 0x1CCF0_01CCF9_1, 0x1D7CE_01D7FF_1,
  0x1E140_01E149_1, 0x1E2F0_01E2F9_1, 0x1E4F0_01E4F9_1, 0x1E5F1_01E5FA_1, 0x1E950_01E959_1,
  0x1FBF0_01FBF9_1]

/-- The characters of general category *letter number*. -/
def letterNumber : List Run := Run.ofCodes [
  0x16EE_0016F0_1, 0x2160_002182_1, 0x2185_002188_1, 0x3007_003007_1, 0x3021_003029_1,
  0x3038_00303A_1, 0xA6E6_00A6EF_1, 0x10140_010174_1, 0x10341_010341_1, 0x1034A_01034A_1,
  0x103D1_0103D5_1, 0x12400_01246E_1]

/-- The characters of general category *other number*. -/
def otherNumber : List Run := Run.ofCodes [
  0x00B2_0000B3_1, 0x00B9_0000B9_1, 0x00BC_0000BE_1, 0x09F4_0009F9_1, 0x0B72_000B77_1,
  0x0BF0_000BF2_1, 0x0C78_000C7E_1, 0x0D58_000D5E_1, 0x0D70_000D78_1, 0x0F2A_000F33_1,
  0x1369_00137C_1, 0x17F0_0017F9_1, 0x19DA_0019DA_1, 0x2070_002070_1, 0x2074_002079_1,
  0x2080_002089_1, 0x2150_00215F_1, 0x2189_002189_1, 0x2460_00249B_1, 0x24EA_0024FF_1,
  0x2776_002793_1, 0x2CFD_002CFD_1, 0x3192_003195_1, 0x3220_003229_1, 0x3248_00324F_1,
  0x3251_00325F_1, 0x3280_003289_1, 0x32B1_0032BF_1, 0xA830_00A835_1, 0x10107_010133_1,
  0x10175_010178_1, 0x1018A_01018B_1, 0x102E1_0102FB_1, 0x10320_010323_1, 0x10858_01085F_1,
  0x10879_01087F_1, 0x108A7_0108AF_1, 0x108FB_0108FF_1, 0x10916_01091B_1, 0x109BC_0109BD_1,
  0x109C0_0109CF_1, 0x109D2_0109FF_1, 0x10A40_010A48_1, 0x10A7D_010A7E_1, 0x10A9D_010A9F_1,
  0x10AEB_010AEF_1, 0x10B58_010B5F_1, 0x10B78_010B7F_1, 0x10BA9_010BAF_1, 0x10CFA_010CFF_1,
  0x10E60_010E7E_1, 0x10F1D_010F26_1, 0x10F51_010F54_1, 0x10FC5_010FCB_1, 0x11052_011065_1,
  0x111E1_0111F4_1, 0x1173A_01173B_1, 0x118EA_0118F2_1, 0x11C5A_011C6C_1, 0x11FC0_011FD4_1,
  0x16B5B_016B61_1, 0x16E80_016E96_1, 0x1D2C0_01D2D3_1, 0x1D2E0_01D2F3_1, 0x1D360_01D378_1,
  0x1E8C7_01E8CF_1, 0x1EC71_01ECAB_1, 0x1ECAD_01ECAF_1, 0x1ECB1_01ECB4_1, 0x1ED01_01ED2D_1,
  0x1ED2F_01ED3D_1, 0x1F100_01F10C_1]

/-- The characters of general category *connector punctuation*. -/
def connectorPunctuation : List Run := Run.ofCodes [
  0x005F_00005F_1, 0x203F_002040_1, 0x2054_002054_1, 0xFE33_00FE34_1, 0xFE4D_00FE4F_1,
  0xFF3F_00FF3F_1]

/-- The characters of general category *dash punctuation*. -/
def dashPunctuation : List Run := Run.ofCodes [
  0x002D_00002D_1, 0x058A_00058A_1, 0x05BE_0005BE_1, 0x1400_001400_1, 0x1806_001806_1,
  0x2010_002015_1, 0x2E17_002E17_1, 0x2E1A_002E1A_1, 0x2E3A_002E3B_1, 0x2E40_002E40_1,
  0x2E5D_002E5D_1, 0x301C_00301C_1, 0x3030_003030_1, 0x30A0_0030A0_1, 0xFE31_00FE32_1,
  0xFE58_00FE58_1, 0xFE63_00FE63_1, 0xFF0D_00FF0D_1, 0x10D6E_010D6E_1, 0x10EAD_010EAD_1]

/-- The characters of general category *open punctuation*. -/
def openPunctuation : List Run := Run.ofCodes [
  0x0028_000028_1, 0x005B_00005B_1, 0x007B_00007B_1, 0x0F3A_000F3A_1, 0x0F3C_000F3C_1,
  0x169B_00169B_1, 0x201A_00201A_1, 0x201E_00201E_1, 0x2045_002045_1, 0x207D_00207D_1,
  0x208D_00208D_1, 0x2308_002308_1, 0x230A_00230A_1, 0x2329_002329_1, 0x2768_002774_2,
  0x27C5_0027C5_1, 0x27E6_0027EE_2, 0x2983_002997_2, 0x29D8_0029D8_1, 0x29DA_0029DA_1,
  0x29FC_0029FC_1, 0x2E22_002E28_2, 0x2E42_002E42_1, 0x2E55_002E5B_2, 0x3008_003010_2,
  0x3014_00301A_2, 0x301D_00301D_1, 0xFD3F_00FD3F_1, 0xFE17_00FE17_1, 0xFE35_00FE43_2,
  0xFE47_00FE47_1, 0xFE59_00FE5D_2, 0xFF08_00FF08_1, 0xFF3B_00FF3B_1, 0xFF5B_00FF5B_1,
  0xFF5F_00FF5F_1, 0xFF62_00FF62_1]

/-- The characters of general category *close punctuation*. -/
def closePunctuation : List Run := Run.ofCodes [
  0x0029_000029_1, 0x005D_00005D_1, 0x007D_00007D_1, 0x0F3B_000F3B_1, 0x0F3D_000F3D_1,
  0x169C_00169C_1, 0x2046_002046_1, 0x207E_00207E_1, 0x208E_00208E_1, 0x2309_002309_1,
  0x230B_00230B_1, 0x232A_00232A_1, 0x2769_002775_2, 0x27C6_0027C6_1, 0x27E7_0027EF_2,
  0x2984_002998_2, 0x29D9_0029D9_1, 0x29DB_0029DB_1, 0x29FD_0029FD_1, 0x2E23_002E29_2,
  0x2E56_002E5C_2, 0x3009_003011_2, 0x3015_00301B_2, 0x301E_00301F_1, 0xFD3E_00FD3E_1,
  0xFE18_00FE18_1, 0xFE36_00FE44_2, 0xFE48_00FE48_1, 0xFE5A_00FE5E_2, 0xFF09_00FF09_1,
  0xFF3D_00FF3D_1, 0xFF5D_00FF63_3]

/-- The characters of general category *initial punctuation*. -/
def initialPunctuation : List Run := Run.ofCodes [
  0x00AB_0000AB_1, 0x2018_002018_1, 0x201B_00201C_1, 0x201F_00201F_1, 0x2039_002039_1,
  0x2E02_002E02_1, 0x2E04_002E04_1, 0x2E09_002E09_1, 0x2E0C_002E0C_1, 0x2E1C_002E1C_1,
  0x2E20_002E20_1]

/-- The characters of general category *final punctuation*. -/
def finalPunctuation : List Run := Run.ofCodes [
  0x00BB_0000BB_1, 0x2019_002019_1, 0x201D_00201D_1, 0x203A_00203A_1, 0x2E03_002E03_1,
  0x2E05_002E05_1, 0x2E0A_002E0A_1, 0x2E0D_002E0D_1, 0x2E1D_002E1D_1, 0x2E21_002E21_1]

/-- The characters of general category *other punctuation*. -/
def otherPunctuation : List Run := Run.ofCodes [
  0x0021_000023_1, 0x0025_000027_1, 0x002A_00002A_1, 0x002C_00002C_1, 0x002E_00002F_1,
  0x003A_00003B_1, 0x003F_000040_1, 0x005C_00005C_1, 0x00A1_0000A1_1, 0x00A7_0000A7_1,
  0x00B6_0000B7_1, 0x00BF_0000BF_1, 0x037E_00037E_1, 0x0387_000387_1, 0x055A_00055F_1,
  0x0589_000589_1, 0x05C0_0005C6_3, 0x05F3_0005F4_1, 0x0609_00060A_1, 0x060C_00060D_1,
  0x061B_00061B_1, 0x061D_00061F_1, 0x066A_00066D_1, 0x06D4_0006D4_1, 0x0700_00070D_1,
  0x07F7_0007F9_1, 0x0830_00083E_1, 0x085E_00085E_1, 0x0964_000965_1, 0x0970_000970_1,
  0x09FD_0009FD_1, 0x0A76_000A76_1, 0x0AF0_000AF0_1, 0x0C77_000C77_1, 0x0C84_000C84_1,
  0x0DF4_000DF4_1, 0x0E4F_000E4F_1, 0x0E5A_000E5B_1, 0x0F04_000F12_1, 0x0F14_000F14_1,
  0x0F85_000F85_1, 0x0FD0_000FD4_1, 0x0FD9_000FDA_1, 0x104A_00104F_1, 0x10FB_0010FB_1,
  0x1360_001368_1, 0x166E_00166E_1, 0x16EB_0016ED_1, 0x1735_001736_1, 0x17D4_0017D6_1,
  0x17D8_0017DA_1, 0x1800_001805_1, 0x1807_00180A_1, 0x1944_001945_1, 0x1A1E_001A1F_1,
  0x1AA0_001AA6_1, 0x1AA8_001AAD_1, 0x1B4E_001B4F_1, 0x1B5A_001B60_1, 0x1B7D_001B7F_1,
  0x1BFC_001BFF_1, 0x1C3B_001C3F_1, 0x1C7E_001C7F_1, 0x1CC0_001CC7_1, 0x1CD3_001CD3_1,
  0x2016_002017_1, 0x2020_002027_1, 0x2030_002038_1, 0x203B_00203E_1, 0x2041_002043_1,
  0x2047_002051_1, 0x2053_002053_1, 0x2055_00205E_1, 0x2CF9_002CFC_1, 0x2CFE_002CFF_1,
  0x2D70_002D70_1, 0x2E00_002E01_1, 0x2E06_002E08_1, 0x2E0B_002E0B_1, 0x2E0E_002E16_1,
  0x2E18_002E19_1, 0x2E1B_002E1B_1, 0x2E1E_002E1F_1, 0x2E2A_002E2E_1, 0x2E30_002E39_1,
  0x2E3C_002E3F_1, 0x2E41_002E41_1, 0x2E43_002E4F_1, 0x2E52_002E54_1, 0x3001_003003_1,
  0x303D_00303D_1, 0x30FB_0030FB_1, 0xA4FE_00A4FF_1, 0xA60D_00A60F_1, 0xA673_00A673_1,
  0xA67E_00A67E_1, 0xA6F2_00A6F7_1, 0xA874_00A877_1, 0xA8CE_00A8CF_1, 0xA8F8_00A8FA_1,
  0xA8FC_00A8FC_1, 0xA92E_00A92F_1, 0xA95F_00A95F_1, 0xA9C1_00A9CD_1, 0xA9DE_00A9DF_1,
  0xAA5C_00AA5F_1, 0xAADE_00AADF_1, 0xAAF0_00AAF1_1, 0xABEB_00ABEB_1, 0xFE10_00FE16_1,
  0xFE19_00FE19_1, 0xFE30_00FE30_1, 0xFE45_00FE46_1, 0xFE49_00FE4C_1, 0xFE50_00FE52_1,
  0xFE54_00FE57_1, 0xFE5F_00FE61_1, 0xFE68_00FE68_1, 0xFE6A_00FE6B_1, 0xFF01_00FF03_1,
  0xFF05_00FF07_1, 0xFF0A_00FF0A_1, 0xFF0C_00FF0C_1, 0xFF0E_00FF0F_1, 0xFF1A_00FF1B_1,
  0xFF1F_00FF20_1, 0xFF3C_00FF3C_1, 0xFF61_00FF61_1, 0xFF64_00FF65_1, 0x10100_010102_1,
  0x1039F_01039F_1, 0x103D0_0103D0_1, 0x1056F_01056F_1, 0x10857_010857_1, 0x1091F_01091F_1,
  0x1093F_01093F_1, 0x10A50_010A58_1, 0x10A7F_010A7F_1, 0x10AF0_010AF6_1, 0x10B39_010B3F_1,
  0x10B99_010B9C_1, 0x10F55_010F59_1, 0x10F86_010F89_1, 0x11047_01104D_1, 0x110BB_0110BC_1,
  0x110BE_0110C1_1, 0x11140_011143_1, 0x11174_011175_1, 0x111C5_0111C8_1, 0x111CD_0111CD_1,
  0x111DB_0111DB_1, 0x111DD_0111DF_1, 0x11238_01123D_1, 0x112A9_0112A9_1, 0x113D4_0113D5_1,
  0x113D7_0113D8_1, 0x1144B_01144F_1, 0x1145A_01145B_1, 0x1145D_01145D_1, 0x114C6_0114C6_1,
  0x115C1_0115D7_1, 0x11641_011643_1, 0x11660_01166C_1, 0x116B9_0116B9_1, 0x1173C_01173E_1,
  0x1183B_01183B_1, 0x11944_011946_1, 0x119E2_0119E2_1, 0x11A3F_011A46_1, 0x11A9A_011A9C_1,
  0x11A9E_011AA2_1, 0x11B00_011B09_1, 0x11BE1_011BE1_1, 0x11C41_011C45_1, 0x11C70_011C71_1,
  0x11EF7_011EF8_1, 0x11F43_011F4F_1, 0x11FFF_011FFF_1, 0x12470_012474_1, 0x12FF1_012FF2_1,
  0x16A6E_016A6F_1, 0x16AF5_016AF5_1, 0x16B37_016B3B_1, 0x16B44_016B44_1, 0x16D6D_016D6F_1,
  0x16E97_016E9A_1, 0x16FE2_016FE2_1, 0x1BC9F_01BC9F_1, 0x1DA87_01DA8B_1, 0x1E5FF_01E5FF_1,
  0x1E95E_01E95F_1]

/-- The characters of general category *math symbol*. -/
def mathSymbol : List Run := Run.ofCodes [
  0x002B_00002B_1, 0x003C_00003E_1, 0x007C_00007C_1, 0x007E_00007E_1, 0x00AC_0000AC_1,
  0x00B1_0000B1_1, 0x00D7_0000D7_1, 0x00F7_0000F7_1, 0x03F6_0003F6_1, 0x0606_000608_1,
  0x2044_002044_1, 0x2052_002052_1, 0x207A_00207C_1, 0x208A_00208C_1, 0x2118_002118_1,
  0x2140_002144_1, 0x214B_00214B_1, 0x2190_002194_1, 0x219A_00219B_1, 0x21A0_0021A6_3,
  0x21AE_0021AE_1, 0x21CE_0021CF_1, 0x21D2_0021D2_1, 0x21D4_0021D4_1, 0x21F4_0022FF_1,
  0x2320_002321_1, 0x237C_00237C_1, 0x239B_0023B3_1, 0x23DC_0023E1_1, 0x25B7_0025B7_1,
  0x25C1_0025C1_1, 0x25F8_0025FF_1, 0x266F_00266F_1, 0x27C0_0027C4_1, 0x27C7_0027E5_1,
  0x27F0_0027FF_1, 0x2900_002982_1, 0x2999_0029D7_1, 0x29DC_0029FB_1, 0x29FE_002AFF_1,
  0x2B30_002B44_1, 0x2B47_002B4C_1, 0xFB29_00FB29_1, 0xFE62_00FE62_1, 0xFE64_00FE66_1,
  0xFF0B_00FF0B_1, 0xFF1C_00FF1E_1, 0xFF5C_00FF5C_1, 0xFF5E_00FF5E_1, 0xFFE2_00FFE2_1,
  0xFFE9_00FFEC_1, 0x10D8E_010D8F_1, 0x1D6C1_01D6C1_1, 0x1D6DB_01D6DB_1, 0x1D6FB_01D6FB_1,
  0x1D715_01D715_1, 0x1D735_01D735_1, 0x1D74F_01D74F_1, 0x1D76F_01D76F_1, 0x1D789_01D789_1,
  0x1D7A9_01D7A9_1, 0x1D7C3_01D7C3_1, 0x1EEF0_01EEF1_1]

/-- The characters of general category *currency symbol*. -/
def currencySymbol : List Run := Run.ofCodes [
  0x0024_000024_1, 0x00A2_0000A5_1, 0x058F_00058F_1, 0x060B_00060B_1, 0x07FE_0007FF_1,
  0x09F2_0009F3_1, 0x09FB_0009FB_1, 0x0AF1_000AF1_1, 0x0BF9_000BF9_1, 0x0E3F_000E3F_1,
  0x17DB_0017DB_1, 0x20A0_0020C0_1, 0xA838_00A838_1, 0xFDFC_00FDFC_1, 0xFE69_00FE69_1,
  0xFF04_00FF04_1, 0xFFE0_00FFE1_1, 0xFFE5_00FFE6_1, 0x11FDD_011FE0_1, 0x1E2FF_01E2FF_1,
  0x1ECB0_01ECB0_1]

/-- The characters of general category *modifier symbol*. -/
def modifierSymbol : List Run := Run.ofCodes [
  0x005E_00005E_1, 0x0060_000060_1, 0x00A8_0000A8_1, 0x00AF_0000AF_1, 0x00B4_0000B4_1,
  0x00B8_0000B8_1, 0x02C2_0002C5_1, 0x02D2_0002DF_1, 0x02E5_0002EB_1, 0x02ED_0002ED_1,
  0x02EF_0002FF_1, 0x0375_000375_1, 0x0384_000385_1, 0x0888_000888_1, 0x1FBD_001FBD_1,
  0x1FBF_001FC1_1, 0x1FCD_001FCF_1, 0x1FDD_001FDF_1, 0x1FED_001FEF_1, 0x1FFD_001FFE_1,
  0x309B_00309C_1, 0xA700_00A716_1, 0xA720_00A721_1, 0xA789_00A78A_1, 0xAB5B_00AB5B_1,
  0xAB6A_00AB6B_1, 0xFBB2_00FBC2_1, 0xFF3E_00FF3E_1, 0xFF40_00FF40_1, 0xFFE3_00FFE3_1,
  0x1F3FB_01F3FF_1]

/-- The characters of general category *other symbol*. -/
def otherSymbol : List Run := Run.ofCodes [
  0x00A6_0000A6_1, 0x00A9_0000A9_1, 0x00AE_0000AE_1, 0x00B0_0000B0_1, 0x0482_000482_1,
  0x058D_00058E_1, 0x060E_00060F_1, 0x06DE_0006DE_1, 0x06E9_0006E9_1, 0x06FD_0006FE_1,
  0x07F6_0007F6_1, 0x09FA_0009FA_1, 0x0B70_000B70_1, 0x0BF3_000BF8_1, 0x0BFA_000BFA_1,
  0x0C7F_000C7F_1, 0x0D4F_000D4F_1, 0x0D79_000D79_1, 0x0F01_000F03_1, 0x0F13_000F13_1,
  0x0F15_000F17_1, 0x0F1A_000F1F_1, 0x0F34_000F38_2, 0x0FBE_000FC5_1, 0x0FC7_000FCC_1,
  0x0FCE_000FCF_1, 0x0FD5_000FD8_1, 0x109E_00109F_1, 0x1390_001399_1, 0x166D_00166D_1,
  0x1940_001940_1, 0x19DE_0019FF_1, 0x1B61_001B6A_1, 0x1B74_001B7C_1, 0x2100_002101_1,
  0x2103_002106_1, 0x2108_002109_1, 0x2114_002114_1, 0x2116_002117_1, 0x211E_002123_1,
  0x2125_002129_2, 0x212E_00212E_1, 0x213A_00213B_1, 0x214A_00214A_1, 0x214C_00214D_1,
  0x214F_00214F_1, 0x218A_00218B_1, 0x2195_002199_1, 0x219C_00219F_1, 0x21A1_0021A2_1,
  0x21A4_0021A5_1, 0x21A7_0021AD_1, 0x21AF_0021CD_1, 0x21D0_0021D1_1, 0x21D3_0021D3_1,
  0x21D5_0021F3_1, 0x2300_002307_1, 0x230C_00231F_1, 0x2322_002328_1, 0x232B_00237B_1,
  0x237D_00239A_1, 0x23B4_0023DB_1, 0x23E2_002429_1, 0x2440_00244A_1, 0x249C_0024E9_1,
  0x2500_0025B6_1, 0x25B8_0025C0_1, 0x25C2_0025F7_1, 0x2600_00266E_1, 0x2670_002767_1,
  0x2794_0027BF_1, 0x2800_0028FF_1, 0x2B00_002B2F_1, 0x2B45_002B46_1, 0x2B4D_002B73_1,
  0x2B76_002B95_1, 0x2B97_002BFF_1, 0x2CE5_002CEA_1, 0x2E50_002E51_1, 0x2E80_002E99_1,
  0x2E9B_002EF3_1, 0x2F00_002FD5_1, 0x2FF0_002FFF_1, 0x3004_003004_1, 0x3012_003013_1,
  0x3020_003020_1, 0x3036_003037_1, 0x303E_00303F_1, 0x3190_003191_1, 0x3196_00319F_1,
  0x31C0_0031E5_1, 0x31EF_0031EF_1, 0x3200_00321E_1, 0x322A_003247_1, 0x3250_003250_1,
  0x3260_00327F_1, 0x328A_0032B0_1, 0x32C0_0033FF_1, 0x4DC0_004DFF_1, 0xA490_00A4C6_1,
  0xA828_00A82B_1, 0xA836_00A837_1, 0xA839_00A839_1, 0xAA77_00AA79_1, 0xFD40_00FD4F_1,
  0xFDCF_00FDCF_1, 0xFDFD_00FDFF_1, 0xFFE4_00FFE4_1, 0xFFE8_00FFE8_1, 0xFFED_00FFEE_1,
  0xFFFC_00FFFD_1, 0x10137_01013F_1, 0x10179_010189_1, 0x1018C_01018E_1, 0x10190_01019C_1,
  0x101A0_0101A0_1, 0x101D0_0101FC_1, 0x10877_010878_1, 0x10AC8_010AC8_1, 0x1173F_01173F_1,
  0x11FD5_011FDC_1, 0x11FE1_011FF1_1, 0x16B3C_016B3F_1, 0x16B45_016B45_1, 0x1BC9C_01BC9C_1,
  0x1CC00_01CCEF_1, 0x1CD00_01CEB3_1, 0x1CF50_01CFC3_1, 0x1D000_01D0F5_1, 0x1D100_01D126_1,
  0x1D129_01D164_1, 0x1D16A_01D16C_1, 0x1D183_01D184_1, 0x1D18C_01D1A9_1, 0x1D1AE_01D1EA_1,
  0x1D200_01D241_1, 0x1D245_01D245_1, 0x1D300_01D356_1, 0x1D800_01D9FF_1, 0x1DA37_01DA3A_1,
  0x1DA6D_01DA74_1, 0x1DA76_01DA83_1, 0x1DA85_01DA86_1, 0x1E14F_01E14F_1, 0x1ECAC_01ECAC_1,
  0x1ED2E_01ED2E_1, 0x1F000_01F02B_1, 0x1F030_01F093_1, 0x1F0A0_01F0AE_1, 0x1F0B1_01F0BF_1,
  0x1F0C1_01F0CF_1, 0x1F0D1_01F0F5_1, 0x1F10D_01F1AD_1, 0x1F1E6_01F202_1, 0x1F210_01F23B_1,
  0x1F240_01F248_1, 0x1F250_01F251_1, 0x1F260_01F265_1, 0x1F300_01F3FA_1, 0x1F400_01F6D7_1,
  0x1F6DC_01F6EC_1, 0x1F6F0_01F6FC_1, 0x1F700_01F776_1, 0x1F77B_01F7D9_1, 0x1F7E0_01F7EB_1,
  0x1F7F0_01F7F0_1, 0x1F800_01F80B_1, 0x1F810_01F847_1, 0x1F850_01F859_1, 0x1F860_01F887_1,
  0x1F890_01F8AD_1, 0x1F8B0_01F8BB_1, 0x1F8C0_01F8C1_1, 0x1F900_01FA53_1, 0x1FA60_01FA6D_1,
  0x1FA70_01FA7C_1, 0x1FA80_01FA89_1, 0x1FA8F_01FAC6_1, 0x1FACE_01FADC_1, 0x1FADF_01FAE9_1,
  0x1FAF0_01FAF8_1, 0x1FB00_01FB92_1, 0x1FB94_01FBEF_1]

/-- The characters of general category *space separator*. -/
def spaceSeparator : List Run := Run.ofCodes [
  0x0020_000020_1, 0x00A0_0000A0_1, 0x1680_001680_1, 0x2000_00200A_1, 0x202F_00202F_1,
  0x205F_00205F_1, 0x3000_003000_1]

/-- The characters of general category *line separator*. -/
def lineSeparator : List Run := Run.ofCodes [
  0x2028_002028_1]

/-- The characters of general category *paragraph separator*. -/
def paragraphSeparator : List Run := Run.ofCodes [
  0x2029_002029_1]

/-- The characters of general category *control*. -/
def control : List Run := Run.ofCodes [
  0x0000_00001F_1, 0x007F_00009F_1]

/-- The characters of general category *format*. -/
def format : List Run := Run.ofCodes [
  0x00AD_0000AD_1, 0x0600_000605_1, 0x061C_00061C_1, 0x06DD_0006DD_1, 0x070F_00070F_1,
  0x0890_000891_1, 0x08E2_0008E2_1, 0x180E_00180E_1, 0x200B_00200F_1, 0x202A_00202E_1,
  0x2060_002064_1, 0x2066_00206F_1, 0xFEFF_00FEFF_1, 0xFFF9_00FFFB_1, 0x110BD_0110BD_1,
  0x110CD_0110CD_1, 0x13430_01343F_1, 0x1BCA0_01BCA3_1, 0x1D173_01D17A_1, 0xE0001_0E0001_1,
  0xE0020_0E007F_1]

/-- The characters of general category *private use*. -/
def privateUse : List Run := Run.ofCodes [
  0xE000_00F8FF_1, 0xF0000_0FFFFD_1, 0x100000_10FFFD_1]

end AdFilter.Text.CategoryTable
