import AdFilter.Text.Run

/-!
# What becomes of a character in a domain name

The mapping of version 16 of the standard for internationalised domain names. What no list names
and is not ASCII may not occur in a name.
-/

namespace AdFilter.Url.MappingTable

open Text

set_option maxRecDepth 9816 in
/-- Characters beyond ASCII that stay as they are. -/
def kept : List Run := Run.ofCodes [
  0x00A1_0000A7_1, 0x00A9_0000A9_1, 0x00AB_0000AC_1, 0x00AE_0000AE_1, 0x00B0_0000B1_1,
  0x00B6_0000B7_1, 0x00BB_0000BB_1, 0x00BF_0000BF_1, 0x00D7_0000D7_1, 0x00DF_0000FF_1,
  0x0101_000131_2, 0x0135_000135_1, 0x0137_000138_1, 0x013A_00013E_2, 0x0142_000148_2,
  0x014B_000177_2, 0x017A_000180_2, 0x0183_000183_1, 0x0185_000185_1, 0x0188_000188_1,
  0x018C_00018D_1, 0x0192_000192_1, 0x0195_000195_1, 0x0199_00019B_1, 0x019E_00019E_1,
  0x01A1_0001A5_2, 0x01A8_0001A8_1, 0x01AA_0001AB_1, 0x01AD_0001AD_1, 0x01B0_0001B0_1,
  0x01B4_0001B4_1, 0x01B6_0001B6_1, 0x01B9_0001BB_1, 0x01BD_0001C3_1, 0x01CE_0001DA_2,
  0x01DC_0001DD_1, 0x01DF_0001ED_2, 0x01EF_0001F0_1, 0x01F5_0001F5_1, 0x01F9_000231_2,
  0x0233_000239_1, 0x023C_00023C_1, 0x023F_000240_1, 0x0242_000242_1, 0x0247_00024D_2,
  0x024F_0002AF_1, 0x02B9_0002D7_1, 0x02DE_0002DF_1, 0x02E5_00033F_1, 0x0342_000342_1,
  0x0346_00034E_1, 0x0350_00036F_1, 0x0371_000377_2, 0x037B_00037D_1, 0x0390_000390_1,
  0x03AC_0003CE_1, 0x03D7_0003EF_2, 0x03F3_0003F3_1, 0x03F6_0003F6_1, 0x03F8_0003F8_1,
  0x03FB_0003FC_1, 0x0430_00045F_1, 0x0461_00047F_2, 0x0481_000489_1, 0x048B_0004BF_2,
  0x04C2_0004CC_2, 0x04CE_0004CF_1, 0x04D1_00052F_2, 0x0559_000586_1, 0x0588_00058A_1,
  0x058D_00058F_1, 0x0591_0005C7_1, 0x05D0_0005EA_1, 0x05EF_0005F4_1, 0x0606_00061B_1,
  0x061D_000674_1, 0x0679_0006DC_1, 0x06DE_00070D_1, 0x0710_00074A_1, 0x074D_0007B1_1,
  0x07C0_0007FA_1, 0x07FD_00082D_1, 0x0830_00083E_1, 0x0840_00085B_1, 0x085E_00085E_1,
  0x0860_00086A_1, 0x0870_00088E_1, 0x0897_0008E1_1, 0x08E3_000957_1, 0x0960_000983_1,
  0x0985_00098C_1, 0x098F_000990_1, 0x0993_0009A8_1, 0x09AA_0009B0_1, 0x09B2_0009B2_1,
  0x09B6_0009B9_1, 0x09BC_0009C4_1, 0x09C7_0009C8_1, 0x09CB_0009CE_1, 0x09D7_0009D7_1,
  0x09E0_0009E3_1, 0x09E6_0009FE_1, 0x0A01_000A03_1, 0x0A05_000A0A_1, 0x0A0F_000A10_1,
  0x0A13_000A28_1, 0x0A2A_000A30_1, 0x0A32_000A32_1, 0x0A35_000A35_1, 0x0A38_000A39_1,
  0x0A3C_000A3C_1, 0x0A3E_000A42_1, 0x0A47_000A48_1, 0x0A4B_000A4D_1, 0x0A51_000A51_1,
  0x0A5C_000A5C_1, 0x0A66_000A76_1, 0x0A81_000A83_1, 0x0A85_000A8D_1, 0x0A8F_000A91_1,
  0x0A93_000AA8_1, 0x0AAA_000AB0_1, 0x0AB2_000AB3_1, 0x0AB5_000AB9_1, 0x0ABC_000AC5_1,
  0x0AC7_000AC9_1, 0x0ACB_000ACD_1, 0x0AD0_000AD0_1, 0x0AE0_000AE3_1, 0x0AE6_000AF1_1,
  0x0AF9_000AFF_1, 0x0B01_000B03_1, 0x0B05_000B0C_1, 0x0B0F_000B10_1, 0x0B13_000B28_1,
  0x0B2A_000B30_1, 0x0B32_000B33_1, 0x0B35_000B39_1, 0x0B3C_000B44_1, 0x0B47_000B48_1,
  0x0B4B_000B4D_1, 0x0B55_000B57_1, 0x0B5F_000B63_1, 0x0B66_000B77_1, 0x0B82_000B83_1,
  0x0B85_000B8A_1, 0x0B8E_000B90_1, 0x0B92_000B95_1, 0x0B99_000B9A_1, 0x0B9C_000B9C_1,
  0x0B9E_000B9F_1, 0x0BA3_000BA4_1, 0x0BA8_000BAA_1, 0x0BAE_000BB9_1, 0x0BBE_000BC2_1,
  0x0BC6_000BC8_1, 0x0BCA_000BCD_1, 0x0BD0_000BD0_1, 0x0BD7_000BD7_1, 0x0BE6_000BFA_1,
  0x0C00_000C0C_1, 0x0C0E_000C10_1, 0x0C12_000C28_1, 0x0C2A_000C39_1, 0x0C3C_000C44_1,
  0x0C46_000C48_1, 0x0C4A_000C4D_1, 0x0C55_000C56_1, 0x0C58_000C5A_1, 0x0C5D_000C5D_1,
  0x0C60_000C63_1, 0x0C66_000C6F_1, 0x0C77_000C8C_1, 0x0C8E_000C90_1, 0x0C92_000CA8_1,
  0x0CAA_000CB3_1, 0x0CB5_000CB9_1, 0x0CBC_000CC4_1, 0x0CC6_000CC8_1, 0x0CCA_000CCD_1,
  0x0CD5_000CD6_1, 0x0CDD_000CDE_1, 0x0CE0_000CE3_1, 0x0CE6_000CEF_1, 0x0CF1_000CF3_1,
  0x0D00_000D0C_1, 0x0D0E_000D10_1, 0x0D12_000D44_1, 0x0D46_000D48_1, 0x0D4A_000D4F_1,
  0x0D54_000D63_1, 0x0D66_000D7F_1, 0x0D81_000D83_1, 0x0D85_000D96_1, 0x0D9A_000DB1_1,
  0x0DB3_000DBB_1, 0x0DBD_000DBD_1, 0x0DC0_000DC6_1, 0x0DCA_000DCA_1, 0x0DCF_000DD4_1,
  0x0DD6_000DD6_1, 0x0DD8_000DDF_1, 0x0DE6_000DEF_1, 0x0DF2_000DF4_1, 0x0E01_000E32_1,
  0x0E34_000E3A_1, 0x0E3F_000E5B_1, 0x0E81_000E82_1, 0x0E84_000E84_1, 0x0E86_000E8A_1,
  0x0E8C_000EA3_1, 0x0EA5_000EA5_1, 0x0EA7_000EB2_1, 0x0EB4_000EBD_1, 0x0EC0_000EC4_1,
  0x0EC6_000EC6_1, 0x0EC8_000ECE_1, 0x0ED0_000ED9_1, 0x0EDE_000EDF_1, 0x0F00_000F0B_1,
  0x0F0D_000F42_1, 0x0F44_000F47_1, 0x0F49_000F4C_1, 0x0F4E_000F51_1, 0x0F53_000F56_1,
  0x0F58_000F5B_1, 0x0F5D_000F68_1, 0x0F6A_000F6C_1, 0x0F71_000F72_1, 0x0F74_000F74_1,
  0x0F7A_000F80_1, 0x0F82_000F92_1, 0x0F94_000F97_1, 0x0F99_000F9C_1, 0x0F9E_000FA1_1,
  0x0FA3_000FA6_1, 0x0FA8_000FAB_1, 0x0FAD_000FB8_1, 0x0FBA_000FBC_1, 0x0FBE_000FCC_1,
  0x0FCE_000FDA_1, 0x1000_00109F_1, 0x10D0_0010FB_1, 0x10FD_00115E_1, 0x1161_001248_1,
  0x124A_00124D_1, 0x1250_001256_1, 0x1258_001258_1, 0x125A_00125D_1, 0x1260_001288_1,
  0x128A_00128D_1, 0x1290_0012B0_1, 0x12B2_0012B5_1, 0x12B8_0012BE_1, 0x12C0_0012C0_1,
  0x12C2_0012C5_1, 0x12C8_0012D6_1, 0x12D8_001310_1, 0x1312_001315_1, 0x1318_00135A_1,
  0x135D_00137C_1, 0x1380_001399_1, 0x13A0_0013F5_1, 0x1400_00167F_1, 0x1681_00169C_1,
  0x16A0_0016F8_1, 0x1700_001715_1, 0x171F_001736_1, 0x1740_001753_1, 0x1760_00176C_1,
  0x176E_001770_1, 0x1772_001773_1, 0x1780_0017B3_1, 0x17B6_0017DD_1, 0x17E0_0017E9_1,
  0x17F0_0017F9_1, 0x1800_00180A_1, 0x1810_001819_1, 0x1820_001878_1, 0x1880_0018AA_1,
  0x18B0_0018F5_1, 0x1900_00191E_1, 0x1920_00192B_1, 0x1930_00193B_1, 0x1940_001940_1,
  0x1944_00196D_1, 0x1970_001974_1, 0x1980_0019AB_1, 0x19B0_0019C9_1, 0x19D0_0019DA_1,
  0x19DE_001A1B_1, 0x1A1E_001A5E_1, 0x1A60_001A7C_1, 0x1A7F_001A89_1, 0x1A90_001A99_1,
  0x1AA0_001AAD_1, 0x1AB0_001ACE_1, 0x1B00_001B4C_1, 0x1B4E_001BF3_1, 0x1BFC_001C37_1,
  0x1C3B_001C49_1, 0x1C4D_001C7F_1, 0x1C8A_001C8A_1, 0x1CC0_001CC7_1, 0x1CD0_001CFA_1,
  0x1D00_001D2B_1, 0x1D2F_001D2F_1, 0x1D3B_001D3B_1, 0x1D4E_001D4E_1, 0x1D6B_001D77_1,
  0x1D79_001D9A_1, 0x1DC0_001DFF_1, 0x1E01_001E93_2, 0x1E95_001E99_1, 0x1E9C_001E9D_1,
  0x1E9F_001EFD_2, 0x1EFF_001F07_1, 0x1F10_001F15_1, 0x1F20_001F27_1, 0x1F30_001F37_1,
  0x1F40_001F45_1, 0x1F50_001F57_1, 0x1F60_001F67_1, 0x1F70_001F7C_2, 0x1FB0_001FB1_1,
  0x1FB6_001FB6_1, 0x1FC6_001FC6_1, 0x1FD0_001FD2_1, 0x1FD6_001FD7_1, 0x1FE0_001FE2_1,
  0x1FE4_001FE7_1, 0x1FF6_001FF6_1, 0x200C_00200D_1, 0x2010_002010_1, 0x2012_002016_1,
  0x2018_002023_1, 0x2027_002027_1, 0x2030_002032_1, 0x2035_002035_1, 0x2038_00203B_1,
  0x203D_00203D_1, 0x203F_002046_1, 0x204A_002056_1, 0x2058_00205E_1, 0x20A0_0020A7_1,
  0x20A9_0020C0_1, 0x20D0_0020F0_1, 0x2104_002104_1, 0x2108_002108_1, 0x2114_002114_1,
  0x2117_002118_1, 0x211E_00211F_1, 0x2123_002129_2, 0x212E_00212E_1, 0x213A_00213A_1,
  0x2141_002144_1, 0x214A_00214F_1, 0x2180_002182_1, 0x2184_002188_1, 0x218A_00218B_1,
  0x2190_00222B_1, 0x222E_00222E_1, 0x2231_002328_1, 0x232B_002429_1, 0x2440_00244A_1,
  0x24EB_002A0B_1, 0x2A0D_002A73_1, 0x2A77_002ADB_1, 0x2ADD_002B73_1, 0x2B76_002B95_1,
  0x2B97_002BFF_1, 0x2C30_002C5F_1, 0x2C61_002C61_1, 0x2C65_002C66_1, 0x2C68_002C6C_2,
  0x2C71_002C71_1, 0x2C73_002C74_1, 0x2C76_002C7B_1, 0x2C81_002CE1_2, 0x2CE3_002CEA_1,
  0x2CEC_002CEC_1, 0x2CEE_002CF1_1, 0x2CF3_002CF3_1, 0x2CF9_002D25_1, 0x2D27_002D27_1,
  0x2D2D_002D2D_1, 0x2D30_002D67_1, 0x2D70_002D70_1, 0x2D7F_002D96_1, 0x2DA0_002DA6_1,
  0x2DA8_002DAE_1, 0x2DB0_002DB6_1, 0x2DB8_002DBE_1, 0x2DC0_002DC6_1, 0x2DC8_002DCE_1,
  0x2DD0_002DD6_1, 0x2DD8_002DDE_1, 0x2DE0_002E5D_1, 0x2E80_002E99_1, 0x2E9B_002E9E_1,
  0x2EA0_002EF2_1, 0x3001_003001_1, 0x3003_003035_1, 0x3037_003037_1, 0x303B_00303F_1,
  0x3041_003096_1, 0x3099_00309A_1, 0x309D_00309E_1, 0x30A0_0030FE_1, 0x3105_00312F_1,
  0x3190_003191_1, 0x31A0_0031E5_1, 0x31F0_0031FF_1, 0x3248_00324F_1, 0x327F_00327F_1,
  0x3400_00A48C_1, 0xA490_00A4C6_1, 0xA4D0_00A62B_1, 0xA641_00A66B_2, 0xA66D_00A67F_1,
  0xA681_00A69B_2, 0xA69E_00A6F7_1, 0xA700_00A721_1, 0xA723_00A72D_2, 0xA72F_00A731_1,
  0xA733_00A76F_2, 0xA771_00A778_1, 0xA77A_00A77A_1, 0xA77C_00A77C_1, 0xA77F_00A785_2,
  0xA787_00A78A_1, 0xA78C_00A78C_1, 0xA78E_00A78F_1, 0xA791_00A791_1, 0xA793_00A795_1,
  0xA797_00A7A9_2, 0xA7AF_00A7AF_1, 0xA7B5_00A7C3_2, 0xA7C8_00A7C8_1, 0xA7CA_00A7CA_1,
  0xA7CD_00A7CD_1, 0xA7D1_00A7DB_2, 0xA7F6_00A7F7_1, 0xA7FA_00A82C_1, 0xA830_00A839_1,
  0xA840_00A877_1, 0xA880_00A8C5_1, 0xA8CE_00A8D9_1, 0xA8E0_00A953_1, 0xA95F_00A97C_1,
  0xA980_00A9CD_1, 0xA9CF_00A9D9_1, 0xA9DE_00A9FE_1, 0xAA00_00AA36_1, 0xAA40_00AA4D_1,
  0xAA50_00AA59_1, 0xAA5C_00AAC2_1, 0xAADB_00AAF6_1, 0xAB01_00AB06_1, 0xAB09_00AB0E_1,
  0xAB11_00AB16_1, 0xAB20_00AB26_1, 0xAB28_00AB2E_1, 0xAB30_00AB5B_1, 0xAB60_00AB68_1,
  0xAB6A_00AB6B_1, 0xABC0_00ABED_1, 0xABF0_00ABF9_1, 0xAC00_00D7A3_1, 0xD7B0_00D7C6_1,
  0xD7CB_00D7FB_1, 0xFA0E_00FA0F_1, 0xFA11_00FA11_1, 0xFA13_00FA14_1, 0xFA1F_00FA1F_1,
  0xFA21_00FA21_1, 0xFA23_00FA24_1, 0xFA27_00FA29_1, 0xFB1E_00FB1E_1, 0xFBB2_00FBC2_1,
  0xFD3E_00FD4F_1, 0xFDCF_00FDCF_1, 0xFDFD_00FDFF_1, 0xFE20_00FE2F_1, 0xFE45_00FE46_1,
  0xFE73_00FE73_1, 0x10000_01000B_1, 0x1000D_010026_1, 0x10028_01003A_1, 0x1003C_01003D_1,
  0x1003F_01004D_1, 0x10050_01005D_1, 0x10080_0100FA_1, 0x10100_010102_1, 0x10107_010133_1,
  0x10137_01018E_1, 0x10190_01019C_1, 0x101A0_0101A0_1, 0x101D0_0101FD_1, 0x10280_01029C_1,
  0x102A0_0102D0_1, 0x102E0_0102FB_1, 0x10300_010323_1, 0x1032D_01034A_1, 0x10350_01037A_1,
  0x10380_01039D_1, 0x1039F_0103C3_1, 0x103C8_0103D5_1, 0x10428_01049D_1, 0x104A0_0104A9_1,
  0x104D8_0104FB_1, 0x10500_010527_1, 0x10530_010563_1, 0x1056F_01056F_1, 0x10597_0105A1_1,
  0x105A3_0105B1_1, 0x105B3_0105B9_1, 0x105BB_0105BC_1, 0x105C0_0105F3_1, 0x10600_010736_1,
  0x10740_010755_1, 0x10760_010767_1, 0x10780_010780_1, 0x10800_010805_1, 0x10808_010808_1,
  0x1080A_010835_1, 0x10837_010838_1, 0x1083C_01083C_1, 0x1083F_010855_1, 0x10857_01089E_1,
  0x108A7_0108AF_1, 0x108E0_0108F2_1, 0x108F4_0108F5_1, 0x108FB_01091B_1, 0x1091F_010939_1,
  0x1093F_01093F_1, 0x10980_0109B7_1, 0x109BC_0109CF_1, 0x109D2_010A03_1, 0x10A05_010A06_1,
  0x10A0C_010A13_1, 0x10A15_010A17_1, 0x10A19_010A35_1, 0x10A38_010A3A_1, 0x10A3F_010A48_1,
  0x10A50_010A58_1, 0x10A60_010A9F_1, 0x10AC0_010AE6_1, 0x10AEB_010AF6_1, 0x10B00_010B35_1,
  0x10B39_010B55_1, 0x10B58_010B72_1, 0x10B78_010B91_1, 0x10B99_010B9C_1, 0x10BA9_010BAF_1,
  0x10C00_010C48_1, 0x10CC0_010CF2_1, 0x10CFA_010D27_1, 0x10D30_010D39_1, 0x10D40_010D4F_1,
  0x10D69_010D85_1, 0x10D8E_010D8F_1, 0x10E60_010E7E_1, 0x10E80_010EA9_1, 0x10EAB_010EAD_1,
  0x10EB0_010EB1_1, 0x10EC2_010EC4_1, 0x10EFC_010F27_1, 0x10F30_010F59_1, 0x10F70_010F89_1,
  0x10FB0_010FCB_1, 0x10FE0_010FF6_1, 0x11000_01104D_1, 0x11052_011075_1, 0x1107F_0110BC_1,
  0x110BE_0110C2_1, 0x110D0_0110E8_1, 0x110F0_0110F9_1, 0x11100_011134_1, 0x11136_011147_1,
  0x11150_011176_1, 0x11180_0111DF_1, 0x111E1_0111F4_1, 0x11200_011211_1, 0x11213_011241_1,
  0x11280_011286_1, 0x11288_011288_1, 0x1128A_01128D_1, 0x1128F_01129D_1, 0x1129F_0112A9_1,
  0x112B0_0112EA_1, 0x112F0_0112F9_1, 0x11300_011303_1, 0x11305_01130C_1, 0x1130F_011310_1,
  0x11313_011328_1, 0x1132A_011330_1, 0x11332_011333_1, 0x11335_011339_1, 0x1133B_011344_1,
  0x11347_011348_1, 0x1134B_01134D_1, 0x11350_011350_1, 0x11357_011357_1, 0x1135D_011363_1,
  0x11366_01136C_1, 0x11370_011374_1, 0x11380_011389_1, 0x1138B_01138B_1, 0x1138E_01138E_1,
  0x11390_0113B5_1, 0x113B7_0113C0_1, 0x113C2_0113C2_1, 0x113C5_0113C5_1, 0x113C7_0113CA_1,
  0x113CC_0113D5_1, 0x113D7_0113D8_1, 0x113E1_0113E2_1, 0x11400_01145B_1, 0x1145D_011461_1,
  0x11480_0114C7_1, 0x114D0_0114D9_1, 0x11580_0115B5_1, 0x115B8_0115DD_1, 0x11600_011644_1,
  0x11650_011659_1, 0x11660_01166C_1, 0x11680_0116B9_1, 0x116C0_0116C9_1, 0x116D0_0116E3_1,
  0x11700_01171A_1, 0x1171D_01172B_1, 0x11730_011746_1, 0x11800_01183B_1, 0x118C0_0118F2_1,
  0x118FF_011906_1, 0x11909_011909_1, 0x1190C_011913_1, 0x11915_011916_1, 0x11918_011935_1,
  0x11937_011938_1, 0x1193B_011946_1, 0x11950_011959_1, 0x119A0_0119A7_1, 0x119AA_0119D7_1,
  0x119DA_0119E4_1, 0x11A00_011A47_1, 0x11A50_011AA2_1, 0x11AB0_011AF8_1, 0x11B00_011B09_1,
  0x11BC0_011BE1_1, 0x11BF0_011BF9_1, 0x11C00_011C08_1, 0x11C0A_011C36_1, 0x11C38_011C45_1,
  0x11C50_011C6C_1, 0x11C70_011C8F_1, 0x11C92_011CA7_1, 0x11CA9_011CB6_1, 0x11D00_011D06_1,
  0x11D08_011D09_1, 0x11D0B_011D36_1, 0x11D3A_011D3A_1, 0x11D3C_011D3D_1, 0x11D3F_011D47_1,
  0x11D50_011D59_1, 0x11D60_011D65_1, 0x11D67_011D68_1, 0x11D6A_011D8E_1, 0x11D90_011D91_1,
  0x11D93_011D98_1, 0x11DA0_011DA9_1, 0x11EE0_011EF8_1, 0x11F00_011F10_1, 0x11F12_011F3A_1,
  0x11F3E_011F5A_1, 0x11FB0_011FB0_1, 0x11FC0_011FF1_1, 0x11FFF_012399_1, 0x12400_01246E_1,
  0x12470_012474_1, 0x12480_012543_1, 0x12F90_012FF2_1, 0x13000_01342F_1, 0x13440_013455_1,
  0x13460_0143FA_1, 0x14400_014646_1, 0x16100_016139_1, 0x16800_016A38_1, 0x16A40_016A5E_1,
  0x16A60_016A69_1, 0x16A6E_016ABE_1, 0x16AC0_016AC9_1, 0x16AD0_016AED_1, 0x16AF0_016AF5_1,
  0x16B00_016B45_1, 0x16B50_016B59_1, 0x16B5B_016B61_1, 0x16B63_016B77_1, 0x16B7D_016B8F_1,
  0x16D40_016D79_1, 0x16E60_016E9A_1, 0x16F00_016F4A_1, 0x16F4F_016F87_1, 0x16F8F_016F9F_1,
  0x16FE0_016FE4_1, 0x16FF0_016FF1_1, 0x17000_0187F7_1, 0x18800_018CD5_1, 0x18CFF_018D08_1,
  0x1AFF0_01AFF3_1, 0x1AFF5_01AFFB_1, 0x1AFFD_01AFFE_1, 0x1B000_01B122_1, 0x1B132_01B132_1,
  0x1B150_01B152_1, 0x1B155_01B155_1, 0x1B164_01B167_1, 0x1B170_01B2FB_1, 0x1BC00_01BC6A_1,
  0x1BC70_01BC7C_1, 0x1BC80_01BC88_1, 0x1BC90_01BC99_1, 0x1BC9C_01BC9F_1, 0x1CC00_01CCD5_1,
  0x1CD00_01CEB3_1, 0x1CF00_01CF2D_1, 0x1CF30_01CF46_1, 0x1CF50_01CFC3_1, 0x1D000_01D0F5_1,
  0x1D100_01D126_1, 0x1D129_01D15D_1, 0x1D165_01D172_1, 0x1D17B_01D1BA_1, 0x1D1C1_01D1EA_1,
  0x1D200_01D245_1, 0x1D2C0_01D2D3_1, 0x1D2E0_01D2F3_1, 0x1D300_01D356_1, 0x1D360_01D378_1,
  0x1D800_01DA8B_1, 0x1DA9B_01DA9F_1, 0x1DAA1_01DAAF_1, 0x1DF00_01DF1E_1, 0x1DF25_01DF2A_1,
  0x1E000_01E006_1, 0x1E008_01E018_1, 0x1E01B_01E021_1, 0x1E023_01E024_1, 0x1E026_01E02A_1,
  0x1E08F_01E08F_1, 0x1E100_01E12C_1, 0x1E130_01E13D_1, 0x1E140_01E149_1, 0x1E14E_01E14F_1,
  0x1E290_01E2AE_1, 0x1E2C0_01E2F9_1, 0x1E2FF_01E2FF_1, 0x1E4D0_01E4F9_1, 0x1E5D0_01E5FA_1,
  0x1E5FF_01E5FF_1, 0x1E7E0_01E7E6_1, 0x1E7E8_01E7EB_1, 0x1E7ED_01E7EE_1, 0x1E7F0_01E7FE_1,
  0x1E800_01E8C4_1, 0x1E8C7_01E8D6_1, 0x1E922_01E94B_1, 0x1E950_01E959_1, 0x1E95E_01E95F_1,
  0x1EC71_01ECB4_1, 0x1ED01_01ED3D_1, 0x1EEF0_01EEF1_1, 0x1F000_01F02B_1, 0x1F030_01F093_1,
  0x1F0A0_01F0AE_1, 0x1F0B1_01F0BF_1, 0x1F0C1_01F0CF_1, 0x1F0D1_01F0F5_1, 0x1F10B_01F10F_1,
  0x1F12F_01F12F_1, 0x1F150_01F169_1, 0x1F16D_01F18F_1, 0x1F191_01F1AD_1, 0x1F1E6_01F1FF_1,
  0x1F260_01F265_1, 0x1F300_01F6D7_1, 0x1F6DC_01F6EC_1, 0x1F6F0_01F6FC_1, 0x1F700_01F776_1,
  0x1F77B_01F7D9_1, 0x1F7E0_01F7EB_1, 0x1F7F0_01F7F0_1, 0x1F800_01F80B_1, 0x1F810_01F847_1,
  0x1F850_01F859_1, 0x1F860_01F887_1, 0x1F890_01F8AD_1, 0x1F8B0_01F8BB_1, 0x1F8C0_01F8C1_1,
  0x1F900_01FA53_1, 0x1FA60_01FA6D_1, 0x1FA70_01FA7C_1, 0x1FA80_01FA89_1, 0x1FA8F_01FAC6_1,
  0x1FACE_01FADC_1, 0x1FADF_01FAE9_1, 0x1FAF0_01FAF8_1, 0x1FB00_01FB92_1, 0x1FB94_01FBEF_1,
  0x20000_02A6DF_1, 0x2A700_02B739_1, 0x2B740_02B81D_1, 0x2B820_02CEA1_1, 0x2CEB0_02EBE0_1,
  0x2EBF0_02EE5D_1, 0x30000_03134A_1, 0x31350_0323AF_1]

/-- Characters that are left out. -/
def dropped : List Run := Run.ofCodes [
  0x00AD_0000AD_1, 0x034F_00034F_1, 0x115F_001160_1, 0x17B4_0017B5_1, 0x180B_00180F_1,
  0x200B_00200B_1, 0x2060_002064_1, 0x206A_00206F_1, 0x3164_003164_1, 0xFE00_00FE0F_1,
  0xFEFF_00FEFF_1, 0xFFA0_00FFA0_1, 0x1BCA0_01BCA3_1, 0x1D173_01D17A_1, 0xE0100_0E01EF_1]

set_option maxRecDepth 29856 in
/-- Characters beyond ASCII that another one replaces. -/
def replaced : List Shift := Shift.ofCodes [
  0x00A0_0000A0_1_000020, 0x00AA_0000AA_1_000061, 0x00B2_0000B3_1_000032, 0x00B5_0000B5_1_0003BC,
  0x00B9_0000B9_1_000031, 0x00BA_0000BA_1_00006F, 0x00C0_0000D6_1_0000E0, 0x00D8_0000DE_1_0000F8,
  0x0100_00012E_2_000101, 0x0134_000134_1_000135, 0x0136_000136_1_000137, 0x0139_00013D_2_00013A,
  0x0141_000147_2_000142, 0x014A_000176_2_00014B, 0x0178_000178_1_0000FF, 0x0179_00017D_2_00017A,
  0x017F_00017F_1_000073, 0x0181_000181_1_000253, 0x0182_000182_1_000183, 0x0184_000184_1_000185,
  0x0186_000186_1_000254, 0x0187_000187_1_000188, 0x0189_00018A_1_000256, 0x018B_00018B_1_00018C,
  0x018E_00018E_1_0001DD, 0x018F_00018F_1_000259, 0x0190_000190_1_00025B, 0x0191_000191_1_000192,
  0x0193_000193_1_000260, 0x0194_000194_1_000263, 0x0196_000196_1_000269, 0x0197_000197_1_000268,
  0x0198_000198_1_000199, 0x019C_00019C_1_00026F, 0x019D_00019D_1_000272, 0x019F_00019F_1_000275,
  0x01A0_0001A4_2_0001A1, 0x01A6_0001A6_1_000280, 0x01A7_0001A7_1_0001A8, 0x01A9_0001A9_1_000283,
  0x01AC_0001AC_1_0001AD, 0x01AE_0001AE_1_000288, 0x01AF_0001AF_1_0001B0, 0x01B1_0001B2_1_00028A,
  0x01B3_0001B3_1_0001B4, 0x01B5_0001B5_1_0001B6, 0x01B7_0001B7_1_000292, 0x01B8_0001B8_1_0001B9,
  0x01BC_0001BC_1_0001BD, 0x01CD_0001DB_2_0001CE, 0x01DE_0001EE_2_0001DF, 0x01F4_0001F4_1_0001F5,
  0x01F6_0001F6_1_000195, 0x01F7_0001F7_1_0001BF, 0x01F8_00021E_2_0001F9, 0x0220_000220_1_00019E,
  0x0222_000232_2_000223, 0x023A_00023A_1_002C65, 0x023B_00023B_1_00023C, 0x023D_00023D_1_00019A,
  0x023E_00023E_1_002C66, 0x0241_000241_1_000242, 0x0243_000243_1_000180, 0x0244_000244_1_000289,
  0x0245_000245_1_00028C, 0x0246_00024E_2_000247, 0x02B0_0002B0_1_000068, 0x02B1_0002B1_1_000266,
  0x02B2_0002B2_1_00006A, 0x02B3_0002B3_1_000072, 0x02B4_0002B4_1_000279, 0x02B5_0002B5_1_00027B,
  0x02B6_0002B6_1_000281, 0x02B7_0002B7_1_000077, 0x02B8_0002B8_1_000079, 0x02E0_0002E0_1_000263,
  0x02E1_0002E1_1_00006C, 0x02E2_0002E2_1_000073, 0x02E3_0002E3_1_000078, 0x02E4_0002E4_1_000295,
  0x0340_000341_1_000300, 0x0343_000343_1_000313, 0x0345_000345_1_0003B9, 0x0370_000370_1_000371,
  0x0372_000372_1_000373, 0x0374_000374_1_0002B9, 0x0376_000376_1_000377, 0x037E_00037E_1_00003B,
  0x037F_00037F_1_0003F3, 0x0386_000386_1_0003AC, 0x0387_000387_1_0000B7, 0x0388_00038A_1_0003AD,
  0x038C_00038C_1_0003CC, 0x038E_00038F_1_0003CD, 0x0391_0003A1_1_0003B1, 0x03A3_0003AB_1_0003C3,
  0x03CF_0003CF_1_0003D7, 0x03D0_0003D0_1_0003B2, 0x03D1_0003D1_1_0003B8, 0x03D2_0003D2_1_0003C5,
  0x03D3_0003D3_1_0003CD, 0x03D4_0003D4_1_0003CB, 0x03D5_0003D5_1_0003C6, 0x03D6_0003D6_1_0003C0,
  0x03D8_0003EE_2_0003D9, 0x03F0_0003F0_1_0003BA, 0x03F1_0003F1_1_0003C1, 0x03F2_0003F2_1_0003C3,
  0x03F4_0003F4_1_0003B8, 0x03F5_0003F5_1_0003B5, 0x03F7_0003F7_1_0003F8, 0x03F9_0003F9_1_0003C3,
  0x03FA_0003FA_1_0003FB, 0x03FD_0003FF_1_00037B, 0x0400_00040F_1_000450, 0x0410_00042F_1_000430,
  0x0460_000480_2_000461, 0x048A_0004BE_2_00048B, 0x04C0_0004C0_1_0004CF, 0x04C1_0004CD_2_0004C2,
  0x04D0_00052E_2_0004D1, 0x0531_000556_1_000561, 0x0F0C_000F0C_1_000F0B, 0x10A0_0010C5_1_002D00,
  0x10C7_0010C7_1_002D27, 0x10CD_0010CD_1_002D2D, 0x10FC_0010FC_1_0010DC, 0x13F8_0013FD_1_0013F0,
  0x1C80_001C80_1_000432, 0x1C81_001C81_1_000434, 0x1C82_001C82_1_00043E, 0x1C83_001C84_1_000441,
  0x1C85_001C85_1_000442, 0x1C86_001C86_1_00044A, 0x1C87_001C87_1_000463, 0x1C88_001C88_1_00A64B,
  0x1C89_001C89_1_001C8A, 0x1C90_001CBA_1_0010D0, 0x1CBD_001CBF_1_0010FD, 0x1D2C_001D2C_1_000061,
  0x1D2D_001D2D_1_0000E6, 0x1D2E_001D2E_1_000062, 0x1D30_001D31_1_000064, 0x1D32_001D32_1_0001DD,
  0x1D33_001D3A_1_000067, 0x1D3C_001D3C_1_00006F, 0x1D3D_001D3D_1_000223, 0x1D3E_001D3E_1_000070,
  0x1D3F_001D3F_1_000072, 0x1D40_001D41_1_000074, 0x1D42_001D42_1_000077, 0x1D43_001D43_1_000061,
  0x1D44_001D45_1_000250, 0x1D46_001D46_1_001D02, 0x1D47_001D47_1_000062, 0x1D48_001D49_1_000064,
  0x1D4A_001D4A_1_000259, 0x1D4B_001D4C_1_00025B, 0x1D4D_001D4D_1_000067, 0x1D4F_001D4F_1_00006B,
  0x1D50_001D50_1_00006D, 0x1D51_001D51_1_00014B, 0x1D52_001D52_1_00006F, 0x1D53_001D53_1_000254,
  0x1D54_001D55_1_001D16, 0x1D56_001D56_1_000070, 0x1D57_001D58_1_000074, 0x1D59_001D59_1_001D1D,
  0x1D5A_001D5A_1_00026F, 0x1D5B_001D5B_1_000076, 0x1D5C_001D5C_1_001D25, 0x1D5D_001D5F_1_0003B2,
  0x1D60_001D61_1_0003C6, 0x1D62_001D62_1_000069, 0x1D63_001D63_1_000072, 0x1D64_001D65_1_000075,
  0x1D66_001D67_1_0003B2, 0x1D68_001D68_1_0003C1, 0x1D69_001D6A_1_0003C6, 0x1D78_001D78_1_00043D,
  0x1D9B_001D9B_1_000252, 0x1D9C_001D9C_1_000063, 0x1D9D_001D9D_1_000255, 0x1D9E_001D9E_1_0000F0,
  0x1D9F_001D9F_1_00025C, 0x1DA0_001DA0_1_000066, 0x1DA1_001DA1_1_00025F, 0x1DA2_001DA2_1_000261,
  0x1DA3_001DA3_1_000265, 0x1DA4_001DA6_1_000268, 0x1DA7_001DA7_1_001D7B, 0x1DA8_001DA8_1_00029D,
  0x1DA9_001DA9_1_00026D, 0x1DAA_001DAA_1_001D85, 0x1DAB_001DAB_1_00029F, 0x1DAC_001DAC_1_000271,
  0x1DAD_001DAD_1_000270, 0x1DAE_001DB1_1_000272, 0x1DB2_001DB2_1_000278, 0x1DB3_001DB4_1_000282,
  0x1DB5_001DB5_1_0001AB, 0x1DB6_001DB7_1_000289, 0x1DB8_001DB8_1_001D1C, 0x1DB9_001DBA_1_00028B,
  0x1DBB_001DBB_1_00007A, 0x1DBC_001DBE_1_000290, 0x1DBF_001DBF_1_0003B8, 0x1E00_001E94_2_001E01,
  0x1E9B_001E9B_1_001E61, 0x1E9E_001E9E_1_0000DF, 0x1EA0_001EFE_2_001EA1, 0x1F08_001F0F_1_001F00,
  0x1F18_001F1D_1_001F10, 0x1F28_001F2F_1_001F20, 0x1F38_001F3F_1_001F30, 0x1F48_001F4D_1_001F40,
  0x1F59_001F5F_2_001F51, 0x1F68_001F6F_1_001F60, 0x1F71_001F71_1_0003AC, 0x1F73_001F73_1_0003AD,
  0x1F75_001F75_1_0003AE, 0x1F77_001F77_1_0003AF, 0x1F79_001F79_1_0003CC, 0x1F7B_001F7B_1_0003CD,
  0x1F7D_001F7D_1_0003CE, 0x1FB8_001FB9_1_001FB0, 0x1FBA_001FBA_1_001F70, 0x1FBB_001FBB_1_0003AC,
  0x1FBE_001FBE_1_0003B9, 0x1FC8_001FC8_1_001F72, 0x1FC9_001FC9_1_0003AD, 0x1FCA_001FCA_1_001F74,
  0x1FCB_001FCB_1_0003AE, 0x1FD3_001FD3_1_000390, 0x1FD8_001FD9_1_001FD0, 0x1FDA_001FDA_1_001F76,
  0x1FDB_001FDB_1_0003AF, 0x1FE3_001FE3_1_0003B0, 0x1FE8_001FE9_1_001FE0, 0x1FEA_001FEA_1_001F7A,
  0x1FEB_001FEB_1_0003CD, 0x1FEC_001FEC_1_001FE5, 0x1FEF_001FEF_1_000060, 0x1FF8_001FF8_1_001F78,
  0x1FF9_001FF9_1_0003CC, 0x1FFA_001FFA_1_001F7C, 0x1FFB_001FFB_1_0003CE, 0x2000_002000_1_000020,
  0x2001_002001_1_000020, 0x2002_002002_1_000020, 0x2003_002003_1_000020, 0x2004_002004_1_000020,
  0x2005_002005_1_000020, 0x2006_002006_1_000020, 0x2007_002007_1_000020, 0x2008_002008_1_000020,
  0x2009_002009_1_000020, 0x200A_00200A_1_000020, 0x2011_002011_1_002010, 0x202F_00202F_1_000020,
  0x205F_00205F_1_000020, 0x2070_002070_1_000030, 0x2071_002071_1_000069, 0x2074_002079_1_000034,
  0x207A_00207A_1_00002B, 0x207B_00207B_1_002212, 0x207C_00207C_1_00003D, 0x207D_00207E_1_000028,
  0x207F_00207F_1_00006E, 0x2080_002089_1_000030, 0x208A_00208A_1_00002B, 0x208B_00208B_1_002212,
  0x208C_00208C_1_00003D, 0x208D_00208E_1_000028, 0x2090_002090_1_000061, 0x2091_002091_1_000065,
  0x2092_002092_1_00006F, 0x2093_002093_1_000078, 0x2094_002094_1_000259, 0x2095_002095_1_000068,
  0x2096_002099_1_00006B, 0x209A_00209A_1_000070, 0x209B_00209C_1_000073, 0x2102_002102_1_000063,
  0x2107_002107_1_00025B, 0x210A_00210B_1_000067, 0x210C_00210C_1_000068, 0x210D_00210D_1_000068,
  0x210E_00210E_1_000068, 0x210F_00210F_1_000127, 0x2110_002110_1_000069, 0x2111_002111_1_000069,
  0x2112_002112_1_00006C, 0x2113_002113_1_00006C, 0x2115_002115_1_00006E, 0x2119_00211B_1_000070,
  0x211C_00211C_1_000072, 0x211D_00211D_1_000072, 0x2124_002124_1_00007A, 0x2126_002126_1_0003C9,
  0x2128_002128_1_00007A, 0x212A_00212A_1_00006B, 0x212B_00212B_1_0000E5, 0x212C_00212D_1_000062,
  0x212F_00212F_1_000065, 0x2130_002131_1_000065, 0x2132_002132_1_00214E, 0x2133_002133_1_00006D,
  0x2134_002134_1_00006F, 0x2135_002138_1_0005D0, 0x2139_002139_1_000069, 0x213C_00213C_1_0003C0,
  0x213D_00213D_1_0003B3, 0x213E_00213E_1_0003B3, 0x213F_00213F_1_0003C0, 0x2140_002140_1_002211,
  0x2145_002145_1_000064, 0x2146_002147_1_000064, 0x2148_002149_1_000069, 0x2160_002160_1_000069,
  0x2164_002164_1_000076, 0x2169_002169_1_000078, 0x216C_00216C_1_00006C, 0x216D_00216E_1_000063,
  0x216F_00216F_1_00006D, 0x2170_002170_1_000069, 0x2174_002174_1_000076, 0x2179_002179_1_000078,
  0x217C_00217C_1_00006C, 0x217D_00217E_1_000063, 0x217F_00217F_1_00006D, 0x2183_002183_1_002184,
  0x2329_00232A_1_003008, 0x2460_002468_1_000031, 0x24B6_0024CF_1_000061, 0x24D0_0024E9_1_000061,
  0x24EA_0024EA_1_000030, 0x2C00_002C2F_1_002C30, 0x2C60_002C60_1_002C61, 0x2C62_002C62_1_00026B,
  0x2C63_002C63_1_001D7D, 0x2C64_002C64_1_00027D, 0x2C67_002C6B_2_002C68, 0x2C6D_002C6D_1_000251,
  0x2C6E_002C6E_1_000271, 0x2C6F_002C6F_1_000250, 0x2C70_002C70_1_000252, 0x2C72_002C72_1_002C73,
  0x2C75_002C75_1_002C76, 0x2C7C_002C7C_1_00006A, 0x2C7D_002C7D_1_000076, 0x2C7E_002C7F_1_00023F,
  0x2C80_002CE2_2_002C81, 0x2CEB_002CEB_1_002CEC, 0x2CED_002CED_1_002CEE, 0x2CF2_002CF2_1_002CF3,
  0x2D6F_002D6F_1_002D61, 0x2E9F_002E9F_1_006BCD, 0x2EF3_002EF3_1_009F9F, 0x2F00_002F00_1_004E00,
  0x2F01_002F01_1_004E28, 0x2F02_002F02_1_004E36, 0x2F03_002F03_1_004E3F, 0x2F04_002F04_1_004E59,
  0x2F05_002F05_1_004E85, 0x2F06_002F06_1_004E8C, 0x2F07_002F07_1_004EA0, 0x2F08_002F08_1_004EBA,
  0x2F09_002F09_1_00513F, 0x2F0A_002F0A_1_005165, 0x2F0B_002F0B_1_00516B, 0x2F0C_002F0C_1_005182,
  0x2F0D_002F0D_1_005196, 0x2F0E_002F0E_1_0051AB, 0x2F0F_002F0F_1_0051E0, 0x2F10_002F10_1_0051F5,
  0x2F11_002F11_1_005200, 0x2F12_002F12_1_00529B, 0x2F13_002F13_1_0052F9, 0x2F14_002F14_1_005315,
  0x2F15_002F15_1_00531A, 0x2F16_002F16_1_005338, 0x2F17_002F17_1_005341, 0x2F18_002F18_1_00535C,
  0x2F19_002F19_1_005369, 0x2F1A_002F1A_1_005382, 0x2F1B_002F1B_1_0053B6, 0x2F1C_002F1C_1_0053C8,
  0x2F1D_002F1D_1_0053E3, 0x2F1E_002F1E_1_0056D7, 0x2F1F_002F1F_1_00571F, 0x2F20_002F20_1_0058EB,
  0x2F21_002F21_1_005902, 0x2F22_002F22_1_00590A, 0x2F23_002F23_1_005915, 0x2F24_002F24_1_005927,
  0x2F25_002F25_1_005973, 0x2F26_002F26_1_005B50, 0x2F27_002F27_1_005B80, 0x2F28_002F28_1_005BF8,
  0x2F29_002F29_1_005C0F, 0x2F2A_002F2A_1_005C22, 0x2F2B_002F2B_1_005C38, 0x2F2C_002F2C_1_005C6E,
  0x2F2D_002F2D_1_005C71, 0x2F2E_002F2E_1_005DDB, 0x2F2F_002F2F_1_005DE5, 0x2F30_002F30_1_005DF1,
  0x2F31_002F31_1_005DFE, 0x2F32_002F32_1_005E72, 0x2F33_002F33_1_005E7A, 0x2F34_002F34_1_005E7F,
  0x2F35_002F35_1_005EF4, 0x2F36_002F36_1_005EFE, 0x2F37_002F37_1_005F0B, 0x2F38_002F38_1_005F13,
  0x2F39_002F39_1_005F50, 0x2F3A_002F3A_1_005F61, 0x2F3B_002F3B_1_005F73, 0x2F3C_002F3C_1_005FC3,
  0x2F3D_002F3D_1_006208, 0x2F3E_002F3E_1_006236, 0x2F3F_002F3F_1_00624B, 0x2F40_002F40_1_00652F,
  0x2F41_002F41_1_006534, 0x2F42_002F42_1_006587, 0x2F43_002F43_1_006597, 0x2F44_002F44_1_0065A4,
  0x2F45_002F45_1_0065B9, 0x2F46_002F46_1_0065E0, 0x2F47_002F47_1_0065E5, 0x2F48_002F48_1_0066F0,
  0x2F49_002F49_1_006708, 0x2F4A_002F4A_1_006728, 0x2F4B_002F4B_1_006B20, 0x2F4C_002F4C_1_006B62,
  0x2F4D_002F4D_1_006B79, 0x2F4E_002F4E_1_006BB3, 0x2F4F_002F4F_1_006BCB, 0x2F50_002F50_1_006BD4,
  0x2F51_002F51_1_006BDB, 0x2F52_002F52_1_006C0F, 0x2F53_002F53_1_006C14, 0x2F54_002F54_1_006C34,
  0x2F55_002F55_1_00706B, 0x2F56_002F56_1_00722A, 0x2F57_002F57_1_007236, 0x2F58_002F58_1_00723B,
  0x2F59_002F59_1_00723F, 0x2F5A_002F5A_1_007247, 0x2F5B_002F5B_1_007259, 0x2F5C_002F5C_1_00725B,
  0x2F5D_002F5D_1_0072AC, 0x2F5E_002F5E_1_007384, 0x2F5F_002F5F_1_007389, 0x2F60_002F60_1_0074DC,
  0x2F61_002F61_1_0074E6, 0x2F62_002F62_1_007518, 0x2F63_002F63_1_00751F, 0x2F64_002F64_1_007528,
  0x2F65_002F65_1_007530, 0x2F66_002F66_1_00758B, 0x2F67_002F67_1_007592, 0x2F68_002F68_1_007676,
  0x2F69_002F69_1_00767D, 0x2F6A_002F6A_1_0076AE, 0x2F6B_002F6B_1_0076BF, 0x2F6C_002F6C_1_0076EE,
  0x2F6D_002F6D_1_0077DB, 0x2F6E_002F6E_1_0077E2, 0x2F6F_002F6F_1_0077F3, 0x2F70_002F70_1_00793A,
  0x2F71_002F71_1_0079B8, 0x2F72_002F72_1_0079BE, 0x2F73_002F73_1_007A74, 0x2F74_002F74_1_007ACB,
  0x2F75_002F75_1_007AF9, 0x2F76_002F76_1_007C73, 0x2F77_002F77_1_007CF8, 0x2F78_002F78_1_007F36,
  0x2F79_002F79_1_007F51, 0x2F7A_002F7A_1_007F8A, 0x2F7B_002F7B_1_007FBD, 0x2F7C_002F7C_1_008001,
  0x2F7D_002F7D_1_00800C, 0x2F7E_002F7E_1_008012, 0x2F7F_002F7F_1_008033, 0x2F80_002F80_1_00807F,
  0x2F81_002F81_1_008089, 0x2F82_002F82_1_0081E3, 0x2F83_002F83_1_0081EA, 0x2F84_002F84_1_0081F3,
  0x2F85_002F85_1_0081FC, 0x2F86_002F86_1_00820C, 0x2F87_002F87_1_00821B, 0x2F88_002F88_1_00821F,
  0x2F89_002F89_1_00826E, 0x2F8A_002F8A_1_008272, 0x2F8B_002F8B_1_008278, 0x2F8C_002F8C_1_00864D,
  0x2F8D_002F8D_1_00866B, 0x2F8E_002F8E_1_008840, 0x2F8F_002F8F_1_00884C, 0x2F90_002F90_1_008863,
  0x2F91_002F91_1_00897E, 0x2F92_002F92_1_00898B, 0x2F93_002F93_1_0089D2, 0x2F94_002F94_1_008A00,
  0x2F95_002F95_1_008C37, 0x2F96_002F96_1_008C46, 0x2F97_002F97_1_008C55, 0x2F98_002F98_1_008C78,
  0x2F99_002F99_1_008C9D, 0x2F9A_002F9A_1_008D64, 0x2F9B_002F9B_1_008D70, 0x2F9C_002F9C_1_008DB3,
  0x2F9D_002F9D_1_008EAB, 0x2F9E_002F9E_1_008ECA, 0x2F9F_002F9F_1_008F9B, 0x2FA0_002FA0_1_008FB0,
  0x2FA1_002FA1_1_008FB5, 0x2FA2_002FA2_1_009091, 0x2FA3_002FA3_1_009149, 0x2FA4_002FA4_1_0091C6,
  0x2FA5_002FA5_1_0091CC, 0x2FA6_002FA6_1_0091D1, 0x2FA7_002FA7_1_009577, 0x2FA8_002FA8_1_009580,
  0x2FA9_002FA9_1_00961C, 0x2FAA_002FAA_1_0096B6, 0x2FAB_002FAB_1_0096B9, 0x2FAC_002FAC_1_0096E8,
  0x2FAD_002FAD_1_009751, 0x2FAE_002FAE_1_00975E, 0x2FAF_002FAF_1_009762, 0x2FB0_002FB0_1_009769,
  0x2FB1_002FB1_1_0097CB, 0x2FB2_002FB2_1_0097ED, 0x2FB3_002FB3_1_0097F3, 0x2FB4_002FB4_1_009801,
  0x2FB5_002FB5_1_0098A8, 0x2FB6_002FB6_1_0098DB, 0x2FB7_002FB7_1_0098DF, 0x2FB8_002FB8_1_009996,
  0x2FB9_002FB9_1_009999, 0x2FBA_002FBA_1_0099AC, 0x2FBB_002FBB_1_009AA8, 0x2FBC_002FBC_1_009AD8,
  0x2FBD_002FBD_1_009ADF, 0x2FBE_002FBE_1_009B25, 0x2FBF_002FBF_1_009B2F, 0x2FC0_002FC0_1_009B32,
  0x2FC1_002FC1_1_009B3C, 0x2FC2_002FC2_1_009B5A, 0x2FC3_002FC3_1_009CE5, 0x2FC4_002FC4_1_009E75,
  0x2FC5_002FC5_1_009E7F, 0x2FC6_002FC6_1_009EA5, 0x2FC7_002FC7_1_009EBB, 0x2FC8_002FC8_1_009EC3,
  0x2FC9_002FC9_1_009ECD, 0x2FCA_002FCA_1_009ED1, 0x2FCB_002FCB_1_009EF9, 0x2FCC_002FCC_1_009EFD,
  0x2FCD_002FCD_1_009F0E, 0x2FCE_002FCE_1_009F13, 0x2FCF_002FCF_1_009F20, 0x2FD0_002FD0_1_009F3B,
  0x2FD1_002FD1_1_009F4A, 0x2FD2_002FD2_1_009F52, 0x2FD3_002FD3_1_009F8D, 0x2FD4_002FD4_1_009F9C,
  0x2FD5_002FD5_1_009FA0, 0x3000_003000_1_000020, 0x3002_003002_1_00002E, 0x3036_003036_1_003012,
  0x3038_003038_1_005341, 0x3039_00303A_1_005344, 0x3131_003132_1_001100, 0x3133_003133_1_0011AA,
  0x3134_003134_1_001102, 0x3135_003136_1_0011AC, 0x3137_003139_1_001103, 0x313A_00313F_1_0011B0,
  0x3140_003140_1_00111A, 0x3141_003143_1_001106, 0x3144_003144_1_001121, 0x3145_00314E_1_001109,
  0x314F_003163_1_001161, 0x3165_003166_1_001114, 0x3167_003168_1_0011C7, 0x3169_003169_1_0011CC,
  0x316A_00316A_1_0011CE, 0x316B_00316B_1_0011D3, 0x316C_00316C_1_0011D7, 0x316D_00316D_1_0011D9,
  0x316E_00316E_1_00111C, 0x316F_00316F_1_0011DD, 0x3170_003170_1_0011DF, 0x3171_003172_1_00111D,
  0x3173_003173_1_001120, 0x3174_003175_1_001122, 0x3176_003176_1_001127, 0x3177_003177_1_001129,
  0x3178_00317C_1_00112B, 0x317D_00317D_1_001132, 0x317E_00317E_1_001136, 0x317F_00317F_1_001140,
  0x3180_003180_1_001147, 0x3181_003181_1_00114C, 0x3182_003183_1_0011F1, 0x3184_003186_1_001157,
  0x3187_003188_1_001184, 0x3189_003189_1_001188, 0x318A_00318B_1_001191, 0x318C_00318C_1_001194,
  0x318D_00318D_1_00119E, 0x318E_00318E_1_0011A1, 0x3192_003192_1_004E00, 0x3193_003193_1_004E8C,
  0x3194_003194_1_004E09, 0x3195_003195_1_0056DB, 0x3196_003196_1_004E0A, 0x3197_003197_1_004E2D,
  0x3198_003198_1_004E0B, 0x3199_003199_1_007532, 0x319A_00319A_1_004E59, 0x319B_00319B_1_004E19,
  0x319C_00319C_1_004E01, 0x319D_00319D_1_005929, 0x319E_00319E_1_005730, 0x319F_00319F_1_004EBA,
  0x3244_003244_1_00554F, 0x3245_003245_1_005E7C, 0x3246_003246_1_006587, 0x3247_003247_1_007B8F,
  0x3260_003260_1_001100, 0x3261_003262_1_001102, 0x3263_003265_1_001105, 0x3266_003266_1_001109,
  0x3267_003268_1_00110B, 0x3269_00326D_1_00110E, 0x326E_00326E_1_00AC00, 0x326F_00326F_1_00B098,
  0x3270_003270_1_00B2E4, 0x3271_003271_1_00B77C, 0x3272_003272_1_00B9C8, 0x3273_003273_1_00BC14,
  0x3274_003274_1_00C0AC, 0x3275_003275_1_00C544, 0x3276_003276_1_00C790, 0x3277_003277_1_00CC28,
  0x3278_003278_1_00CE74, 0x3279_003279_1_00D0C0, 0x327A_00327A_1_00D30C, 0x327B_00327B_1_00D558,
  0x327E_00327E_1_00C6B0, 0x3280_003280_1_004E00, 0x3281_003281_1_004E8C, 0x3282_003282_1_004E09,
  0x3283_003283_1_0056DB, 0x3284_003284_1_004E94, 0x3285_003285_1_00516D, 0x3286_003286_1_004E03,
  0x3287_003287_1_00516B, 0x3288_003288_1_004E5D, 0x3289_003289_1_005341, 0x328A_00328A_1_006708,
  0x328B_00328B_1_00706B, 0x328C_00328C_1_006C34, 0x328D_00328D_1_006728, 0x328E_00328E_1_0091D1,
  0x328F_00328F_1_00571F, 0x3290_003290_1_0065E5, 0x3291_003291_1_00682A, 0x3292_003292_1_006709,
  0x3293_003293_1_00793E, 0x3294_003294_1_00540D, 0x3295_003295_1_007279, 0x3296_003296_1_008CA1,
  0x3297_003297_1_00795D, 0x3298_003298_1_0052B4, 0x3299_003299_1_0079D8, 0x329A_00329A_1_007537,
  0x329B_00329B_1_005973, 0x329C_00329C_1_009069, 0x329D_00329D_1_00512A, 0x329E_00329E_1_005370,
  0x329F_00329F_1_006CE8, 0x32A0_0032A0_1_009805, 0x32A1_0032A1_1_004F11, 0x32A2_0032A2_1_005199,
  0x32A3_0032A3_1_006B63, 0x32A4_0032A4_1_004E0A, 0x32A5_0032A5_1_004E2D, 0x32A6_0032A6_1_004E0B,
  0x32A7_0032A7_1_005DE6, 0x32A8_0032A8_1_0053F3, 0x32A9_0032A9_1_00533B, 0x32AA_0032AA_1_005B97,
  0x32AB_0032AB_1_005B66, 0x32AC_0032AC_1_0076E3, 0x32AD_0032AD_1_004F01, 0x32AE_0032AE_1_008CC7,
  0x32AF_0032AF_1_005354, 0x32B0_0032B0_1_00591C, 0x32D0_0032D0_1_0030A2, 0x32D1_0032D1_1_0030A4,
  0x32D2_0032D2_1_0030A6, 0x32D3_0032D3_1_0030A8, 0x32D4_0032D5_1_0030AA, 0x32D6_0032D6_1_0030AD,
  0x32D7_0032D7_1_0030AF, 0x32D8_0032D8_1_0030B1, 0x32D9_0032D9_1_0030B3, 0x32DA_0032DA_1_0030B5,
  0x32DB_0032DB_1_0030B7, 0x32DC_0032DC_1_0030B9, 0x32DD_0032DD_1_0030BB, 0x32DE_0032DE_1_0030BD,
  0x32DF_0032DF_1_0030BF, 0x32E0_0032E0_1_0030C1, 0x32E1_0032E1_1_0030C4, 0x32E2_0032E2_1_0030C6,
  0x32E3_0032E3_1_0030C8, 0x32E4_0032E9_1_0030CA, 0x32EA_0032EA_1_0030D2, 0x32EB_0032EB_1_0030D5,
  0x32EC_0032EC_1_0030D8, 0x32ED_0032ED_1_0030DB, 0x32EE_0032F2_1_0030DE, 0x32F3_0032F3_1_0030E4,
  0x32F4_0032F4_1_0030E6, 0x32F5_0032FA_1_0030E8, 0x32FB_0032FE_1_0030EF, 0xA640_00A66C_2_00A641,
  0xA680_00A69A_2_00A681, 0xA69C_00A69C_1_00044A, 0xA69D_00A69D_1_00044C, 0xA722_00A72E_2_00A723,
  0xA732_00A76E_2_00A733, 0xA770_00A770_1_00A76F, 0xA779_00A779_1_00A77A, 0xA77B_00A77B_1_00A77C,
  0xA77D_00A77D_1_001D79, 0xA77E_00A786_2_00A77F, 0xA78B_00A78B_1_00A78C, 0xA78D_00A78D_1_000265,
  0xA790_00A790_1_00A791, 0xA792_00A792_1_00A793, 0xA796_00A7A8_2_00A797, 0xA7AA_00A7AA_1_000266,
  0xA7AB_00A7AB_1_00025C, 0xA7AC_00A7AC_1_000261, 0xA7AD_00A7AD_1_00026C, 0xA7AE_00A7AE_1_00026A,
  0xA7B0_00A7B0_1_00029E, 0xA7B1_00A7B1_1_000287, 0xA7B2_00A7B2_1_00029D, 0xA7B3_00A7B3_1_00AB53,
  0xA7B4_00A7C2_2_00A7B5, 0xA7C4_00A7C4_1_00A794, 0xA7C5_00A7C5_1_000282, 0xA7C6_00A7C6_1_001D8E,
  0xA7C7_00A7C7_1_00A7C8, 0xA7C9_00A7C9_1_00A7CA, 0xA7CB_00A7CB_1_000264, 0xA7CC_00A7CC_1_00A7CD,
  0xA7D0_00A7D0_1_00A7D1, 0xA7D6_00A7DA_2_00A7D7, 0xA7DC_00A7DC_1_00019B, 0xA7F2_00A7F2_1_000063,
  0xA7F3_00A7F3_1_000066, 0xA7F4_00A7F4_1_000071, 0xA7F5_00A7F5_1_00A7F6, 0xA7F8_00A7F8_1_000127,
  0xA7F9_00A7F9_1_000153, 0xAB5C_00AB5C_1_00A727, 0xAB5D_00AB5D_1_00AB37, 0xAB5E_00AB5E_1_00026B,
  0xAB5F_00AB5F_1_00AB52, 0xAB69_00AB69_1_00028D, 0xAB70_00ABBF_1_0013A0, 0xF900_00F900_1_008C48,
  0xF901_00F901_1_0066F4, 0xF902_00F902_1_008ECA, 0xF903_00F903_1_008CC8, 0xF904_00F904_1_006ED1,
  0xF905_00F905_1_004E32, 0xF906_00F906_1_0053E5, 0xF907_00F907_1_009F9C, 0xF908_00F908_1_009F9C,
  0xF909_00F909_1_005951, 0xF90A_00F90A_1_0091D1, 0xF90B_00F90B_1_005587, 0xF90C_00F90C_1_005948,
  0xF90D_00F90D_1_0061F6, 0xF90E_00F90E_1_007669, 0xF90F_00F90F_1_007F85, 0xF910_00F910_1_00863F,
  0xF911_00F911_1_0087BA, 0xF912_00F912_1_0088F8, 0xF913_00F913_1_00908F, 0xF914_00F914_1_006A02,
  0xF915_00F915_1_006D1B, 0xF916_00F916_1_0070D9, 0xF917_00F917_1_0073DE, 0xF918_00F918_1_00843D,
  0xF919_00F919_1_00916A, 0xF91A_00F91A_1_0099F1, 0xF91B_00F91B_1_004E82, 0xF91C_00F91C_1_005375,
  0xF91D_00F91D_1_006B04, 0xF91E_00F91E_1_00721B, 0xF91F_00F91F_1_00862D, 0xF920_00F920_1_009E1E,
  0xF921_00F921_1_005D50, 0xF922_00F922_1_006FEB, 0xF923_00F923_1_0085CD, 0xF924_00F924_1_008964,
  0xF925_00F925_1_0062C9, 0xF926_00F926_1_0081D8, 0xF927_00F927_1_00881F, 0xF928_00F928_1_005ECA,
  0xF929_00F929_1_006717, 0xF92A_00F92A_1_006D6A, 0xF92B_00F92B_1_0072FC, 0xF92C_00F92C_1_0090CE,
  0xF92D_00F92D_1_004F86, 0xF92E_00F92E_1_0051B7, 0xF92F_00F92F_1_0052DE, 0xF930_00F930_1_0064C4,
  0xF931_00F931_1_006AD3, 0xF932_00F932_1_007210, 0xF933_00F933_1_0076E7, 0xF934_00F934_1_008001,
  0xF935_00F935_1_008606, 0xF936_00F936_1_00865C, 0xF937_00F937_1_008DEF, 0xF938_00F938_1_009732,
  0xF939_00F939_1_009B6F, 0xF93A_00F93A_1_009DFA, 0xF93B_00F93B_1_00788C, 0xF93C_00F93C_1_00797F,
  0xF93D_00F93D_1_007DA0, 0xF93E_00F93E_1_0083C9, 0xF93F_00F93F_1_009304, 0xF940_00F940_1_009E7F,
  0xF941_00F941_1_008AD6, 0xF942_00F942_1_0058DF, 0xF943_00F943_1_005F04, 0xF944_00F944_1_007C60,
  0xF945_00F945_1_00807E, 0xF946_00F946_1_007262, 0xF947_00F947_1_0078CA, 0xF948_00F948_1_008CC2,
  0xF949_00F949_1_0096F7, 0xF94A_00F94A_1_0058D8, 0xF94B_00F94B_1_005C62, 0xF94C_00F94C_1_006A13,
  0xF94D_00F94D_1_006DDA, 0xF94E_00F94E_1_006F0F, 0xF94F_00F94F_1_007D2F, 0xF950_00F950_1_007E37,
  0xF951_00F951_1_00964B, 0xF952_00F952_1_0052D2, 0xF953_00F953_1_00808B, 0xF954_00F954_1_0051DC,
  0xF955_00F955_1_0051CC, 0xF956_00F956_1_007A1C, 0xF957_00F957_1_007DBE, 0xF958_00F958_1_0083F1,
  0xF959_00F959_1_009675, 0xF95A_00F95A_1_008B80, 0xF95B_00F95B_1_0062CF, 0xF95C_00F95C_1_006A02,
  0xF95D_00F95D_1_008AFE, 0xF95E_00F95E_1_004E39, 0xF95F_00F95F_1_005BE7, 0xF960_00F960_1_006012,
  0xF961_00F961_1_007387, 0xF962_00F962_1_007570, 0xF963_00F963_1_005317, 0xF964_00F964_1_0078FB,
  0xF965_00F965_1_004FBF, 0xF966_00F966_1_005FA9, 0xF967_00F967_1_004E0D, 0xF968_00F968_1_006CCC,
  0xF969_00F969_1_006578, 0xF96A_00F96A_1_007D22, 0xF96B_00F96B_1_0053C3, 0xF96C_00F96C_1_00585E,
  0xF96D_00F96D_1_007701, 0xF96E_00F96E_1_008449, 0xF96F_00F96F_1_008AAA, 0xF970_00F970_1_006BBA,
  0xF971_00F971_1_008FB0, 0xF972_00F972_1_006C88, 0xF973_00F973_1_0062FE, 0xF974_00F974_1_0082E5,
  0xF975_00F975_1_0063A0, 0xF976_00F976_1_007565, 0xF977_00F977_1_004EAE, 0xF978_00F978_1_005169,
  0xF979_00F979_1_0051C9, 0xF97A_00F97A_1_006881, 0xF97B_00F97B_1_007CE7, 0xF97C_00F97C_1_00826F,
  0xF97D_00F97D_1_008AD2, 0xF97E_00F97E_1_0091CF, 0xF97F_00F97F_1_0052F5, 0xF980_00F980_1_005442,
  0xF981_00F981_1_005973, 0xF982_00F982_1_005EEC, 0xF983_00F983_1_0065C5, 0xF984_00F984_1_006FFE,
  0xF985_00F985_1_00792A, 0xF986_00F986_1_0095AD, 0xF987_00F987_1_009A6A, 0xF988_00F988_1_009E97,
  0xF989_00F989_1_009ECE, 0xF98A_00F98A_1_00529B, 0xF98B_00F98B_1_0066C6, 0xF98C_00F98C_1_006B77,
  0xF98D_00F98D_1_008F62, 0xF98E_00F98E_1_005E74, 0xF98F_00F98F_1_006190, 0xF990_00F990_1_006200,
  0xF991_00F991_1_00649A, 0xF992_00F992_1_006F23, 0xF993_00F993_1_007149, 0xF994_00F994_1_007489,
  0xF995_00F995_1_0079CA, 0xF996_00F996_1_007DF4, 0xF997_00F997_1_00806F, 0xF998_00F998_1_008F26,
  0xF999_00F999_1_0084EE, 0xF99A_00F99A_1_009023, 0xF99B_00F99B_1_00934A, 0xF99C_00F99C_1_005217,
  0xF99D_00F99D_1_0052A3, 0xF99E_00F99E_1_0054BD, 0xF99F_00F99F_1_0070C8, 0xF9A0_00F9A0_1_0088C2,
  0xF9A1_00F9A1_1_008AAA, 0xF9A2_00F9A2_1_005EC9, 0xF9A3_00F9A3_1_005FF5, 0xF9A4_00F9A4_1_00637B,
  0xF9A5_00F9A5_1_006BAE, 0xF9A6_00F9A6_1_007C3E, 0xF9A7_00F9A7_1_007375, 0xF9A8_00F9A8_1_004EE4,
  0xF9A9_00F9A9_1_0056F9, 0xF9AA_00F9AA_1_005BE7, 0xF9AB_00F9AB_1_005DBA, 0xF9AC_00F9AC_1_00601C,
  0xF9AD_00F9AD_1_0073B2, 0xF9AE_00F9AE_1_007469, 0xF9AF_00F9AF_1_007F9A, 0xF9B0_00F9B0_1_008046,
  0xF9B1_00F9B1_1_009234, 0xF9B2_00F9B2_1_0096F6, 0xF9B3_00F9B3_1_009748, 0xF9B4_00F9B4_1_009818,
  0xF9B5_00F9B5_1_004F8B, 0xF9B6_00F9B6_1_0079AE, 0xF9B7_00F9B7_1_0091B4, 0xF9B8_00F9B8_1_0096B8,
  0xF9B9_00F9B9_1_0060E1, 0xF9BA_00F9BA_1_004E86, 0xF9BB_00F9BB_1_0050DA, 0xF9BC_00F9BC_1_005BEE,
  0xF9BD_00F9BD_1_005C3F, 0xF9BE_00F9BE_1_006599, 0xF9BF_00F9BF_1_006A02, 0xF9C0_00F9C0_1_0071CE,
  0xF9C1_00F9C1_1_007642, 0xF9C2_00F9C2_1_0084FC, 0xF9C3_00F9C3_1_00907C, 0xF9C4_00F9C4_1_009F8D,
  0xF9C5_00F9C5_1_006688, 0xF9C6_00F9C6_1_00962E, 0xF9C7_00F9C7_1_005289, 0xF9C8_00F9C8_1_00677B,
  0xF9C9_00F9C9_1_0067F3, 0xF9CA_00F9CA_1_006D41, 0xF9CB_00F9CB_1_006E9C, 0xF9CC_00F9CC_1_007409,
  0xF9CD_00F9CD_1_007559, 0xF9CE_00F9CE_1_00786B, 0xF9CF_00F9CF_1_007D10, 0xF9D0_00F9D0_1_00985E,
  0xF9D1_00F9D1_1_00516D, 0xF9D2_00F9D2_1_00622E, 0xF9D3_00F9D3_1_009678, 0xF9D4_00F9D4_1_00502B,
  0xF9D5_00F9D5_1_005D19, 0xF9D6_00F9D6_1_006DEA, 0xF9D7_00F9D7_1_008F2A, 0xF9D8_00F9D8_1_005F8B,
  0xF9D9_00F9D9_1_006144, 0xF9DA_00F9DA_1_006817, 0xF9DB_00F9DB_1_007387, 0xF9DC_00F9DC_1_009686,
  0xF9DD_00F9DD_1_005229, 0xF9DE_00F9DE_1_00540F, 0xF9DF_00F9DF_1_005C65, 0xF9E0_00F9E0_1_006613,
  0xF9E1_00F9E1_1_00674E, 0xF9E2_00F9E2_1_0068A8, 0xF9E3_00F9E3_1_006CE5, 0xF9E4_00F9E4_1_007406,
  0xF9E5_00F9E5_1_0075E2, 0xF9E6_00F9E6_1_007F79, 0xF9E7_00F9E7_1_0088CF, 0xF9E8_00F9E8_1_0088E1,
  0xF9E9_00F9E9_1_0091CC, 0xF9EA_00F9EA_1_0096E2, 0xF9EB_00F9EB_1_00533F, 0xF9EC_00F9EC_1_006EBA,
  0xF9ED_00F9ED_1_00541D, 0xF9EE_00F9EE_1_0071D0, 0xF9EF_00F9EF_1_007498, 0xF9F0_00F9F0_1_0085FA,
  0xF9F1_00F9F1_1_0096A3, 0xF9F2_00F9F2_1_009C57, 0xF9F3_00F9F3_1_009E9F, 0xF9F4_00F9F4_1_006797,
  0xF9F5_00F9F5_1_006DCB, 0xF9F6_00F9F6_1_0081E8, 0xF9F7_00F9F7_1_007ACB, 0xF9F8_00F9F8_1_007B20,
  0xF9F9_00F9F9_1_007C92, 0xF9FA_00F9FA_1_0072C0, 0xF9FB_00F9FB_1_007099, 0xF9FC_00F9FC_1_008B58,
  0xF9FD_00F9FD_1_004EC0, 0xF9FE_00F9FE_1_008336, 0xF9FF_00F9FF_1_00523A, 0xFA00_00FA00_1_005207,
  0xFA01_00FA01_1_005EA6, 0xFA02_00FA02_1_0062D3, 0xFA03_00FA03_1_007CD6, 0xFA04_00FA04_1_005B85,
  0xFA05_00FA05_1_006D1E, 0xFA06_00FA06_1_0066B4, 0xFA07_00FA07_1_008F3B, 0xFA08_00FA08_1_00884C,
  0xFA09_00FA09_1_00964D, 0xFA0A_00FA0A_1_00898B, 0xFA0B_00FA0B_1_005ED3, 0xFA0C_00FA0C_1_005140,
  0xFA0D_00FA0D_1_0055C0, 0xFA10_00FA10_1_00585A, 0xFA12_00FA12_1_006674, 0xFA15_00FA15_1_0051DE,
  0xFA16_00FA16_1_00732A, 0xFA17_00FA17_1_0076CA, 0xFA18_00FA18_1_00793C, 0xFA19_00FA19_1_00795E,
  0xFA1A_00FA1A_1_007965, 0xFA1B_00FA1B_1_00798F, 0xFA1C_00FA1C_1_009756, 0xFA1D_00FA1D_1_007CBE,
  0xFA1E_00FA1E_1_007FBD, 0xFA20_00FA20_1_008612, 0xFA22_00FA22_1_008AF8, 0xFA25_00FA25_1_009038,
  0xFA26_00FA26_1_0090FD, 0xFA2A_00FA2A_1_0098EF, 0xFA2B_00FA2B_1_0098FC, 0xFA2C_00FA2C_1_009928,
  0xFA2D_00FA2D_1_009DB4, 0xFA2E_00FA2E_1_0090DE, 0xFA2F_00FA2F_1_0096B7, 0xFA30_00FA30_1_004FAE,
  0xFA31_00FA31_1_0050E7, 0xFA32_00FA32_1_00514D, 0xFA33_00FA33_1_0052C9, 0xFA34_00FA34_1_0052E4,
  0xFA35_00FA35_1_005351, 0xFA36_00FA36_1_00559D, 0xFA37_00FA37_1_005606, 0xFA38_00FA38_1_005668,
  0xFA39_00FA39_1_005840, 0xFA3A_00FA3A_1_0058A8, 0xFA3B_00FA3B_1_005C64, 0xFA3C_00FA3C_1_005C6E,
  0xFA3D_00FA3D_1_006094, 0xFA3E_00FA3E_1_006168, 0xFA3F_00FA3F_1_00618E, 0xFA40_00FA40_1_0061F2,
  0xFA41_00FA41_1_00654F, 0xFA42_00FA42_1_0065E2, 0xFA43_00FA43_1_006691, 0xFA44_00FA44_1_006885,
  0xFA45_00FA45_1_006D77, 0xFA46_00FA46_1_006E1A, 0xFA47_00FA47_1_006F22, 0xFA48_00FA48_1_00716E,
  0xFA49_00FA49_1_00722B, 0xFA4A_00FA4A_1_007422, 0xFA4B_00FA4B_1_007891, 0xFA4C_00FA4C_1_00793E,
  0xFA4D_00FA4D_1_007949, 0xFA4E_00FA4E_1_007948, 0xFA4F_00FA4F_1_007950, 0xFA50_00FA50_1_007956,
  0xFA51_00FA51_1_00795D, 0xFA52_00FA53_1_00798D, 0xFA54_00FA54_1_007A40, 0xFA55_00FA55_1_007A81,
  0xFA56_00FA56_1_007BC0, 0xFA57_00FA57_1_007DF4, 0xFA58_00FA58_1_007E09, 0xFA59_00FA59_1_007E41,
  0xFA5A_00FA5A_1_007F72, 0xFA5B_00FA5B_1_008005, 0xFA5C_00FA5C_1_0081ED, 0xFA5D_00FA5D_1_008279,
  0xFA5E_00FA5E_1_008279, 0xFA5F_00FA5F_1_008457, 0xFA60_00FA60_1_008910, 0xFA61_00FA61_1_008996,
  0xFA62_00FA62_1_008B01, 0xFA63_00FA63_1_008B39, 0xFA64_00FA64_1_008CD3, 0xFA65_00FA65_1_008D08,
  0xFA66_00FA66_1_008FB6, 0xFA67_00FA67_1_009038, 0xFA68_00FA68_1_0096E3, 0xFA69_00FA69_1_0097FF,
  0xFA6A_00FA6A_1_00983B, 0xFA6B_00FA6B_1_006075, 0xFA6C_00FA6C_1_0242EE, 0xFA6D_00FA6D_1_008218,
  0xFA70_00FA70_1_004E26, 0xFA71_00FA71_1_0051B5, 0xFA72_00FA72_1_005168, 0xFA73_00FA73_1_004F80,
  0xFA74_00FA74_1_005145, 0xFA75_00FA75_1_005180, 0xFA76_00FA76_1_0052C7, 0xFA77_00FA77_1_0052FA,
  0xFA78_00FA78_1_00559D, 0xFA79_00FA79_1_005555, 0xFA7A_00FA7A_1_005599, 0xFA7B_00FA7B_1_0055E2,
  0xFA7C_00FA7C_1_00585A, 0xFA7D_00FA7D_1_0058B3, 0xFA7E_00FA7E_1_005944, 0xFA7F_00FA7F_1_005954,
  0xFA80_00FA80_1_005A62, 0xFA81_00FA81_1_005B28, 0xFA82_00FA82_1_005ED2, 0xFA83_00FA83_1_005ED9,
  0xFA84_00FA84_1_005F69, 0xFA85_00FA85_1_005FAD, 0xFA86_00FA86_1_0060D8, 0xFA87_00FA87_1_00614E,
  0xFA88_00FA88_1_006108, 0xFA89_00FA89_1_00618E, 0xFA8A_00FA8A_1_006160, 0xFA8B_00FA8B_1_0061F2,
  0xFA8C_00FA8C_1_006234, 0xFA8D_00FA8D_1_0063C4, 0xFA8E_00FA8E_1_00641C, 0xFA8F_00FA8F_1_006452,
  0xFA90_00FA90_1_006556, 0xFA91_00FA91_1_006674, 0xFA92_00FA92_1_006717, 0xFA93_00FA93_1_00671B,
  0xFA94_00FA94_1_006756, 0xFA95_00FA95_1_006B79, 0xFA96_00FA96_1_006BBA, 0xFA97_00FA97_1_006D41,
  0xFA98_00FA98_1_006EDB, 0xFA99_00FA99_1_006ECB, 0xFA9A_00FA9A_1_006F22, 0xFA9B_00FA9B_1_00701E,
  0xFA9C_00FA9C_1_00716E, 0xFA9D_00FA9D_1_0077A7, 0xFA9E_00FA9E_1_007235, 0xFA9F_00FA9F_1_0072AF,
  0xFAA0_00FAA0_1_00732A, 0xFAA1_00FAA1_1_007471, 0xFAA2_00FAA2_1_007506, 0xFAA3_00FAA3_1_00753B,
  0xFAA4_00FAA4_1_00761D, 0xFAA5_00FAA5_1_00761F, 0xFAA6_00FAA6_1_0076CA, 0xFAA7_00FAA7_1_0076DB,
  0xFAA8_00FAA8_1_0076F4, 0xFAA9_00FAA9_1_00774A, 0xFAAA_00FAAA_1_007740, 0xFAAB_00FAAB_1_0078CC,
  0xFAAC_00FAAC_1_007AB1, 0xFAAD_00FAAD_1_007BC0, 0xFAAE_00FAAE_1_007C7B, 0xFAAF_00FAAF_1_007D5B,
  0xFAB0_00FAB0_1_007DF4, 0xFAB1_00FAB1_1_007F3E, 0xFAB2_00FAB2_1_008005, 0xFAB3_00FAB3_1_008352,
  0xFAB4_00FAB4_1_0083EF, 0xFAB5_00FAB5_1_008779, 0xFAB6_00FAB6_1_008941, 0xFAB7_00FAB7_1_008986,
  0xFAB8_00FAB8_1_008996, 0xFAB9_00FAB9_1_008ABF, 0xFABA_00FABA_1_008AF8, 0xFABB_00FABB_1_008ACB,
  0xFABC_00FABC_1_008B01, 0xFABD_00FABD_1_008AFE, 0xFABE_00FABE_1_008AED, 0xFABF_00FABF_1_008B39,
  0xFAC0_00FAC0_1_008B8A, 0xFAC1_00FAC1_1_008D08, 0xFAC2_00FAC2_1_008F38, 0xFAC3_00FAC3_1_009072,
  0xFAC4_00FAC4_1_009199, 0xFAC5_00FAC5_1_009276, 0xFAC6_00FAC6_1_00967C, 0xFAC7_00FAC7_1_0096E3,
  0xFAC8_00FAC8_1_009756, 0xFAC9_00FAC9_1_0097DB, 0xFACA_00FACA_1_0097FF, 0xFACB_00FACB_1_00980B,
  0xFACC_00FACC_1_00983B, 0xFACD_00FACD_1_009B12, 0xFACE_00FACE_1_009F9C, 0xFACF_00FACF_1_02284A,
  0xFAD0_00FAD0_1_022844, 0xFAD1_00FAD1_1_0233D5, 0xFAD2_00FAD2_1_003B9D, 0xFAD3_00FAD3_1_004018,
  0xFAD4_00FAD4_1_004039, 0xFAD5_00FAD5_1_025249, 0xFAD6_00FAD6_1_025CD0, 0xFAD7_00FAD7_1_027ED3,
  0xFAD8_00FAD8_1_009F43, 0xFAD9_00FAD9_1_009F8E, 0xFB20_00FB20_1_0005E2, 0xFB21_00FB21_1_0005D0,
  0xFB22_00FB23_1_0005D3, 0xFB24_00FB26_1_0005DB, 0xFB27_00FB27_1_0005E8, 0xFB28_00FB28_1_0005EA,
  0xFB29_00FB29_1_00002B, 0xFB50_00FB50_1_000671, 0xFB51_00FB51_1_000671, 0xFB52_00FB52_1_00067B,
  0xFB53_00FB53_1_00067B, 0xFB54_00FB54_1_00067B, 0xFB55_00FB55_1_00067B, 0xFB56_00FB56_1_00067E,
  0xFB57_00FB57_1_00067E, 0xFB58_00FB58_1_00067E, 0xFB59_00FB59_1_00067E, 0xFB5A_00FB5A_1_000680,
  0xFB5B_00FB5B_1_000680, 0xFB5C_00FB5C_1_000680, 0xFB5D_00FB5D_1_000680, 0xFB5E_00FB5E_1_00067A,
  0xFB5F_00FB5F_1_00067A, 0xFB60_00FB60_1_00067A, 0xFB61_00FB61_1_00067A, 0xFB62_00FB62_1_00067F,
  0xFB63_00FB63_1_00067F, 0xFB64_00FB64_1_00067F, 0xFB65_00FB65_1_00067F, 0xFB66_00FB66_1_000679,
  0xFB67_00FB67_1_000679, 0xFB68_00FB68_1_000679, 0xFB69_00FB69_1_000679, 0xFB6A_00FB6A_1_0006A4,
  0xFB6B_00FB6B_1_0006A4, 0xFB6C_00FB6C_1_0006A4, 0xFB6D_00FB6D_1_0006A4, 0xFB6E_00FB6E_1_0006A6,
  0xFB6F_00FB6F_1_0006A6, 0xFB70_00FB70_1_0006A6, 0xFB71_00FB71_1_0006A6, 0xFB72_00FB72_1_000684,
  0xFB73_00FB73_1_000684, 0xFB74_00FB74_1_000684, 0xFB75_00FB75_1_000684, 0xFB76_00FB76_1_000683,
  0xFB77_00FB77_1_000683, 0xFB78_00FB78_1_000683, 0xFB79_00FB79_1_000683, 0xFB7A_00FB7A_1_000686,
  0xFB7B_00FB7B_1_000686, 0xFB7C_00FB7C_1_000686, 0xFB7D_00FB7E_1_000686, 0xFB7F_00FB7F_1_000687,
  0xFB80_00FB80_1_000687, 0xFB81_00FB81_1_000687, 0xFB82_00FB82_1_00068D, 0xFB83_00FB83_1_00068D,
  0xFB84_00FB84_1_00068C, 0xFB85_00FB85_1_00068C, 0xFB86_00FB86_1_00068E, 0xFB87_00FB87_1_00068E,
  0xFB88_00FB88_1_000688, 0xFB89_00FB89_1_000688, 0xFB8A_00FB8A_1_000698, 0xFB8B_00FB8B_1_000698,
  0xFB8C_00FB8C_1_000691, 0xFB8D_00FB8D_1_000691, 0xFB8E_00FB8E_1_0006A9, 0xFB8F_00FB8F_1_0006A9,
  0xFB90_00FB90_1_0006A9, 0xFB91_00FB91_1_0006A9, 0xFB92_00FB92_1_0006AF, 0xFB93_00FB93_1_0006AF,
  0xFB94_00FB94_1_0006AF, 0xFB95_00FB95_1_0006AF, 0xFB96_00FB96_1_0006B3, 0xFB97_00FB97_1_0006B3,
  0xFB98_00FB98_1_0006B3, 0xFB99_00FB99_1_0006B3, 0xFB9A_00FB9A_1_0006B1, 0xFB9B_00FB9B_1_0006B1,
  0xFB9C_00FB9C_1_0006B1, 0xFB9D_00FB9D_1_0006B1, 0xFB9E_00FB9E_1_0006BA, 0xFB9F_00FBA0_1_0006BA,
  0xFBA1_00FBA1_1_0006BB, 0xFBA2_00FBA2_1_0006BB, 0xFBA3_00FBA3_1_0006BB, 0xFBA4_00FBA4_1_0006C0,
  0xFBA5_00FBA6_1_0006C0, 0xFBA7_00FBA7_1_0006C1, 0xFBA8_00FBA8_1_0006C1, 0xFBA9_00FBA9_1_0006C1,
  0xFBAA_00FBAA_1_0006BE, 0xFBAB_00FBAB_1_0006BE, 0xFBAC_00FBAC_1_0006BE, 0xFBAD_00FBAD_1_0006BE,
  0xFBAE_00FBAE_1_0006D2, 0xFBAF_00FBB0_1_0006D2, 0xFBB1_00FBB1_1_0006D3, 0xFBD3_00FBD3_1_0006AD,
  0xFBD4_00FBD4_1_0006AD, 0xFBD5_00FBD5_1_0006AD, 0xFBD6_00FBD6_1_0006AD, 0xFBD7_00FBD7_1_0006C7,
  0xFBD8_00FBD8_1_0006C7, 0xFBD9_00FBD9_1_0006C6, 0xFBDA_00FBDA_1_0006C6, 0xFBDB_00FBDB_1_0006C8,
  0xFBDC_00FBDC_1_0006C8, 0xFBDE_00FBDE_1_0006CB, 0xFBDF_00FBDF_1_0006CB, 0xFBE0_00FBE0_1_0006C5,
  0xFBE1_00FBE1_1_0006C5, 0xFBE2_00FBE2_1_0006C9, 0xFBE3_00FBE3_1_0006C9, 0xFBE4_00FBE4_1_0006D0,
  0xFBE5_00FBE5_1_0006D0, 0xFBE6_00FBE6_1_0006D0, 0xFBE7_00FBE7_1_0006D0, 0xFBE8_00FBE8_1_000649,
  0xFBE9_00FBE9_1_000649, 0xFBFC_00FBFC_1_0006CC, 0xFBFD_00FBFD_1_0006CC, 0xFBFE_00FBFE_1_0006CC,
  0xFBFF_00FBFF_1_0006CC, 0xFE10_00FE10_1_00002C, 0xFE11_00FE11_1_003001, 0xFE13_00FE14_1_00003A,
  0xFE15_00FE15_1_000021, 0xFE16_00FE16_1_00003F, 0xFE17_00FE18_1_003016, 0xFE31_00FE31_1_002014,
  0xFE32_00FE32_1_002013, 0xFE33_00FE33_1_00005F, 0xFE34_00FE34_1_00005F, 0xFE35_00FE36_1_000028,
  0xFE37_00FE37_1_00007B, 0xFE38_00FE38_1_00007D, 0xFE39_00FE3A_1_003014, 0xFE3B_00FE3C_1_003010,
  0xFE3D_00FE3E_1_00300A, 0xFE3F_00FE40_1_003008, 0xFE41_00FE44_1_00300C, 0xFE47_00FE47_1_00005B,
  0xFE48_00FE48_1_00005D, 0xFE4D_00FE4D_1_00005F, 0xFE4E_00FE4E_1_00005F, 0xFE4F_00FE4F_1_00005F,
  0xFE50_00FE50_1_00002C, 0xFE51_00FE51_1_003001, 0xFE54_00FE54_1_00003B, 0xFE55_00FE55_1_00003A,
  0xFE56_00FE56_1_00003F, 0xFE57_00FE57_1_000021, 0xFE58_00FE58_1_002014, 0xFE59_00FE5A_1_000028,
  0xFE5B_00FE5B_1_00007B, 0xFE5C_00FE5C_1_00007D, 0xFE5D_00FE5E_1_003014, 0xFE5F_00FE5F_1_000023,
  0xFE60_00FE60_1_000026, 0xFE61_00FE62_1_00002A, 0xFE63_00FE63_1_00002D, 0xFE64_00FE64_1_00003C,
  0xFE65_00FE65_1_00003E, 0xFE66_00FE66_1_00003D, 0xFE68_00FE68_1_00005C, 0xFE69_00FE6A_1_000024,
  0xFE6B_00FE6B_1_000040, 0xFE80_00FE81_1_000621, 0xFE82_00FE83_1_000622, 0xFE84_00FE85_1_000623,
  0xFE86_00FE87_1_000624, 0xFE88_00FE89_1_000625, 0xFE8A_00FE8A_1_000626, 0xFE8B_00FE8B_1_000626,
  0xFE8C_00FE8D_1_000626, 0xFE8E_00FE8F_1_000627, 0xFE90_00FE90_1_000628, 0xFE91_00FE91_1_000628,
  0xFE92_00FE93_1_000628, 0xFE94_00FE95_1_000629, 0xFE96_00FE96_1_00062A, 0xFE97_00FE97_1_00062A,
  0xFE98_00FE99_1_00062A, 0xFE9A_00FE9A_1_00062B, 0xFE9B_00FE9B_1_00062B, 0xFE9C_00FE9D_1_00062B,
  0xFE9E_00FE9E_1_00062C, 0xFE9F_00FE9F_1_00062C, 0xFEA0_00FEA1_1_00062C, 0xFEA2_00FEA2_1_00062D,
  0xFEA3_00FEA3_1_00062D, 0xFEA4_00FEA5_1_00062D, 0xFEA6_00FEA6_1_00062E, 0xFEA7_00FEA7_1_00062E,
  0xFEA8_00FEA9_1_00062E, 0xFEAA_00FEAB_1_00062F, 0xFEAC_00FEAD_1_000630, 0xFEAE_00FEAF_1_000631,
  0xFEB0_00FEB1_1_000632, 0xFEB2_00FEB2_1_000633, 0xFEB3_00FEB3_1_000633, 0xFEB4_00FEB5_1_000633,
  0xFEB6_00FEB6_1_000634, 0xFEB7_00FEB7_1_000634, 0xFEB8_00FEB9_1_000634, 0xFEBA_00FEBA_1_000635,
  0xFEBB_00FEBB_1_000635, 0xFEBC_00FEBD_1_000635, 0xFEBE_00FEBE_1_000636, 0xFEBF_00FEBF_1_000636,
  0xFEC0_00FEC1_1_000636, 0xFEC2_00FEC2_1_000637, 0xFEC3_00FEC3_1_000637, 0xFEC4_00FEC5_1_000637,
  0xFEC6_00FEC6_1_000638, 0xFEC7_00FEC7_1_000638, 0xFEC8_00FEC9_1_000638, 0xFECA_00FECA_1_000639,
  0xFECB_00FECB_1_000639, 0xFECC_00FECD_1_000639, 0xFECE_00FECE_1_00063A, 0xFECF_00FECF_1_00063A,
  0xFED0_00FED0_1_00063A, 0xFED1_00FED1_1_000641, 0xFED2_00FED2_1_000641, 0xFED3_00FED3_1_000641,
  0xFED4_00FED5_1_000641, 0xFED6_00FED6_1_000642, 0xFED7_00FED7_1_000642, 0xFED8_00FED9_1_000642,
  0xFEDA_00FEDA_1_000643, 0xFEDB_00FEDB_1_000643, 0xFEDC_00FEDD_1_000643, 0xFEDE_00FEDE_1_000644,
  0xFEDF_00FEDF_1_000644, 0xFEE0_00FEE1_1_000644, 0xFEE2_00FEE2_1_000645, 0xFEE3_00FEE3_1_000645,
  0xFEE4_00FEE5_1_000645, 0xFEE6_00FEE6_1_000646, 0xFEE7_00FEE7_1_000646, 0xFEE8_00FEE9_1_000646,
  0xFEEA_00FEEA_1_000647, 0xFEEB_00FEEB_1_000647, 0xFEEC_00FEED_1_000647, 0xFEEE_00FEEF_1_000648,
  0xFEF0_00FEF1_1_000649, 0xFEF2_00FEF2_1_00064A, 0xFEF3_00FEF3_1_00064A, 0xFEF4_00FEF4_1_00064A,
  0xFF01_00FF20_1_000021, 0xFF21_00FF3A_1_000061, 0xFF3B_00FF5E_1_00005B, 0xFF5F_00FF60_1_002985,
  0xFF61_00FF61_1_00002E, 0xFF62_00FF63_1_00300C, 0xFF64_00FF64_1_003001, 0xFF65_00FF65_1_0030FB,
  0xFF66_00FF66_1_0030F2, 0xFF67_00FF67_1_0030A1, 0xFF68_00FF68_1_0030A3, 0xFF69_00FF69_1_0030A5,
  0xFF6A_00FF6A_1_0030A7, 0xFF6B_00FF6B_1_0030A9, 0xFF6C_00FF6C_1_0030E3, 0xFF6D_00FF6D_1_0030E5,
  0xFF6E_00FF6E_1_0030E7, 0xFF6F_00FF6F_1_0030C3, 0xFF70_00FF70_1_0030FC, 0xFF71_00FF71_1_0030A2,
  0xFF72_00FF72_1_0030A4, 0xFF73_00FF73_1_0030A6, 0xFF74_00FF74_1_0030A8, 0xFF75_00FF76_1_0030AA,
  0xFF77_00FF77_1_0030AD, 0xFF78_00FF78_1_0030AF, 0xFF79_00FF79_1_0030B1, 0xFF7A_00FF7A_1_0030B3,
  0xFF7B_00FF7B_1_0030B5, 0xFF7C_00FF7C_1_0030B7, 0xFF7D_00FF7D_1_0030B9, 0xFF7E_00FF7E_1_0030BB,
  0xFF7F_00FF7F_1_0030BD, 0xFF80_00FF80_1_0030BF, 0xFF81_00FF81_1_0030C1, 0xFF82_00FF82_1_0030C4,
  0xFF83_00FF83_1_0030C6, 0xFF84_00FF84_1_0030C8, 0xFF85_00FF8A_1_0030CA, 0xFF8B_00FF8B_1_0030D2,
  0xFF8C_00FF8C_1_0030D5, 0xFF8D_00FF8D_1_0030D8, 0xFF8E_00FF8E_1_0030DB, 0xFF8F_00FF93_1_0030DE,
  0xFF94_00FF94_1_0030E4, 0xFF95_00FF95_1_0030E6, 0xFF96_00FF9B_1_0030E8, 0xFF9C_00FF9C_1_0030EF,
  0xFF9D_00FF9D_1_0030F3, 0xFF9E_00FF9F_1_003099, 0xFFA1_00FFA2_1_001100, 0xFFA3_00FFA3_1_0011AA,
  0xFFA4_00FFA4_1_001102, 0xFFA5_00FFA6_1_0011AC, 0xFFA7_00FFA9_1_001103, 0xFFAA_00FFAF_1_0011B0,
  0xFFB0_00FFB0_1_00111A, 0xFFB1_00FFB3_1_001106, 0xFFB4_00FFB4_1_001121, 0xFFB5_00FFBE_1_001109,
  0xFFC2_00FFC7_1_001161, 0xFFCA_00FFCF_1_001167, 0xFFD2_00FFD7_1_00116D, 0xFFDA_00FFDC_1_001173,
  0xFFE0_00FFE1_1_0000A2, 0xFFE2_00FFE2_1_0000AC, 0xFFE4_00FFE4_1_0000A6, 0xFFE5_00FFE5_1_0000A5,
  0xFFE6_00FFE6_1_0020A9, 0xFFE8_00FFE8_1_002502, 0xFFE9_00FFEC_1_002190, 0xFFED_00FFED_1_0025A0,
  0xFFEE_00FFEE_1_0025CB, 0x10400_010427_1_010428, 0x104B0_0104D3_1_0104D8, 0x10570_010594_2_010597,
  0x10571_010579_2_010598, 0x1057D_010589_2_0105A4, 0x1058D_010591_2_0105B4,
  0x10595_010595_1_0105BC, 0x10781_010782_1_0002D0, 0x10783_010783_1_0000E6,
  0x10784_010784_1_000299, 0x10785_010785_1_000253, 0x10787_010787_1_0002A3,
  0x10788_010788_1_00AB66, 0x10789_010789_1_0002A5, 0x1078A_01078A_1_0002A4,
  0x1078B_01078C_1_000256, 0x1078D_01078D_1_001D91, 0x1078E_01078E_1_000258,
  0x1078F_01078F_1_00025E, 0x10790_010790_1_0002A9, 0x10791_010791_1_000264,
  0x10792_010792_1_000262, 0x10793_010793_1_000260, 0x10794_010794_1_00029B,
  0x10795_010795_1_000127, 0x10796_010796_1_00029C, 0x10797_010797_1_000267,
  0x10798_010798_1_000284, 0x10799_01079A_1_0002AA, 0x1079B_01079B_1_00026C,
  0x1079C_01079C_1_01DF04, 0x1079D_01079D_1_00A78E, 0x1079E_01079E_1_00026E,
  0x1079F_01079F_1_01DF05, 0x107A0_0107A0_1_00028E, 0x107A1_0107A1_1_01DF06,
  0x107A2_0107A2_1_0000F8, 0x107A3_0107A4_1_000276, 0x107A5_0107A5_1_000071,
  0x107A6_0107A6_1_00027A, 0x107A7_0107A7_1_01DF08, 0x107A8_0107A9_1_00027D,
  0x107AA_0107AA_1_000280, 0x107AB_0107AB_1_0002A8, 0x107AC_0107AC_1_0002A6,
  0x107AD_0107AD_1_00AB67, 0x107AE_0107AE_1_0002A7, 0x107AF_0107AF_1_000288,
  0x107B0_0107B0_1_002C71, 0x107B2_0107B2_1_00028F, 0x107B3_0107B4_1_0002A1,
  0x107B5_0107B5_1_000298, 0x107B6_0107B8_1_0001C0, 0x107B9_0107B9_1_01DF0A,
  0x107BA_0107BA_1_01DF1E, 0x10C80_010CB2_1_010CC0, 0x10D50_010D65_1_010D70,
  0x118A0_0118BF_1_0118C0, 0x16E40_016E5F_1_016E60, 0x1CCD6_01CCEF_1_000061,
  0x1CCF0_01CCF9_1_000030, 0x1D400_01D419_1_000061, 0x1D41A_01D433_1_000061,
  0x1D434_01D44D_1_000061, 0x1D44E_01D466_2_000061, 0x1D44F_01D453_2_000062,
  0x1D457_01D467_2_00006A, 0x1D468_01D481_1_000061, 0x1D482_01D49B_1_000061,
  0x1D49C_01D49C_1_000061, 0x1D49E_01D49F_1_000063, 0x1D4A2_01D4A2_1_000067,
  0x1D4A5_01D4A6_1_00006A, 0x1D4A9_01D4AC_1_00006E, 0x1D4AE_01D4B5_1_000073,
  0x1D4B6_01D4B9_1_000061, 0x1D4BB_01D4CF_2_000066, 0x1D4BE_01D4C2_2_000069,
  0x1D4C6_01D4CE_2_000071, 0x1D4D0_01D4E9_1_000061, 0x1D4EA_01D503_1_000061,
  0x1D504_01D505_1_000061, 0x1D507_01D50A_1_000064, 0x1D50D_01D514_1_00006A,
  0x1D516_01D51C_1_000073, 0x1D51E_01D537_1_000061, 0x1D538_01D539_1_000061,
  0x1D53B_01D53E_1_000064, 0x1D540_01D544_1_000069, 0x1D546_01D546_1_00006F,
  0x1D54A_01D550_1_000073, 0x1D552_01D56B_1_000061, 0x1D56C_01D585_1_000061,
  0x1D586_01D59F_1_000061, 0x1D5A0_01D5B9_1_000061, 0x1D5BA_01D5D3_1_000061,
  0x1D5D4_01D5ED_1_000061, 0x1D5EE_01D607_1_000061, 0x1D608_01D621_1_000061,
  0x1D622_01D63B_1_000061, 0x1D63C_01D655_1_000061, 0x1D656_01D66F_1_000061,
  0x1D670_01D689_1_000061, 0x1D68A_01D6A3_1_000061, 0x1D6A4_01D6A4_1_000131,
  0x1D6A5_01D6A5_1_000237, 0x1D6A8_01D6B8_1_0003B1, 0x1D6B9_01D6B9_1_0003B8,
  0x1D6BA_01D6C0_1_0003C3, 0x1D6C1_01D6C1_1_002207, 0x1D6C2_01D6D2_1_0003B1,
  0x1D6D3_01D6D3_1_0003C3, 0x1D6D4_01D6DA_1_0003C3, 0x1D6DB_01D6DB_1_002202,
  0x1D6DC_01D6DC_1_0003B5, 0x1D6DD_01D6DD_1_0003B8, 0x1D6DE_01D6DE_1_0003BA,
  0x1D6DF_01D6DF_1_0003C6, 0x1D6E0_01D6E0_1_0003C1, 0x1D6E1_01D6E1_1_0003C0,
  0x1D6E2_01D6F2_1_0003B1, 0x1D6F3_01D6F3_1_0003B8, 0x1D6F4_01D6FA_1_0003C3,
  0x1D6FB_01D6FB_1_002207, 0x1D6FC_01D70C_1_0003B1, 0x1D70D_01D70D_1_0003C3,
  0x1D70E_01D714_1_0003C3, 0x1D715_01D715_1_002202, 0x1D716_01D716_1_0003B5,
  0x1D717_01D717_1_0003B8, 0x1D718_01D718_1_0003BA, 0x1D719_01D719_1_0003C6,
  0x1D71A_01D71A_1_0003C1, 0x1D71B_01D71B_1_0003C0, 0x1D71C_01D72C_1_0003B1,
  0x1D72D_01D72D_1_0003B8, 0x1D72E_01D734_1_0003C3, 0x1D735_01D735_1_002207,
  0x1D736_01D746_1_0003B1, 0x1D747_01D747_1_0003C3, 0x1D748_01D74E_1_0003C3,
  0x1D74F_01D74F_1_002202, 0x1D750_01D750_1_0003B5, 0x1D751_01D751_1_0003B8,
  0x1D752_01D752_1_0003BA, 0x1D753_01D753_1_0003C6, 0x1D754_01D754_1_0003C1,
  0x1D755_01D755_1_0003C0, 0x1D756_01D766_1_0003B1, 0x1D767_01D767_1_0003B8,
  0x1D768_01D76E_1_0003C3, 0x1D76F_01D76F_1_002207, 0x1D770_01D780_1_0003B1,
  0x1D781_01D781_1_0003C3, 0x1D782_01D788_1_0003C3, 0x1D789_01D789_1_002202,
  0x1D78A_01D78A_1_0003B5, 0x1D78B_01D78B_1_0003B8, 0x1D78C_01D78C_1_0003BA,
  0x1D78D_01D78D_1_0003C6, 0x1D78E_01D78E_1_0003C1, 0x1D78F_01D78F_1_0003C0,
  0x1D790_01D7A0_1_0003B1, 0x1D7A1_01D7A1_1_0003B8, 0x1D7A2_01D7A8_1_0003C3,
  0x1D7A9_01D7A9_1_002207, 0x1D7AA_01D7BA_1_0003B1, 0x1D7BB_01D7BB_1_0003C3,
  0x1D7BC_01D7C2_1_0003C3, 0x1D7C3_01D7C3_1_002202, 0x1D7C4_01D7C4_1_0003B5,
  0x1D7C5_01D7C5_1_0003B8, 0x1D7C6_01D7C6_1_0003BA, 0x1D7C7_01D7C7_1_0003C6,
  0x1D7C8_01D7C8_1_0003C1, 0x1D7C9_01D7C9_1_0003C0, 0x1D7CA_01D7CA_1_0003DD,
  0x1D7CB_01D7CB_1_0003DD, 0x1D7CE_01D7D7_1_000030, 0x1D7D8_01D7E1_1_000030,
  0x1D7E2_01D7EB_1_000030, 0x1D7EC_01D7F5_1_000030, 0x1D7F6_01D7FF_1_000030,
  0x1E030_01E038_1_000430, 0x1E039_01E03B_1_00043A, 0x1E03C_01E046_1_00043E,
  0x1E047_01E047_1_00044B, 0x1E048_01E049_1_00044D, 0x1E04A_01E04A_1_00A689,
  0x1E04B_01E04B_1_0004D9, 0x1E04C_01E04C_1_000456, 0x1E04D_01E04D_1_000458,
  0x1E04E_01E04E_1_0004E9, 0x1E04F_01E04F_1_0004AF, 0x1E050_01E050_1_0004CF,
  0x1E051_01E059_1_000430, 0x1E05A_01E05B_1_00043A, 0x1E05C_01E05D_1_00043E,
  0x1E05E_01E05E_1_000441, 0x1E05F_01E064_1_000443, 0x1E065_01E066_1_00044A,
  0x1E067_01E067_1_000491, 0x1E068_01E068_1_000456, 0x1E069_01E069_1_000455,
  0x1E06A_01E06A_1_00045F, 0x1E06B_01E06B_1_0004AB, 0x1E06C_01E06C_1_00A651,
  0x1E06D_01E06D_1_0004B1, 0x1E900_01E921_1_01E922, 0x1EE00_01EE01_1_000627,
  0x1EE02_01EE02_1_00062C, 0x1EE03_01EE03_1_00062F, 0x1EE05_01EE05_1_000648,
  0x1EE06_01EE06_1_000632, 0x1EE07_01EE07_1_00062D, 0x1EE08_01EE08_1_000637,
  0x1EE09_01EE09_1_00064A, 0x1EE0A_01EE0D_1_000643, 0x1EE0E_01EE0E_1_000633,
  0x1EE0F_01EE0F_1_000639, 0x1EE10_01EE10_1_000641, 0x1EE11_01EE11_1_000635,
  0x1EE12_01EE12_1_000642, 0x1EE13_01EE13_1_000631, 0x1EE14_01EE14_1_000634,
  0x1EE15_01EE16_1_00062A, 0x1EE17_01EE17_1_00062E, 0x1EE18_01EE18_1_000630,
  0x1EE19_01EE19_1_000636, 0x1EE1A_01EE1A_1_000638, 0x1EE1B_01EE1B_1_00063A,
  0x1EE1C_01EE1C_1_00066E, 0x1EE1D_01EE1D_1_0006BA, 0x1EE1E_01EE1E_1_0006A1,
  0x1EE1F_01EE1F_1_00066F, 0x1EE21_01EE21_1_000628, 0x1EE22_01EE22_1_00062C,
  0x1EE24_01EE24_1_000647, 0x1EE27_01EE27_1_00062D, 0x1EE29_01EE29_1_00064A,
  0x1EE2A_01EE2D_1_000643, 0x1EE2E_01EE2E_1_000633, 0x1EE2F_01EE2F_1_000639,
  0x1EE30_01EE30_1_000641, 0x1EE31_01EE31_1_000635, 0x1EE32_01EE32_1_000642,
  0x1EE34_01EE34_1_000634, 0x1EE35_01EE36_1_00062A, 0x1EE37_01EE37_1_00062E,
  0x1EE39_01EE39_1_000636, 0x1EE3B_01EE3B_1_00063A, 0x1EE42_01EE42_1_00062C,
  0x1EE47_01EE47_1_00062D, 0x1EE49_01EE49_1_00064A, 0x1EE4B_01EE4B_1_000644,
  0x1EE4D_01EE4D_1_000646, 0x1EE4E_01EE4E_1_000633, 0x1EE4F_01EE4F_1_000639,
  0x1EE51_01EE51_1_000635, 0x1EE52_01EE52_1_000642, 0x1EE54_01EE54_1_000634,
  0x1EE57_01EE57_1_00062E, 0x1EE59_01EE59_1_000636, 0x1EE5B_01EE5B_1_00063A,
  0x1EE5D_01EE5D_1_0006BA, 0x1EE5F_01EE5F_1_00066F, 0x1EE61_01EE61_1_000628,
  0x1EE62_01EE62_1_00062C, 0x1EE64_01EE64_1_000647, 0x1EE67_01EE67_1_00062D,
  0x1EE68_01EE68_1_000637, 0x1EE69_01EE69_1_00064A, 0x1EE6A_01EE6A_1_000643,
  0x1EE6C_01EE6D_1_000645, 0x1EE6E_01EE6E_1_000633, 0x1EE6F_01EE6F_1_000639,
  0x1EE70_01EE70_1_000641, 0x1EE71_01EE71_1_000635, 0x1EE72_01EE72_1_000642,
  0x1EE74_01EE74_1_000634, 0x1EE75_01EE76_1_00062A, 0x1EE77_01EE77_1_00062E,
  0x1EE79_01EE79_1_000636, 0x1EE7A_01EE7A_1_000638, 0x1EE7B_01EE7B_1_00063A,
  0x1EE7C_01EE7C_1_00066E, 0x1EE7E_01EE7E_1_0006A1, 0x1EE80_01EE81_1_000627,
  0x1EE82_01EE82_1_00062C, 0x1EE83_01EE83_1_00062F, 0x1EE84_01EE85_1_000647,
  0x1EE86_01EE86_1_000632, 0x1EE87_01EE87_1_00062D, 0x1EE88_01EE88_1_000637,
  0x1EE89_01EE89_1_00064A, 0x1EE8B_01EE8D_1_000644, 0x1EE8E_01EE8E_1_000633,
  0x1EE8F_01EE8F_1_000639, 0x1EE90_01EE90_1_000641, 0x1EE91_01EE91_1_000635,
  0x1EE92_01EE92_1_000642, 0x1EE93_01EE93_1_000631, 0x1EE94_01EE94_1_000634,
  0x1EE95_01EE96_1_00062A, 0x1EE97_01EE97_1_00062E, 0x1EE98_01EE98_1_000630,
  0x1EE99_01EE99_1_000636, 0x1EE9A_01EE9A_1_000638, 0x1EE9B_01EE9B_1_00063A,
  0x1EEA1_01EEA1_1_000628, 0x1EEA2_01EEA2_1_00062C, 0x1EEA3_01EEA3_1_00062F,
  0x1EEA5_01EEA5_1_000648, 0x1EEA6_01EEA6_1_000632, 0x1EEA7_01EEA7_1_00062D,
  0x1EEA8_01EEA8_1_000637, 0x1EEA9_01EEA9_1_00064A, 0x1EEAB_01EEAD_1_000644,
  0x1EEAE_01EEAE_1_000633, 0x1EEAF_01EEAF_1_000639, 0x1EEB0_01EEB0_1_000641,
  0x1EEB1_01EEB1_1_000635, 0x1EEB2_01EEB2_1_000642, 0x1EEB3_01EEB3_1_000631,
  0x1EEB4_01EEB4_1_000634, 0x1EEB5_01EEB6_1_00062A, 0x1EEB7_01EEB7_1_00062E,
  0x1EEB8_01EEB8_1_000630, 0x1EEB9_01EEB9_1_000636, 0x1EEBA_01EEBA_1_000638,
  0x1EEBB_01EEBB_1_00063A, 0x1F12B_01F12B_1_000063, 0x1F12C_01F12C_1_000072,
  0x1F130_01F149_1_000061, 0x1F202_01F202_1_0030B5, 0x1F210_01F210_1_00624B,
  0x1F211_01F211_1_005B57, 0x1F212_01F212_1_0053CC, 0x1F213_01F213_1_0030C7,
  0x1F214_01F214_1_004E8C, 0x1F215_01F215_1_00591A, 0x1F216_01F216_1_0089E3,
  0x1F217_01F217_1_005929, 0x1F218_01F218_1_004EA4, 0x1F219_01F219_1_006620,
  0x1F21A_01F21A_1_007121, 0x1F21B_01F21B_1_006599, 0x1F21C_01F21C_1_00524D,
  0x1F21D_01F21D_1_005F8C, 0x1F21E_01F21E_1_00518D, 0x1F21F_01F21F_1_0065B0,
  0x1F220_01F220_1_00521D, 0x1F221_01F221_1_007D42, 0x1F222_01F222_1_00751F,
  0x1F223_01F223_1_008CA9, 0x1F224_01F224_1_0058F0, 0x1F225_01F225_1_005439,
  0x1F226_01F226_1_006F14, 0x1F227_01F227_1_006295, 0x1F228_01F228_1_006355,
  0x1F229_01F229_1_004E00, 0x1F22A_01F22A_1_004E09, 0x1F22B_01F22B_1_00904A,
  0x1F22C_01F22C_1_005DE6, 0x1F22D_01F22D_1_004E2D, 0x1F22E_01F22E_1_0053F3,
  0x1F22F_01F22F_1_006307, 0x1F230_01F230_1_008D70, 0x1F231_01F231_1_006253,
  0x1F232_01F232_1_007981, 0x1F233_01F233_1_007A7A, 0x1F234_01F234_1_005408,
  0x1F235_01F235_1_006E80, 0x1F236_01F236_1_006709, 0x1F237_01F237_1_006708,
  0x1F238_01F238_1_007533, 0x1F239_01F239_1_005272, 0x1F23A_01F23A_1_0055B6,
  0x1F23B_01F23B_1_00914D, 0x1F250_01F250_1_005F97, 0x1F251_01F251_1_0053EF,
  0x1FBF0_01FBF9_1_000030, 0x2F800_02F800_1_004E3D, 0x2F801_02F801_1_004E38,
  0x2F802_02F802_1_004E41, 0x2F803_02F803_1_020122, 0x2F804_02F804_1_004F60,
  0x2F805_02F805_1_004FAE, 0x2F806_02F806_1_004FBB, 0x2F807_02F807_1_005002,
  0x2F808_02F808_1_00507A, 0x2F809_02F809_1_005099, 0x2F80A_02F80A_1_0050E7,
  0x2F80B_02F80B_1_0050CF, 0x2F80C_02F80C_1_00349E, 0x2F80D_02F80D_1_02063A,
  0x2F80E_02F80E_1_00514D, 0x2F80F_02F80F_1_005154, 0x2F810_02F810_1_005164,
  0x2F811_02F811_1_005177, 0x2F812_02F812_1_02051C, 0x2F813_02F813_1_0034B9,
  0x2F814_02F814_1_005167, 0x2F815_02F815_1_00518D, 0x2F816_02F816_1_02054B,
  0x2F817_02F817_1_005197, 0x2F818_02F818_1_0051A4, 0x2F819_02F819_1_004ECC,
  0x2F81A_02F81A_1_0051AC, 0x2F81B_02F81B_1_0051B5, 0x2F81C_02F81C_1_0291DF,
  0x2F81D_02F81D_1_0051F5, 0x2F81E_02F81E_1_005203, 0x2F81F_02F81F_1_0034DF,
  0x2F820_02F820_1_00523B, 0x2F821_02F821_1_005246, 0x2F822_02F822_1_005272,
  0x2F823_02F823_1_005277, 0x2F824_02F824_1_003515, 0x2F825_02F825_1_0052C7,
  0x2F826_02F826_1_0052C9, 0x2F827_02F827_1_0052E4, 0x2F828_02F828_1_0052FA,
  0x2F829_02F82A_1_005305, 0x2F82B_02F82B_1_005317, 0x2F82C_02F82C_1_005349,
  0x2F82D_02F82D_1_005351, 0x2F82E_02F82E_1_00535A, 0x2F82F_02F82F_1_005373,
  0x2F830_02F830_1_00537D, 0x2F831_02F831_1_00537F, 0x2F832_02F832_1_00537F,
  0x2F833_02F833_1_00537F, 0x2F834_02F834_1_020A2C, 0x2F835_02F835_1_007070,
  0x2F836_02F836_1_0053CA, 0x2F837_02F837_1_0053DF, 0x2F838_02F838_1_020B63,
  0x2F839_02F839_1_0053EB, 0x2F83A_02F83A_1_0053F1, 0x2F83B_02F83B_1_005406,
  0x2F83C_02F83C_1_00549E, 0x2F83D_02F83D_1_005438, 0x2F83E_02F83E_1_005448,
  0x2F83F_02F83F_1_005468, 0x2F840_02F840_1_0054A2, 0x2F841_02F841_1_0054F6,
  0x2F842_02F842_1_005510, 0x2F843_02F843_1_005553, 0x2F844_02F844_1_005563,
  0x2F845_02F845_1_005584, 0x2F846_02F846_1_005584, 0x2F847_02F847_1_005599,
  0x2F848_02F848_1_0055AB, 0x2F849_02F849_1_0055B3, 0x2F84A_02F84A_1_0055C2,
  0x2F84B_02F84B_1_005716, 0x2F84C_02F84C_1_005606, 0x2F84D_02F84D_1_005717,
  0x2F84E_02F84E_1_005651, 0x2F84F_02F84F_1_005674, 0x2F850_02F850_1_005207,
  0x2F851_02F851_1_0058EE, 0x2F852_02F852_1_0057CE, 0x2F853_02F853_1_0057F4,
  0x2F854_02F854_1_00580D, 0x2F855_02F855_1_00578B, 0x2F856_02F856_1_005832,
  0x2F857_02F857_1_005831, 0x2F858_02F858_1_0058AC, 0x2F859_02F859_1_0214E4,
  0x2F85A_02F85A_1_0058F2, 0x2F85B_02F85B_1_0058F7, 0x2F85C_02F85C_1_005906,
  0x2F85D_02F85D_1_00591A, 0x2F85E_02F85E_1_005922, 0x2F85F_02F85F_1_005962,
  0x2F860_02F860_1_0216A8, 0x2F861_02F861_1_0216EA, 0x2F862_02F862_1_0059EC,
  0x2F863_02F863_1_005A1B, 0x2F864_02F864_1_005A27, 0x2F865_02F865_1_0059D8,
  0x2F866_02F866_1_005A66, 0x2F867_02F867_1_0036EE, 0x2F868_02F868_1_0036FC,
  0x2F869_02F869_1_005B08, 0x2F86A_02F86A_1_005B3E, 0x2F86B_02F86B_1_005B3E,
  0x2F86C_02F86C_1_0219C8, 0x2F86D_02F86D_1_005BC3, 0x2F86E_02F86E_1_005BD8,
  0x2F86F_02F86F_1_005BE7, 0x2F870_02F870_1_005BF3, 0x2F871_02F871_1_021B18,
  0x2F872_02F872_1_005BFF, 0x2F873_02F873_1_005C06, 0x2F874_02F874_1_005F53,
  0x2F875_02F875_1_005C22, 0x2F876_02F876_1_003781, 0x2F877_02F877_1_005C60,
  0x2F878_02F878_1_005C6E, 0x2F879_02F879_1_005CC0, 0x2F87A_02F87A_1_005C8D,
  0x2F87B_02F87B_1_021DE4, 0x2F87C_02F87C_1_005D43, 0x2F87D_02F87D_1_021DE6,
  0x2F87E_02F87E_1_005D6E, 0x2F87F_02F87F_1_005D6B, 0x2F880_02F880_1_005D7C,
  0x2F881_02F882_1_005DE1, 0x2F883_02F883_1_00382F, 0x2F884_02F884_1_005DFD,
  0x2F885_02F885_1_005E28, 0x2F886_02F886_1_005E3D, 0x2F887_02F887_1_005E69,
  0x2F888_02F888_1_003862, 0x2F889_02F889_1_022183, 0x2F88A_02F88A_1_00387C,
  0x2F88B_02F88B_1_005EB0, 0x2F88C_02F88C_1_005EB3, 0x2F88D_02F88D_1_005EB6,
  0x2F88E_02F88E_1_005ECA, 0x2F88F_02F88F_1_02A392, 0x2F890_02F890_1_005EFE,
  0x2F891_02F891_1_022331, 0x2F892_02F892_1_022331, 0x2F893_02F893_1_008201,
  0x2F894_02F894_1_005F22, 0x2F895_02F895_1_005F22, 0x2F896_02F896_1_0038C7,
  0x2F897_02F897_1_0232B8, 0x2F898_02F898_1_0261DA, 0x2F899_02F899_1_005F62,
  0x2F89A_02F89A_1_005F6B, 0x2F89B_02F89B_1_0038E3, 0x2F89C_02F89C_1_005F9A,
  0x2F89D_02F89D_1_005FCD, 0x2F89E_02F89E_1_005FD7, 0x2F89F_02F89F_1_005FF9,
  0x2F8A0_02F8A0_1_006081, 0x2F8A1_02F8A1_1_00393A, 0x2F8A2_02F8A2_1_00391C,
  0x2F8A3_02F8A3_1_006094, 0x2F8A4_02F8A4_1_0226D4, 0x2F8A5_02F8A5_1_0060C7,
  0x2F8A6_02F8A6_1_006148, 0x2F8A7_02F8A7_1_00614C, 0x2F8A8_02F8A8_1_00614E,
  0x2F8A9_02F8A9_1_00614C, 0x2F8AA_02F8AA_1_00617A, 0x2F8AB_02F8AB_1_00618E,
  0x2F8AC_02F8AC_1_0061B2, 0x2F8AD_02F8AD_1_0061A4, 0x2F8AE_02F8AE_1_0061AF,
  0x2F8AF_02F8AF_1_0061DE, 0x2F8B0_02F8B0_1_0061F2, 0x2F8B1_02F8B1_1_0061F6,
  0x2F8B2_02F8B2_1_006210, 0x2F8B3_02F8B3_1_00621B, 0x2F8B4_02F8B4_1_00625D,
  0x2F8B5_02F8B5_1_0062B1, 0x2F8B6_02F8B6_1_0062D4, 0x2F8B7_02F8B7_1_006350,
  0x2F8B8_02F8B8_1_022B0C, 0x2F8B9_02F8B9_1_00633D, 0x2F8BA_02F8BA_1_0062FC,
  0x2F8BB_02F8BB_1_006368, 0x2F8BC_02F8BC_1_006383, 0x2F8BD_02F8BD_1_0063E4,
  0x2F8BE_02F8BE_1_022BF1, 0x2F8BF_02F8BF_1_006422, 0x2F8C0_02F8C0_1_0063C5,
  0x2F8C1_02F8C1_1_0063A9, 0x2F8C2_02F8C2_1_003A2E, 0x2F8C3_02F8C3_1_006469,
  0x2F8C4_02F8C4_1_00647E, 0x2F8C5_02F8C5_1_00649D, 0x2F8C6_02F8C6_1_006477,
  0x2F8C7_02F8C7_1_003A6C, 0x2F8C8_02F8C8_1_00654F, 0x2F8C9_02F8C9_1_00656C,
  0x2F8CA_02F8CA_1_02300A, 0x2F8CB_02F8CB_1_0065E3, 0x2F8CC_02F8CC_1_0066F8,
  0x2F8CD_02F8CD_1_006649, 0x2F8CE_02F8CE_1_003B19, 0x2F8CF_02F8CF_1_006691,
  0x2F8D0_02F8D0_1_003B08, 0x2F8D1_02F8D1_1_003AE4, 0x2F8D2_02F8D2_1_005192,
  0x2F8D3_02F8D3_1_005195, 0x2F8D4_02F8D4_1_006700, 0x2F8D5_02F8D5_1_00669C,
  0x2F8D6_02F8D6_1_0080AD, 0x2F8D7_02F8D7_1_0043D9, 0x2F8D8_02F8D8_1_006717,
  0x2F8D9_02F8D9_1_00671B, 0x2F8DA_02F8DA_1_006721, 0x2F8DB_02F8DB_1_00675E,
  0x2F8DC_02F8DC_1_006753, 0x2F8DD_02F8DD_1_0233C3, 0x2F8DE_02F8DE_1_003B49,
  0x2F8DF_02F8DF_1_0067FA, 0x2F8E0_02F8E0_1_006785, 0x2F8E1_02F8E1_1_006852,
  0x2F8E2_02F8E2_1_006885, 0x2F8E3_02F8E3_1_02346D, 0x2F8E4_02F8E4_1_00688E,
  0x2F8E5_02F8E5_1_00681F, 0x2F8E6_02F8E6_1_006914, 0x2F8E7_02F8E7_1_003B9D,
  0x2F8E8_02F8E8_1_006942, 0x2F8E9_02F8E9_1_0069A3, 0x2F8EA_02F8EA_1_0069EA,
  0x2F8EB_02F8EB_1_006AA8, 0x2F8EC_02F8EC_1_0236A3, 0x2F8ED_02F8ED_1_006ADB,
  0x2F8EE_02F8EE_1_003C18, 0x2F8EF_02F8EF_1_006B21, 0x2F8F0_02F8F0_1_0238A7,
  0x2F8F1_02F8F1_1_006B54, 0x2F8F2_02F8F2_1_003C4E, 0x2F8F3_02F8F3_1_006B72,
  0x2F8F4_02F8F4_1_006B9F, 0x2F8F5_02F8F6_1_006BBA, 0x2F8F7_02F8F7_1_023A8D,
  0x2F8F8_02F8F8_1_021D0B, 0x2F8F9_02F8F9_1_023AFA, 0x2F8FA_02F8FA_1_006C4E,
  0x2F8FB_02F8FB_1_023CBC, 0x2F8FC_02F8FC_1_006CBF, 0x2F8FD_02F8FD_1_006CCD,
  0x2F8FE_02F8FE_1_006C67, 0x2F8FF_02F8FF_1_006D16, 0x2F900_02F900_1_006D3E,
  0x2F901_02F901_1_006D77, 0x2F902_02F902_1_006D41, 0x2F903_02F903_1_006D69,
  0x2F904_02F904_1_006D78, 0x2F905_02F905_1_006D85, 0x2F906_02F906_1_023D1E,
  0x2F907_02F907_1_006D34, 0x2F908_02F908_1_006E2F, 0x2F909_02F909_1_006E6E,
  0x2F90A_02F90A_1_003D33, 0x2F90B_02F90B_1_006ECB, 0x2F90C_02F90C_1_006EC7,
  0x2F90D_02F90D_1_023ED1, 0x2F90E_02F90E_1_006DF9, 0x2F90F_02F90F_1_006F6E,
  0x2F910_02F910_1_023F5E, 0x2F911_02F911_1_023F8E, 0x2F912_02F912_1_006FC6,
  0x2F913_02F913_1_007039, 0x2F914_02F914_1_00701E, 0x2F915_02F915_1_00701B,
  0x2F916_02F916_1_003D96, 0x2F917_02F917_1_00704A, 0x2F918_02F918_1_00707D,
  0x2F919_02F919_1_007077, 0x2F91A_02F91A_1_0070AD, 0x2F91B_02F91B_1_020525,
  0x2F91C_02F91C_1_007145, 0x2F91D_02F91D_1_024263, 0x2F91E_02F91E_1_00719C,
  0x2F91F_02F91F_1_0243AB, 0x2F920_02F920_1_007228, 0x2F921_02F921_1_007235,
  0x2F922_02F922_1_007250, 0x2F923_02F923_1_024608, 0x2F924_02F924_1_007280,
  0x2F925_02F925_1_007295, 0x2F926_02F926_1_024735, 0x2F927_02F927_1_024814,
  0x2F928_02F928_1_00737A, 0x2F929_02F929_1_00738B, 0x2F92A_02F92A_1_003EAC,
  0x2F92B_02F92B_1_0073A5, 0x2F92C_02F92C_1_003EB8, 0x2F92D_02F92D_1_003EB8,
  0x2F92E_02F92E_1_007447, 0x2F92F_02F92F_1_00745C, 0x2F930_02F930_1_007471,
  0x2F931_02F931_1_007485, 0x2F932_02F932_1_0074CA, 0x2F933_02F933_1_003F1B,
  0x2F934_02F934_1_007524, 0x2F935_02F935_1_024C36, 0x2F936_02F936_1_00753E,
  0x2F937_02F937_1_024C92, 0x2F938_02F938_1_007570, 0x2F939_02F939_1_02219F,
  0x2F93A_02F93A_1_007610, 0x2F93B_02F93B_1_024FA1, 0x2F93C_02F93C_1_024FB8,
  0x2F93D_02F93D_1_025044, 0x2F93E_02F93E_1_003FFC, 0x2F93F_02F93F_1_004008,
  0x2F940_02F940_1_0076F4, 0x2F941_02F941_1_0250F3, 0x2F942_02F942_1_0250F2,
  0x2F943_02F943_1_025119, 0x2F944_02F944_1_025133, 0x2F945_02F946_1_00771E,
  0x2F947_02F947_1_00771F, 0x2F948_02F948_1_00774A, 0x2F949_02F949_1_004039,
  0x2F94A_02F94A_1_00778B, 0x2F94B_02F94B_1_004046, 0x2F94C_02F94C_1_004096,
  0x2F94D_02F94D_1_02541D, 0x2F94E_02F94E_1_00784E, 0x2F94F_02F94F_1_00788C,
  0x2F950_02F950_1_0078CC, 0x2F951_02F951_1_0040E3, 0x2F952_02F952_1_025626,
  0x2F953_02F953_1_007956, 0x2F954_02F954_1_02569A, 0x2F955_02F955_1_0256C5,
  0x2F956_02F956_1_00798F, 0x2F957_02F957_1_0079EB, 0x2F958_02F958_1_00412F,
  0x2F959_02F959_1_007A40, 0x2F95A_02F95A_1_007A4A, 0x2F95B_02F95B_1_007A4F,
  0x2F95C_02F95C_1_02597C, 0x2F95D_02F95D_1_025AA7, 0x2F95E_02F95E_1_025AA7,
  0x2F95F_02F95F_1_007AEE, 0x2F960_02F960_1_004202, 0x2F961_02F961_1_025BAB,
  0x2F962_02F962_1_007BC6, 0x2F963_02F963_1_007BC9, 0x2F964_02F964_1_004227,
  0x2F965_02F965_1_025C80, 0x2F966_02F966_1_007CD2, 0x2F967_02F967_1_0042A0,
  0x2F968_02F968_1_007CE8, 0x2F969_02F969_1_007CE3, 0x2F96A_02F96A_1_007D00,
  0x2F96B_02F96B_1_025F86, 0x2F96C_02F96C_1_007D63, 0x2F96D_02F96D_1_004301,
  0x2F96E_02F96E_1_007DC7, 0x2F96F_02F96F_1_007E02, 0x2F970_02F970_1_007E45,
  0x2F971_02F971_1_004334, 0x2F972_02F972_1_026228, 0x2F973_02F973_1_026247,
  0x2F974_02F974_1_004359, 0x2F975_02F975_1_0262D9, 0x2F976_02F976_1_007F7A,
  0x2F977_02F977_1_02633E, 0x2F978_02F978_1_007F95, 0x2F979_02F979_1_007FFA,
  0x2F97A_02F97A_1_008005, 0x2F97B_02F97B_1_0264DA, 0x2F97C_02F97C_1_026523,
  0x2F97D_02F97D_1_008060, 0x2F97E_02F97E_1_0265A8, 0x2F97F_02F97F_1_008070,
  0x2F980_02F980_1_02335F, 0x2F981_02F981_1_0043D5, 0x2F982_02F982_1_0080B2,
  0x2F983_02F983_1_008103, 0x2F984_02F984_1_00440B, 0x2F985_02F985_1_00813E,
  0x2F986_02F986_1_005AB5, 0x2F987_02F987_1_0267A7, 0x2F988_02F988_1_0267B5,
  0x2F989_02F989_1_023393, 0x2F98A_02F98A_1_02339C, 0x2F98B_02F98B_1_008201,
  0x2F98C_02F98C_1_008204, 0x2F98D_02F98D_1_008F9E, 0x2F98E_02F98E_1_00446B,
  0x2F98F_02F98F_1_008291, 0x2F990_02F990_1_00828B, 0x2F991_02F991_1_00829D,
  0x2F992_02F992_1_0052B3, 0x2F993_02F993_1_0082B1, 0x2F994_02F994_1_0082B3,
  0x2F995_02F995_1_0082BD, 0x2F996_02F996_1_0082E6, 0x2F997_02F997_1_026B3C,
  0x2F998_02F998_1_0082E5, 0x2F999_02F999_1_00831D, 0x2F99A_02F99A_1_008363,
  0x2F99B_02F99B_1_0083AD, 0x2F99C_02F99C_1_008323, 0x2F99D_02F99D_1_0083BD,
  0x2F99E_02F99E_1_0083E7, 0x2F99F_02F99F_1_008457, 0x2F9A0_02F9A0_1_008353,
  0x2F9A1_02F9A1_1_0083CA, 0x2F9A2_02F9A2_1_0083CC, 0x2F9A3_02F9A3_1_0083DC,
  0x2F9A4_02F9A4_1_026C36, 0x2F9A5_02F9A5_1_026D6B, 0x2F9A6_02F9A6_1_026CD5,
  0x2F9A7_02F9A7_1_00452B, 0x2F9A8_02F9A8_1_0084F1, 0x2F9A9_02F9A9_1_0084F3,
  0x2F9AA_02F9AA_1_008516, 0x2F9AB_02F9AB_1_0273CA, 0x2F9AC_02F9AC_1_008564,
  0x2F9AD_02F9AD_1_026F2C, 0x2F9AE_02F9AE_1_00455D, 0x2F9AF_02F9AF_1_004561,
  0x2F9B0_02F9B0_1_026FB1, 0x2F9B1_02F9B1_1_0270D2, 0x2F9B2_02F9B2_1_00456B,
  0x2F9B3_02F9B3_1_008650, 0x2F9B4_02F9B4_1_00865C, 0x2F9B5_02F9B5_1_008667,
  0x2F9B6_02F9B6_1_008669, 0x2F9B7_02F9B7_1_0086A9, 0x2F9B8_02F9B8_1_008688,
  0x2F9B9_02F9B9_1_00870E, 0x2F9BA_02F9BA_1_0086E2, 0x2F9BB_02F9BB_1_008779,
  0x2F9BC_02F9BC_1_008728, 0x2F9BD_02F9BD_1_00876B, 0x2F9BE_02F9BE_1_008786,
  0x2F9BF_02F9BF_1_0045D7, 0x2F9C0_02F9C0_1_0087E1, 0x2F9C1_02F9C1_1_008801,
  0x2F9C2_02F9C2_1_0045F9, 0x2F9C3_02F9C3_1_008860, 0x2F9C4_02F9C4_1_008863,
  0x2F9C5_02F9C5_1_027667, 0x2F9C6_02F9C6_1_0088D7, 0x2F9C7_02F9C7_1_0088DE,
  0x2F9C8_02F9C8_1_004635, 0x2F9C9_02F9C9_1_0088FA, 0x2F9CA_02F9CA_1_0034BB,
  0x2F9CB_02F9CB_1_0278AE, 0x2F9CC_02F9CC_1_027966, 0x2F9CD_02F9CD_1_0046BE,
  0x2F9CE_02F9CE_1_0046C7, 0x2F9CF_02F9CF_1_008AA0, 0x2F9D0_02F9D0_1_008AED,
  0x2F9D1_02F9D1_1_008B8A, 0x2F9D2_02F9D2_1_008C55, 0x2F9D3_02F9D3_1_027CA8,
  0x2F9D4_02F9D4_1_008CAB, 0x2F9D5_02F9D5_1_008CC1, 0x2F9D6_02F9D6_1_008D1B,
  0x2F9D7_02F9D7_1_008D77, 0x2F9D8_02F9D8_1_027F2F, 0x2F9D9_02F9D9_1_020804,
  0x2F9DA_02F9DA_1_008DCB, 0x2F9DB_02F9DB_1_008DBC, 0x2F9DC_02F9DC_1_008DF0,
  0x2F9DD_02F9DD_1_0208DE, 0x2F9DE_02F9DE_1_008ED4, 0x2F9DF_02F9DF_1_008F38,
  0x2F9E0_02F9E0_1_0285D2, 0x2F9E1_02F9E1_1_0285ED, 0x2F9E2_02F9E2_1_009094,
  0x2F9E3_02F9E3_1_0090F1, 0x2F9E4_02F9E4_1_009111, 0x2F9E5_02F9E5_1_02872E,
  0x2F9E6_02F9E6_1_00911B, 0x2F9E7_02F9E7_1_009238, 0x2F9E8_02F9E9_1_0092D7,
  0x2F9EA_02F9EA_1_00927C, 0x2F9EB_02F9EB_1_0093F9, 0x2F9EC_02F9EC_1_009415,
  0x2F9ED_02F9ED_1_028BFA, 0x2F9EE_02F9EE_1_00958B, 0x2F9EF_02F9EF_1_004995,
  0x2F9F0_02F9F0_1_0095B7, 0x2F9F1_02F9F1_1_028D77, 0x2F9F2_02F9F2_1_0049E6,
  0x2F9F3_02F9F3_1_0096C3, 0x2F9F4_02F9F4_1_005DB2, 0x2F9F5_02F9F5_1_009723,
  0x2F9F6_02F9F6_1_029145, 0x2F9F7_02F9F7_1_02921A, 0x2F9F8_02F9F8_1_004A6E,
  0x2F9F9_02F9F9_1_004A76, 0x2F9FA_02F9FA_1_0097E0, 0x2F9FB_02F9FB_1_02940A,
  0x2F9FC_02F9FC_1_004AB2, 0x2F9FD_02F9FD_1_029496, 0x2F9FE_02F9FE_1_00980B,
  0x2F9FF_02F9FF_1_00980B, 0x2FA00_02FA00_1_009829, 0x2FA01_02FA01_1_0295B6,
  0x2FA02_02FA02_1_0098E2, 0x2FA03_02FA03_1_004B33, 0x2FA04_02FA04_1_009929,
  0x2FA05_02FA05_1_0099A7, 0x2FA06_02FA06_1_0099C2, 0x2FA07_02FA07_1_0099FE,
  0x2FA08_02FA08_1_004BCE, 0x2FA09_02FA09_1_029B30, 0x2FA0A_02FA0A_1_009B12,
  0x2FA0B_02FA0B_1_009C40, 0x2FA0C_02FA0C_1_009CFD, 0x2FA0D_02FA0D_1_004CCE,
  0x2FA0E_02FA0E_1_004CED, 0x2FA0F_02FA0F_1_009D67, 0x2FA10_02FA10_1_02A0CE,
  0x2FA11_02FA11_1_004CF8, 0x2FA12_02FA12_1_02A105, 0x2FA13_02FA13_1_02A20E,
  0x2FA14_02FA14_1_02A291, 0x2FA15_02FA15_1_009EBB, 0x2FA16_02FA16_1_004D56,
  0x2FA17_02FA17_1_009EF9, 0x2FA18_02FA18_1_009EFE, 0x2FA19_02FA19_1_009F05,
  0x2FA1A_02FA1A_1_009F0F, 0x2FA1B_02FA1B_1_009F16, 0x2FA1C_02FA1C_1_009F3B,
  0x2FA1D_02FA1D_1_02A600]

set_option maxRecDepth 15276 in
/-- Characters that several replace: each, then those in its place. -/
def expanded : List (List Nat) := groupsOfCodes [
  0x00A8_000020_000308, 0x00AF_000020_000304, 0x00B4_000020_000301, 0x00B8_000020_000327,
  0x00BC_000031_002044_000034, 0x00BD_000031_002044_000032, 0x00BE_000033_002044_000034,
  0x0130_000069_000307, 0x0132_000069_00006A, 0x0133_000069_00006A, 0x013F_00006C_0000B7,
  0x0140_00006C_0000B7, 0x0149_0002BC_00006E, 0x01C4_000064_00017E, 0x01C5_000064_00017E,
  0x01C6_000064_00017E, 0x01C7_00006C_00006A, 0x01C8_00006C_00006A, 0x01C9_00006C_00006A,
  0x01CA_00006E_00006A, 0x01CB_00006E_00006A, 0x01CC_00006E_00006A, 0x01F1_000064_00007A,
  0x01F2_000064_00007A, 0x01F3_000064_00007A, 0x02D8_000020_000306, 0x02D9_000020_000307,
  0x02DA_000020_00030A, 0x02DB_000020_000328, 0x02DC_000020_000303, 0x02DD_000020_00030B,
  0x0344_000308_000301, 0x037A_000020_0003B9, 0x0384_000020_000301, 0x0385_000020_000308_000301,
  0x0587_000565_000582, 0x0675_000627_000674, 0x0676_000648_000674, 0x0677_0006C7_000674,
  0x0678_00064A_000674, 0x0958_000915_00093C, 0x0959_000916_00093C, 0x095A_000917_00093C,
  0x095B_00091C_00093C, 0x095C_000921_00093C, 0x095D_000922_00093C, 0x095E_00092B_00093C,
  0x095F_00092F_00093C, 0x09DC_0009A1_0009BC, 0x09DD_0009A2_0009BC, 0x09DF_0009AF_0009BC,
  0x0A33_000A32_000A3C, 0x0A36_000A38_000A3C, 0x0A59_000A16_000A3C, 0x0A5A_000A17_000A3C,
  0x0A5B_000A1C_000A3C, 0x0A5E_000A2B_000A3C, 0x0B5C_000B21_000B3C, 0x0B5D_000B22_000B3C,
  0x0E33_000E4D_000E32, 0x0EB3_000ECD_000EB2, 0x0EDC_000EAB_000E99, 0x0EDD_000EAB_000EA1,
  0x0F43_000F42_000FB7, 0x0F4D_000F4C_000FB7, 0x0F52_000F51_000FB7, 0x0F57_000F56_000FB7,
  0x0F5C_000F5B_000FB7, 0x0F69_000F40_000FB5, 0x0F73_000F71_000F72, 0x0F75_000F71_000F74,
  0x0F76_000FB2_000F80, 0x0F77_000FB2_000F71_000F80, 0x0F78_000FB3_000F80,
  0x0F79_000FB3_000F71_000F80, 0x0F81_000F71_000F80, 0x0F93_000F92_000FB7, 0x0F9D_000F9C_000FB7,
  0x0FA2_000FA1_000FB7, 0x0FA7_000FA6_000FB7, 0x0FAC_000FAB_000FB7, 0x0FB9_000F90_000FB5,
  0x1E9A_000061_0002BE, 0x1F80_001F00_0003B9, 0x1F81_001F01_0003B9, 0x1F82_001F02_0003B9,
  0x1F83_001F03_0003B9, 0x1F84_001F04_0003B9, 0x1F85_001F05_0003B9, 0x1F86_001F06_0003B9,
  0x1F87_001F07_0003B9, 0x1F88_001F00_0003B9, 0x1F89_001F01_0003B9, 0x1F8A_001F02_0003B9,
  0x1F8B_001F03_0003B9, 0x1F8C_001F04_0003B9, 0x1F8D_001F05_0003B9, 0x1F8E_001F06_0003B9,
  0x1F8F_001F07_0003B9, 0x1F90_001F20_0003B9, 0x1F91_001F21_0003B9, 0x1F92_001F22_0003B9,
  0x1F93_001F23_0003B9, 0x1F94_001F24_0003B9, 0x1F95_001F25_0003B9, 0x1F96_001F26_0003B9,
  0x1F97_001F27_0003B9, 0x1F98_001F20_0003B9, 0x1F99_001F21_0003B9, 0x1F9A_001F22_0003B9,
  0x1F9B_001F23_0003B9, 0x1F9C_001F24_0003B9, 0x1F9D_001F25_0003B9, 0x1F9E_001F26_0003B9,
  0x1F9F_001F27_0003B9, 0x1FA0_001F60_0003B9, 0x1FA1_001F61_0003B9, 0x1FA2_001F62_0003B9,
  0x1FA3_001F63_0003B9, 0x1FA4_001F64_0003B9, 0x1FA5_001F65_0003B9, 0x1FA6_001F66_0003B9,
  0x1FA7_001F67_0003B9, 0x1FA8_001F60_0003B9, 0x1FA9_001F61_0003B9, 0x1FAA_001F62_0003B9,
  0x1FAB_001F63_0003B9, 0x1FAC_001F64_0003B9, 0x1FAD_001F65_0003B9, 0x1FAE_001F66_0003B9,
  0x1FAF_001F67_0003B9, 0x1FB2_001F70_0003B9, 0x1FB3_0003B1_0003B9, 0x1FB4_0003AC_0003B9,
  0x1FB7_001FB6_0003B9, 0x1FBC_0003B1_0003B9, 0x1FBD_000020_000313, 0x1FBF_000020_000313,
  0x1FC0_000020_000342, 0x1FC1_000020_000308_000342, 0x1FC2_001F74_0003B9, 0x1FC3_0003B7_0003B9,
  0x1FC4_0003AE_0003B9, 0x1FC7_001FC6_0003B9, 0x1FCC_0003B7_0003B9, 0x1FCD_000020_000313_000300,
  0x1FCE_000020_000313_000301, 0x1FCF_000020_000313_000342, 0x1FDD_000020_000314_000300,
  0x1FDE_000020_000314_000301, 0x1FDF_000020_000314_000342, 0x1FED_000020_000308_000300,
  0x1FEE_000020_000308_000301, 0x1FF2_001F7C_0003B9, 0x1FF3_0003C9_0003B9, 0x1FF4_0003CE_0003B9,
  0x1FF7_001FF6_0003B9, 0x1FFC_0003C9_0003B9, 0x1FFD_000020_000301, 0x1FFE_000020_000314,
  0x2017_000020_000333, 0x2033_002032_002032, 0x2034_002032_002032_002032, 0x2036_002035_002035,
  0x2037_002035_002035_002035, 0x203C_000021_000021, 0x203E_000020_000305, 0x2047_00003F_00003F,
  0x2048_00003F_000021, 0x2049_000021_00003F, 0x2057_002032_002032_002032_002032,
  0x20A8_000072_000073, 0x2100_000061_00002F_000063, 0x2101_000061_00002F_000073,
  0x2103_0000B0_000063, 0x2105_000063_00002F_00006F, 0x2106_000063_00002F_000075,
  0x2109_0000B0_000066, 0x2116_00006E_00006F, 0x2120_000073_00006D, 0x2121_000074_000065_00006C,
  0x2122_000074_00006D, 0x213B_000066_000061_000078, 0x2150_000031_002044_000037,
  0x2151_000031_002044_000039, 0x2152_000031_002044_000031_000030, 0x2153_000031_002044_000033,
  0x2154_000032_002044_000033, 0x2155_000031_002044_000035, 0x2156_000032_002044_000035,
  0x2157_000033_002044_000035, 0x2158_000034_002044_000035, 0x2159_000031_002044_000036,
  0x215A_000035_002044_000036, 0x215B_000031_002044_000038, 0x215C_000033_002044_000038,
  0x215D_000035_002044_000038, 0x215E_000037_002044_000038, 0x215F_000031_002044,
  0x2161_000069_000069, 0x2162_000069_000069_000069, 0x2163_000069_000076, 0x2165_000076_000069,
  0x2166_000076_000069_000069, 0x2167_000076_000069_000069_000069, 0x2168_000069_000078,
  0x216A_000078_000069, 0x216B_000078_000069_000069, 0x2171_000069_000069,
  0x2172_000069_000069_000069, 0x2173_000069_000076, 0x2175_000076_000069,
  0x2176_000076_000069_000069, 0x2177_000076_000069_000069_000069, 0x2178_000069_000078,
  0x217A_000078_000069, 0x217B_000078_000069_000069, 0x2189_000030_002044_000033,
  0x222C_00222B_00222B, 0x222D_00222B_00222B_00222B, 0x222F_00222E_00222E,
  0x2230_00222E_00222E_00222E, 0x2469_000031_000030, 0x246A_000031_000031, 0x246B_000031_000032,
  0x246C_000031_000033, 0x246D_000031_000034, 0x246E_000031_000035, 0x246F_000031_000036,
  0x2470_000031_000037, 0x2471_000031_000038, 0x2472_000031_000039, 0x2473_000032_000030,
  0x2474_000028_000031_000029, 0x2475_000028_000032_000029, 0x2476_000028_000033_000029,
  0x2477_000028_000034_000029, 0x2478_000028_000035_000029, 0x2479_000028_000036_000029,
  0x247A_000028_000037_000029, 0x247B_000028_000038_000029, 0x247C_000028_000039_000029,
  0x247D_000028_000031_000030_000029, 0x247E_000028_000031_000031_000029,
  0x247F_000028_000031_000032_000029, 0x2480_000028_000031_000033_000029,
  0x2481_000028_000031_000034_000029, 0x2482_000028_000031_000035_000029,
  0x2483_000028_000031_000036_000029, 0x2484_000028_000031_000037_000029,
  0x2485_000028_000031_000038_000029, 0x2486_000028_000031_000039_000029,
  0x2487_000028_000032_000030_000029, 0x249C_000028_000061_000029, 0x249D_000028_000062_000029,
  0x249E_000028_000063_000029, 0x249F_000028_000064_000029, 0x24A0_000028_000065_000029,
  0x24A1_000028_000066_000029, 0x24A2_000028_000067_000029, 0x24A3_000028_000068_000029,
  0x24A4_000028_000069_000029, 0x24A5_000028_00006A_000029, 0x24A6_000028_00006B_000029,
  0x24A7_000028_00006C_000029, 0x24A8_000028_00006D_000029, 0x24A9_000028_00006E_000029,
  0x24AA_000028_00006F_000029, 0x24AB_000028_000070_000029, 0x24AC_000028_000071_000029,
  0x24AD_000028_000072_000029, 0x24AE_000028_000073_000029, 0x24AF_000028_000074_000029,
  0x24B0_000028_000075_000029, 0x24B1_000028_000076_000029, 0x24B2_000028_000077_000029,
  0x24B3_000028_000078_000029, 0x24B4_000028_000079_000029, 0x24B5_000028_00007A_000029,
  0x2A0C_00222B_00222B_00222B_00222B, 0x2A74_00003A_00003A_00003D, 0x2A75_00003D_00003D,
  0x2A76_00003D_00003D_00003D, 0x2ADC_002ADD_000338, 0x309B_000020_003099, 0x309C_000020_00309A,
  0x309F_003088_00308A, 0x30FF_0030B3_0030C8, 0x3200_000028_001100_000029,
  0x3201_000028_001102_000029, 0x3202_000028_001103_000029, 0x3203_000028_001105_000029,
  0x3204_000028_001106_000029, 0x3205_000028_001107_000029, 0x3206_000028_001109_000029,
  0x3207_000028_00110B_000029, 0x3208_000028_00110C_000029, 0x3209_000028_00110E_000029,
  0x320A_000028_00110F_000029, 0x320B_000028_001110_000029, 0x320C_000028_001111_000029,
  0x320D_000028_001112_000029, 0x320E_000028_00AC00_000029, 0x320F_000028_00B098_000029,
  0x3210_000028_00B2E4_000029, 0x3211_000028_00B77C_000029, 0x3212_000028_00B9C8_000029,
  0x3213_000028_00BC14_000029, 0x3214_000028_00C0AC_000029, 0x3215_000028_00C544_000029,
  0x3216_000028_00C790_000029, 0x3217_000028_00CC28_000029, 0x3218_000028_00CE74_000029,
  0x3219_000028_00D0C0_000029, 0x321A_000028_00D30C_000029, 0x321B_000028_00D558_000029,
  0x321C_000028_00C8FC_000029, 0x321D_000028_00C624_00C804_000029,
  0x321E_000028_00C624_00D6C4_000029, 0x3220_000028_004E00_000029, 0x3221_000028_004E8C_000029,
  0x3222_000028_004E09_000029, 0x3223_000028_0056DB_000029, 0x3224_000028_004E94_000029,
  0x3225_000028_00516D_000029, 0x3226_000028_004E03_000029, 0x3227_000028_00516B_000029,
  0x3228_000028_004E5D_000029, 0x3229_000028_005341_000029, 0x322A_000028_006708_000029,
  0x322B_000028_00706B_000029, 0x322C_000028_006C34_000029, 0x322D_000028_006728_000029,
  0x322E_000028_0091D1_000029, 0x322F_000028_00571F_000029, 0x3230_000028_0065E5_000029,
  0x3231_000028_00682A_000029, 0x3232_000028_006709_000029, 0x3233_000028_00793E_000029,
  0x3234_000028_00540D_000029, 0x3235_000028_007279_000029, 0x3236_000028_008CA1_000029,
  0x3237_000028_00795D_000029, 0x3238_000028_0052B4_000029, 0x3239_000028_004EE3_000029,
  0x323A_000028_00547C_000029, 0x323B_000028_005B66_000029, 0x323C_000028_0076E3_000029,
  0x323D_000028_004F01_000029, 0x323E_000028_008CC7_000029, 0x323F_000028_005354_000029,
  0x3240_000028_00796D_000029, 0x3241_000028_004F11_000029, 0x3242_000028_0081EA_000029,
  0x3243_000028_0081F3_000029, 0x3250_000070_000074_000065, 0x3251_000032_000031,
  0x3252_000032_000032, 0x3253_000032_000033, 0x3254_000032_000034, 0x3255_000032_000035,
  0x3256_000032_000036, 0x3257_000032_000037, 0x3258_000032_000038, 0x3259_000032_000039,
  0x325A_000033_000030, 0x325B_000033_000031, 0x325C_000033_000032, 0x325D_000033_000033,
  0x325E_000033_000034, 0x325F_000033_000035, 0x327C_00CC38_00ACE0, 0x327D_00C8FC_00C758,
  0x32B1_000033_000036, 0x32B2_000033_000037, 0x32B3_000033_000038, 0x32B4_000033_000039,
  0x32B5_000034_000030, 0x32B6_000034_000031, 0x32B7_000034_000032, 0x32B8_000034_000033,
  0x32B9_000034_000034, 0x32BA_000034_000035, 0x32BB_000034_000036, 0x32BC_000034_000037,
  0x32BD_000034_000038, 0x32BE_000034_000039, 0x32BF_000035_000030, 0x32C0_000031_006708,
  0x32C1_000032_006708, 0x32C2_000033_006708, 0x32C3_000034_006708, 0x32C4_000035_006708,
  0x32C5_000036_006708, 0x32C6_000037_006708, 0x32C7_000038_006708, 0x32C8_000039_006708,
  0x32C9_000031_000030_006708, 0x32CA_000031_000031_006708, 0x32CB_000031_000032_006708,
  0x32CC_000068_000067, 0x32CD_000065_000072_000067, 0x32CE_000065_000076,
  0x32CF_00006C_000074_000064, 0x32FF_004EE4_00548C, 0x3300_0030A2_0030D1_0030FC_0030C8,
  0x3301_0030A2_0030EB_0030D5_0030A1, 0x3302_0030A2_0030F3_0030DA_0030A2,
  0x3303_0030A2_0030FC_0030EB, 0x3304_0030A4_0030CB_0030F3_0030B0, 0x3305_0030A4_0030F3_0030C1,
  0x3306_0030A6_0030A9_0030F3, 0x3307_0030A8_0030B9_0030AF_0030FC_0030C9,
  0x3308_0030A8_0030FC_0030AB_0030FC, 0x3309_0030AA_0030F3_0030B9, 0x330A_0030AA_0030FC_0030E0,
  0x330B_0030AB_0030A4_0030EA, 0x330C_0030AB_0030E9_0030C3_0030C8,
  0x330D_0030AB_0030ED_0030EA_0030FC, 0x330E_0030AC_0030ED_0030F3, 0x330F_0030AC_0030F3_0030DE,
  0x3310_0030AE_0030AC, 0x3311_0030AE_0030CB_0030FC, 0x3312_0030AD_0030E5_0030EA_0030FC,
  0x3313_0030AE_0030EB_0030C0_0030FC, 0x3314_0030AD_0030ED,
  0x3315_0030AD_0030ED_0030B0_0030E9_0030E0, 0x3316_0030AD_0030ED_0030E1_0030FC_0030C8_0030EB,
  0x3317_0030AD_0030ED_0030EF_0030C3_0030C8, 0x3318_0030B0_0030E9_0030E0,
  0x3319_0030B0_0030E9_0030E0_0030C8_0030F3, 0x331A_0030AF_0030EB_0030BC_0030A4_0030ED,
  0x331B_0030AF_0030ED_0030FC_0030CD, 0x331C_0030B1_0030FC_0030B9, 0x331D_0030B3_0030EB_0030CA,
  0x331E_0030B3_0030FC_0030DD, 0x331F_0030B5_0030A4_0030AF_0030EB,
  0x3320_0030B5_0030F3_0030C1_0030FC_0030E0, 0x3321_0030B7_0030EA_0030F3_0030B0,
  0x3322_0030BB_0030F3_0030C1, 0x3323_0030BB_0030F3_0030C8, 0x3324_0030C0_0030FC_0030B9,
  0x3325_0030C7_0030B7, 0x3326_0030C9_0030EB, 0x3327_0030C8_0030F3, 0x3328_0030CA_0030CE,
  0x3329_0030CE_0030C3_0030C8, 0x332A_0030CF_0030A4_0030C4,
  0x332B_0030D1_0030FC_0030BB_0030F3_0030C8, 0x332C_0030D1_0030FC_0030C4,
  0x332D_0030D0_0030FC_0030EC_0030EB, 0x332E_0030D4_0030A2_0030B9_0030C8_0030EB,
  0x332F_0030D4_0030AF_0030EB, 0x3330_0030D4_0030B3, 0x3331_0030D3_0030EB,
  0x3332_0030D5_0030A1_0030E9_0030C3_0030C9, 0x3333_0030D5_0030A3_0030FC_0030C8,
  0x3334_0030D6_0030C3_0030B7_0030A7_0030EB, 0x3335_0030D5_0030E9_0030F3,
  0x3336_0030D8_0030AF_0030BF_0030FC_0030EB, 0x3337_0030DA_0030BD, 0x3338_0030DA_0030CB_0030D2,
  0x3339_0030D8_0030EB_0030C4, 0x333A_0030DA_0030F3_0030B9, 0x333B_0030DA_0030FC_0030B8,
  0x333C_0030D9_0030FC_0030BF, 0x333D_0030DD_0030A4_0030F3_0030C8, 0x333E_0030DC_0030EB_0030C8,
  0x333F_0030DB_0030F3, 0x3340_0030DD_0030F3_0030C9, 0x3341_0030DB_0030FC_0030EB,
  0x3342_0030DB_0030FC_0030F3, 0x3343_0030DE_0030A4_0030AF_0030ED, 0x3344_0030DE_0030A4_0030EB,
  0x3345_0030DE_0030C3_0030CF, 0x3346_0030DE_0030EB_0030AF,
  0x3347_0030DE_0030F3_0030B7_0030E7_0030F3, 0x3348_0030DF_0030AF_0030ED_0030F3,
  0x3349_0030DF_0030EA, 0x334A_0030DF_0030EA_0030D0_0030FC_0030EB, 0x334B_0030E1_0030AC,
  0x334C_0030E1_0030AC_0030C8_0030F3, 0x334D_0030E1_0030FC_0030C8_0030EB,
  0x334E_0030E4_0030FC_0030C9, 0x334F_0030E4_0030FC_0030EB, 0x3350_0030E6_0030A2_0030F3,
  0x3351_0030EA_0030C3_0030C8_0030EB, 0x3352_0030EA_0030E9, 0x3353_0030EB_0030D4_0030FC,
  0x3354_0030EB_0030FC_0030D6_0030EB, 0x3355_0030EC_0030E0,
  0x3356_0030EC_0030F3_0030C8_0030B2_0030F3, 0x3357_0030EF_0030C3_0030C8, 0x3358_000030_0070B9,
  0x3359_000031_0070B9, 0x335A_000032_0070B9, 0x335B_000033_0070B9, 0x335C_000034_0070B9,
  0x335D_000035_0070B9, 0x335E_000036_0070B9, 0x335F_000037_0070B9, 0x3360_000038_0070B9,
  0x3361_000039_0070B9, 0x3362_000031_000030_0070B9, 0x3363_000031_000031_0070B9,
  0x3364_000031_000032_0070B9, 0x3365_000031_000033_0070B9, 0x3366_000031_000034_0070B9,
  0x3367_000031_000035_0070B9, 0x3368_000031_000036_0070B9, 0x3369_000031_000037_0070B9,
  0x336A_000031_000038_0070B9, 0x336B_000031_000039_0070B9, 0x336C_000032_000030_0070B9,
  0x336D_000032_000031_0070B9, 0x336E_000032_000032_0070B9, 0x336F_000032_000033_0070B9,
  0x3370_000032_000034_0070B9, 0x3371_000068_000070_000061, 0x3372_000064_000061,
  0x3373_000061_000075, 0x3374_000062_000061_000072, 0x3375_00006F_000076, 0x3376_000070_000063,
  0x3377_000064_00006D, 0x3378_000064_00006D_000032, 0x3379_000064_00006D_000033,
  0x337A_000069_000075, 0x337B_005E73_006210, 0x337C_00662D_00548C, 0x337D_005927_006B63,
  0x337E_00660E_006CBB, 0x337F_00682A_005F0F_004F1A_00793E, 0x3380_000070_000061,
  0x3381_00006E_000061, 0x3382_0003BC_000061, 0x3383_00006D_000061, 0x3384_00006B_000061,
  0x3385_00006B_000062, 0x3386_00006D_000062, 0x3387_000067_000062, 0x3388_000063_000061_00006C,
  0x3389_00006B_000063_000061_00006C, 0x338A_000070_000066, 0x338B_00006E_000066,
  0x338C_0003BC_000066, 0x338D_0003BC_000067, 0x338E_00006D_000067, 0x338F_00006B_000067,
  0x3390_000068_00007A, 0x3391_00006B_000068_00007A, 0x3392_00006D_000068_00007A,
  0x3393_000067_000068_00007A, 0x3394_000074_000068_00007A, 0x3395_0003BC_00006C,
  0x3396_00006D_00006C, 0x3397_000064_00006C, 0x3398_00006B_00006C, 0x3399_000066_00006D,
  0x339A_00006E_00006D, 0x339B_0003BC_00006D, 0x339C_00006D_00006D, 0x339D_000063_00006D,
  0x339E_00006B_00006D, 0x339F_00006D_00006D_000032, 0x33A0_000063_00006D_000032,
  0x33A1_00006D_000032, 0x33A2_00006B_00006D_000032, 0x33A3_00006D_00006D_000033,
  0x33A4_000063_00006D_000033, 0x33A5_00006D_000033, 0x33A6_00006B_00006D_000033,
  0x33A7_00006D_002215_000073, 0x33A8_00006D_002215_000073_000032, 0x33A9_000070_000061,
  0x33AA_00006B_000070_000061, 0x33AB_00006D_000070_000061, 0x33AC_000067_000070_000061,
  0x33AD_000072_000061_000064, 0x33AE_000072_000061_000064_002215_000073,
  0x33AF_000072_000061_000064_002215_000073_000032, 0x33B0_000070_000073, 0x33B1_00006E_000073,
  0x33B2_0003BC_000073, 0x33B3_00006D_000073, 0x33B4_000070_000076, 0x33B5_00006E_000076,
  0x33B6_0003BC_000076, 0x33B7_00006D_000076, 0x33B8_00006B_000076, 0x33B9_00006D_000076,
  0x33BA_000070_000077, 0x33BB_00006E_000077, 0x33BC_0003BC_000077, 0x33BD_00006D_000077,
  0x33BE_00006B_000077, 0x33BF_00006D_000077, 0x33C0_00006B_0003C9, 0x33C1_00006D_0003C9,
  0x33C3_000062_000071, 0x33C4_000063_000063, 0x33C5_000063_000064,
  0x33C6_000063_002215_00006B_000067, 0x33C8_000064_000062, 0x33C9_000067_000079,
  0x33CA_000068_000061, 0x33CB_000068_000070, 0x33CC_000069_00006E, 0x33CD_00006B_00006B,
  0x33CE_00006B_00006D, 0x33CF_00006B_000074, 0x33D0_00006C_00006D, 0x33D1_00006C_00006E,
  0x33D2_00006C_00006F_000067, 0x33D3_00006C_000078, 0x33D4_00006D_000062,
  0x33D5_00006D_000069_00006C, 0x33D6_00006D_00006F_00006C, 0x33D7_000070_000068,
  0x33D9_000070_000070_00006D, 0x33DA_000070_000072, 0x33DB_000073_000072, 0x33DC_000073_000076,
  0x33DD_000077_000062, 0x33DE_000076_002215_00006D, 0x33DF_000061_002215_00006D,
  0x33E0_000031_0065E5, 0x33E1_000032_0065E5, 0x33E2_000033_0065E5, 0x33E3_000034_0065E5,
  0x33E4_000035_0065E5, 0x33E5_000036_0065E5, 0x33E6_000037_0065E5, 0x33E7_000038_0065E5,
  0x33E8_000039_0065E5, 0x33E9_000031_000030_0065E5, 0x33EA_000031_000031_0065E5,
  0x33EB_000031_000032_0065E5, 0x33EC_000031_000033_0065E5, 0x33ED_000031_000034_0065E5,
  0x33EE_000031_000035_0065E5, 0x33EF_000031_000036_0065E5, 0x33F0_000031_000037_0065E5,
  0x33F1_000031_000038_0065E5, 0x33F2_000031_000039_0065E5, 0x33F3_000032_000030_0065E5,
  0x33F4_000032_000031_0065E5, 0x33F5_000032_000032_0065E5, 0x33F6_000032_000033_0065E5,
  0x33F7_000032_000034_0065E5, 0x33F8_000032_000035_0065E5, 0x33F9_000032_000036_0065E5,
  0x33FA_000032_000037_0065E5, 0x33FB_000032_000038_0065E5, 0x33FC_000032_000039_0065E5,
  0x33FD_000033_000030_0065E5, 0x33FE_000033_000031_0065E5, 0x33FF_000067_000061_00006C,
  0xFB00_000066_000066, 0xFB01_000066_000069, 0xFB02_000066_00006C, 0xFB03_000066_000066_000069,
  0xFB04_000066_000066_00006C, 0xFB05_000073_000074, 0xFB06_000073_000074, 0xFB13_000574_000576,
  0xFB14_000574_000565, 0xFB15_000574_00056B, 0xFB16_00057E_000576, 0xFB17_000574_00056D,
  0xFB1D_0005D9_0005B4, 0xFB1F_0005F2_0005B7, 0xFB2A_0005E9_0005C1, 0xFB2B_0005E9_0005C2,
  0xFB2C_0005E9_0005BC_0005C1, 0xFB2D_0005E9_0005BC_0005C2, 0xFB2E_0005D0_0005B7,
  0xFB2F_0005D0_0005B8, 0xFB30_0005D0_0005BC, 0xFB31_0005D1_0005BC, 0xFB32_0005D2_0005BC,
  0xFB33_0005D3_0005BC, 0xFB34_0005D4_0005BC, 0xFB35_0005D5_0005BC, 0xFB36_0005D6_0005BC,
  0xFB38_0005D8_0005BC, 0xFB39_0005D9_0005BC, 0xFB3A_0005DA_0005BC, 0xFB3B_0005DB_0005BC,
  0xFB3C_0005DC_0005BC, 0xFB3E_0005DE_0005BC, 0xFB40_0005E0_0005BC, 0xFB41_0005E1_0005BC,
  0xFB43_0005E3_0005BC, 0xFB44_0005E4_0005BC, 0xFB46_0005E6_0005BC, 0xFB47_0005E7_0005BC,
  0xFB48_0005E8_0005BC, 0xFB49_0005E9_0005BC, 0xFB4A_0005EA_0005BC, 0xFB4B_0005D5_0005B9,
  0xFB4C_0005D1_0005BF, 0xFB4D_0005DB_0005BF, 0xFB4E_0005E4_0005BF, 0xFB4F_0005D0_0005DC,
  0xFBDD_0006C7_000674, 0xFBEA_000626_000627, 0xFBEB_000626_000627, 0xFBEC_000626_0006D5,
  0xFBED_000626_0006D5, 0xFBEE_000626_000648, 0xFBEF_000626_000648, 0xFBF0_000626_0006C7,
  0xFBF1_000626_0006C7, 0xFBF2_000626_0006C6, 0xFBF3_000626_0006C6, 0xFBF4_000626_0006C8,
  0xFBF5_000626_0006C8, 0xFBF6_000626_0006D0, 0xFBF7_000626_0006D0, 0xFBF8_000626_0006D0,
  0xFBF9_000626_000649, 0xFBFA_000626_000649, 0xFBFB_000626_000649, 0xFC00_000626_00062C,
  0xFC01_000626_00062D, 0xFC02_000626_000645, 0xFC03_000626_000649, 0xFC04_000626_00064A,
  0xFC05_000628_00062C, 0xFC06_000628_00062D, 0xFC07_000628_00062E, 0xFC08_000628_000645,
  0xFC09_000628_000649, 0xFC0A_000628_00064A, 0xFC0B_00062A_00062C, 0xFC0C_00062A_00062D,
  0xFC0D_00062A_00062E, 0xFC0E_00062A_000645, 0xFC0F_00062A_000649, 0xFC10_00062A_00064A,
  0xFC11_00062B_00062C, 0xFC12_00062B_000645, 0xFC13_00062B_000649, 0xFC14_00062B_00064A,
  0xFC15_00062C_00062D, 0xFC16_00062C_000645, 0xFC17_00062D_00062C, 0xFC18_00062D_000645,
  0xFC19_00062E_00062C, 0xFC1A_00062E_00062D, 0xFC1B_00062E_000645, 0xFC1C_000633_00062C,
  0xFC1D_000633_00062D, 0xFC1E_000633_00062E, 0xFC1F_000633_000645, 0xFC20_000635_00062D,
  0xFC21_000635_000645, 0xFC22_000636_00062C, 0xFC23_000636_00062D, 0xFC24_000636_00062E,
  0xFC25_000636_000645, 0xFC26_000637_00062D, 0xFC27_000637_000645, 0xFC28_000638_000645,
  0xFC29_000639_00062C, 0xFC2A_000639_000645, 0xFC2B_00063A_00062C, 0xFC2C_00063A_000645,
  0xFC2D_000641_00062C, 0xFC2E_000641_00062D, 0xFC2F_000641_00062E, 0xFC30_000641_000645,
  0xFC31_000641_000649, 0xFC32_000641_00064A, 0xFC33_000642_00062D, 0xFC34_000642_000645,
  0xFC35_000642_000649, 0xFC36_000642_00064A, 0xFC37_000643_000627, 0xFC38_000643_00062C,
  0xFC39_000643_00062D, 0xFC3A_000643_00062E, 0xFC3B_000643_000644, 0xFC3C_000643_000645,
  0xFC3D_000643_000649, 0xFC3E_000643_00064A, 0xFC3F_000644_00062C, 0xFC40_000644_00062D,
  0xFC41_000644_00062E, 0xFC42_000644_000645, 0xFC43_000644_000649, 0xFC44_000644_00064A,
  0xFC45_000645_00062C, 0xFC46_000645_00062D, 0xFC47_000645_00062E, 0xFC48_000645_000645,
  0xFC49_000645_000649, 0xFC4A_000645_00064A, 0xFC4B_000646_00062C, 0xFC4C_000646_00062D,
  0xFC4D_000646_00062E, 0xFC4E_000646_000645, 0xFC4F_000646_000649, 0xFC50_000646_00064A,
  0xFC51_000647_00062C, 0xFC52_000647_000645, 0xFC53_000647_000649, 0xFC54_000647_00064A,
  0xFC55_00064A_00062C, 0xFC56_00064A_00062D, 0xFC57_00064A_00062E, 0xFC58_00064A_000645,
  0xFC59_00064A_000649, 0xFC5A_00064A_00064A, 0xFC5B_000630_000670, 0xFC5C_000631_000670,
  0xFC5D_000649_000670, 0xFC5E_000020_00064C_000651, 0xFC5F_000020_00064D_000651,
  0xFC60_000020_00064E_000651, 0xFC61_000020_00064F_000651, 0xFC62_000020_000650_000651,
  0xFC63_000020_000651_000670, 0xFC64_000626_000631, 0xFC65_000626_000632, 0xFC66_000626_000645,
  0xFC67_000626_000646, 0xFC68_000626_000649, 0xFC69_000626_00064A, 0xFC6A_000628_000631,
  0xFC6B_000628_000632, 0xFC6C_000628_000645, 0xFC6D_000628_000646, 0xFC6E_000628_000649,
  0xFC6F_000628_00064A, 0xFC70_00062A_000631, 0xFC71_00062A_000632, 0xFC72_00062A_000645,
  0xFC73_00062A_000646, 0xFC74_00062A_000649, 0xFC75_00062A_00064A, 0xFC76_00062B_000631,
  0xFC77_00062B_000632, 0xFC78_00062B_000645, 0xFC79_00062B_000646, 0xFC7A_00062B_000649,
  0xFC7B_00062B_00064A, 0xFC7C_000641_000649, 0xFC7D_000641_00064A, 0xFC7E_000642_000649,
  0xFC7F_000642_00064A, 0xFC80_000643_000627, 0xFC81_000643_000644, 0xFC82_000643_000645,
  0xFC83_000643_000649, 0xFC84_000643_00064A, 0xFC85_000644_000645, 0xFC86_000644_000649,
  0xFC87_000644_00064A, 0xFC88_000645_000627, 0xFC89_000645_000645, 0xFC8A_000646_000631,
  0xFC8B_000646_000632, 0xFC8C_000646_000645, 0xFC8D_000646_000646, 0xFC8E_000646_000649,
  0xFC8F_000646_00064A, 0xFC90_000649_000670, 0xFC91_00064A_000631, 0xFC92_00064A_000632,
  0xFC93_00064A_000645, 0xFC94_00064A_000646, 0xFC95_00064A_000649, 0xFC96_00064A_00064A,
  0xFC97_000626_00062C, 0xFC98_000626_00062D, 0xFC99_000626_00062E, 0xFC9A_000626_000645,
  0xFC9B_000626_000647, 0xFC9C_000628_00062C, 0xFC9D_000628_00062D, 0xFC9E_000628_00062E,
  0xFC9F_000628_000645, 0xFCA0_000628_000647, 0xFCA1_00062A_00062C, 0xFCA2_00062A_00062D,
  0xFCA3_00062A_00062E, 0xFCA4_00062A_000645, 0xFCA5_00062A_000647, 0xFCA6_00062B_000645,
  0xFCA7_00062C_00062D, 0xFCA8_00062C_000645, 0xFCA9_00062D_00062C, 0xFCAA_00062D_000645,
  0xFCAB_00062E_00062C, 0xFCAC_00062E_000645, 0xFCAD_000633_00062C, 0xFCAE_000633_00062D,
  0xFCAF_000633_00062E, 0xFCB0_000633_000645, 0xFCB1_000635_00062D, 0xFCB2_000635_00062E,
  0xFCB3_000635_000645, 0xFCB4_000636_00062C, 0xFCB5_000636_00062D, 0xFCB6_000636_00062E,
  0xFCB7_000636_000645, 0xFCB8_000637_00062D, 0xFCB9_000638_000645, 0xFCBA_000639_00062C,
  0xFCBB_000639_000645, 0xFCBC_00063A_00062C, 0xFCBD_00063A_000645, 0xFCBE_000641_00062C,
  0xFCBF_000641_00062D, 0xFCC0_000641_00062E, 0xFCC1_000641_000645, 0xFCC2_000642_00062D,
  0xFCC3_000642_000645, 0xFCC4_000643_00062C, 0xFCC5_000643_00062D, 0xFCC6_000643_00062E,
  0xFCC7_000643_000644, 0xFCC8_000643_000645, 0xFCC9_000644_00062C, 0xFCCA_000644_00062D,
  0xFCCB_000644_00062E, 0xFCCC_000644_000645, 0xFCCD_000644_000647, 0xFCCE_000645_00062C,
  0xFCCF_000645_00062D, 0xFCD0_000645_00062E, 0xFCD1_000645_000645, 0xFCD2_000646_00062C,
  0xFCD3_000646_00062D, 0xFCD4_000646_00062E, 0xFCD5_000646_000645, 0xFCD6_000646_000647,
  0xFCD7_000647_00062C, 0xFCD8_000647_000645, 0xFCD9_000647_000670, 0xFCDA_00064A_00062C,
  0xFCDB_00064A_00062D, 0xFCDC_00064A_00062E, 0xFCDD_00064A_000645, 0xFCDE_00064A_000647,
  0xFCDF_000626_000645, 0xFCE0_000626_000647, 0xFCE1_000628_000645, 0xFCE2_000628_000647,
  0xFCE3_00062A_000645, 0xFCE4_00062A_000647, 0xFCE5_00062B_000645, 0xFCE6_00062B_000647,
  0xFCE7_000633_000645, 0xFCE8_000633_000647, 0xFCE9_000634_000645, 0xFCEA_000634_000647,
  0xFCEB_000643_000644, 0xFCEC_000643_000645, 0xFCED_000644_000645, 0xFCEE_000646_000645,
  0xFCEF_000646_000647, 0xFCF0_00064A_000645, 0xFCF1_00064A_000647, 0xFCF2_000640_00064E_000651,
  0xFCF3_000640_00064F_000651, 0xFCF4_000640_000650_000651, 0xFCF5_000637_000649,
  0xFCF6_000637_00064A, 0xFCF7_000639_000649, 0xFCF8_000639_00064A, 0xFCF9_00063A_000649,
  0xFCFA_00063A_00064A, 0xFCFB_000633_000649, 0xFCFC_000633_00064A, 0xFCFD_000634_000649,
  0xFCFE_000634_00064A, 0xFCFF_00062D_000649, 0xFD00_00062D_00064A, 0xFD01_00062C_000649,
  0xFD02_00062C_00064A, 0xFD03_00062E_000649, 0xFD04_00062E_00064A, 0xFD05_000635_000649,
  0xFD06_000635_00064A, 0xFD07_000636_000649, 0xFD08_000636_00064A, 0xFD09_000634_00062C,
  0xFD0A_000634_00062D, 0xFD0B_000634_00062E, 0xFD0C_000634_000645, 0xFD0D_000634_000631,
  0xFD0E_000633_000631, 0xFD0F_000635_000631, 0xFD10_000636_000631, 0xFD11_000637_000649,
  0xFD12_000637_00064A, 0xFD13_000639_000649, 0xFD14_000639_00064A, 0xFD15_00063A_000649,
  0xFD16_00063A_00064A, 0xFD17_000633_000649, 0xFD18_000633_00064A, 0xFD19_000634_000649,
  0xFD1A_000634_00064A, 0xFD1B_00062D_000649, 0xFD1C_00062D_00064A, 0xFD1D_00062C_000649,
  0xFD1E_00062C_00064A, 0xFD1F_00062E_000649, 0xFD20_00062E_00064A, 0xFD21_000635_000649,
  0xFD22_000635_00064A, 0xFD23_000636_000649, 0xFD24_000636_00064A, 0xFD25_000634_00062C,
  0xFD26_000634_00062D, 0xFD27_000634_00062E, 0xFD28_000634_000645, 0xFD29_000634_000631,
  0xFD2A_000633_000631, 0xFD2B_000635_000631, 0xFD2C_000636_000631, 0xFD2D_000634_00062C,
  0xFD2E_000634_00062D, 0xFD2F_000634_00062E, 0xFD30_000634_000645, 0xFD31_000633_000647,
  0xFD32_000634_000647, 0xFD33_000637_000645, 0xFD34_000633_00062C, 0xFD35_000633_00062D,
  0xFD36_000633_00062E, 0xFD37_000634_00062C, 0xFD38_000634_00062D, 0xFD39_000634_00062E,
  0xFD3A_000637_000645, 0xFD3B_000638_000645, 0xFD3C_000627_00064B, 0xFD3D_000627_00064B,
  0xFD50_00062A_00062C_000645, 0xFD51_00062A_00062D_00062C, 0xFD52_00062A_00062D_00062C,
  0xFD53_00062A_00062D_000645, 0xFD54_00062A_00062E_000645, 0xFD55_00062A_000645_00062C,
  0xFD56_00062A_000645_00062D, 0xFD57_00062A_000645_00062E, 0xFD58_00062C_000645_00062D,
  0xFD59_00062C_000645_00062D, 0xFD5A_00062D_000645_00064A, 0xFD5B_00062D_000645_000649,
  0xFD5C_000633_00062D_00062C, 0xFD5D_000633_00062C_00062D, 0xFD5E_000633_00062C_000649,
  0xFD5F_000633_000645_00062D, 0xFD60_000633_000645_00062D, 0xFD61_000633_000645_00062C,
  0xFD62_000633_000645_000645, 0xFD63_000633_000645_000645, 0xFD64_000635_00062D_00062D,
  0xFD65_000635_00062D_00062D, 0xFD66_000635_000645_000645, 0xFD67_000634_00062D_000645,
  0xFD68_000634_00062D_000645, 0xFD69_000634_00062C_00064A, 0xFD6A_000634_000645_00062E,
  0xFD6B_000634_000645_00062E, 0xFD6C_000634_000645_000645, 0xFD6D_000634_000645_000645,
  0xFD6E_000636_00062D_000649, 0xFD6F_000636_00062E_000645, 0xFD70_000636_00062E_000645,
  0xFD71_000637_000645_00062D, 0xFD72_000637_000645_00062D, 0xFD73_000637_000645_000645,
  0xFD74_000637_000645_00064A, 0xFD75_000639_00062C_000645, 0xFD76_000639_000645_000645,
  0xFD77_000639_000645_000645, 0xFD78_000639_000645_000649, 0xFD79_00063A_000645_000645,
  0xFD7A_00063A_000645_00064A, 0xFD7B_00063A_000645_000649, 0xFD7C_000641_00062E_000645,
  0xFD7D_000641_00062E_000645, 0xFD7E_000642_000645_00062D, 0xFD7F_000642_000645_000645,
  0xFD80_000644_00062D_000645, 0xFD81_000644_00062D_00064A, 0xFD82_000644_00062D_000649,
  0xFD83_000644_00062C_00062C, 0xFD84_000644_00062C_00062C, 0xFD85_000644_00062E_000645,
  0xFD86_000644_00062E_000645, 0xFD87_000644_000645_00062D, 0xFD88_000644_000645_00062D,
  0xFD89_000645_00062D_00062C, 0xFD8A_000645_00062D_000645, 0xFD8B_000645_00062D_00064A,
  0xFD8C_000645_00062C_00062D, 0xFD8D_000645_00062C_000645, 0xFD8E_000645_00062E_00062C,
  0xFD8F_000645_00062E_000645, 0xFD92_000645_00062C_00062E, 0xFD93_000647_000645_00062C,
  0xFD94_000647_000645_000645, 0xFD95_000646_00062D_000645, 0xFD96_000646_00062D_000649,
  0xFD97_000646_00062C_000645, 0xFD98_000646_00062C_000645, 0xFD99_000646_00062C_000649,
  0xFD9A_000646_000645_00064A, 0xFD9B_000646_000645_000649, 0xFD9C_00064A_000645_000645,
  0xFD9D_00064A_000645_000645, 0xFD9E_000628_00062E_00064A, 0xFD9F_00062A_00062C_00064A,
  0xFDA0_00062A_00062C_000649, 0xFDA1_00062A_00062E_00064A, 0xFDA2_00062A_00062E_000649,
  0xFDA3_00062A_000645_00064A, 0xFDA4_00062A_000645_000649, 0xFDA5_00062C_000645_00064A,
  0xFDA6_00062C_00062D_000649, 0xFDA7_00062C_000645_000649, 0xFDA8_000633_00062E_000649,
  0xFDA9_000635_00062D_00064A, 0xFDAA_000634_00062D_00064A, 0xFDAB_000636_00062D_00064A,
  0xFDAC_000644_00062C_00064A, 0xFDAD_000644_000645_00064A, 0xFDAE_00064A_00062D_00064A,
  0xFDAF_00064A_00062C_00064A, 0xFDB0_00064A_000645_00064A, 0xFDB1_000645_000645_00064A,
  0xFDB2_000642_000645_00064A, 0xFDB3_000646_00062D_00064A, 0xFDB4_000642_000645_00062D,
  0xFDB5_000644_00062D_000645, 0xFDB6_000639_000645_00064A, 0xFDB7_000643_000645_00064A,
  0xFDB8_000646_00062C_00062D, 0xFDB9_000645_00062E_00064A, 0xFDBA_000644_00062C_000645,
  0xFDBB_000643_000645_000645, 0xFDBC_000644_00062C_000645, 0xFDBD_000646_00062C_00062D,
  0xFDBE_00062C_00062D_00064A, 0xFDBF_00062D_00062C_00064A, 0xFDC0_000645_00062C_00064A,
  0xFDC1_000641_000645_00064A, 0xFDC2_000628_00062D_00064A, 0xFDC3_000643_000645_000645,
  0xFDC4_000639_00062C_000645, 0xFDC5_000635_000645_000645, 0xFDC6_000633_00062E_00064A,
  0xFDC7_000646_00062C_00064A, 0xFDF0_000635_000644_0006D2, 0xFDF1_000642_000644_0006D2,
  0xFDF2_000627_000644_000644_000647, 0xFDF3_000627_000643_000628_000631,
  0xFDF4_000645_00062D_000645_00062F, 0xFDF5_000635_000644_000639_000645,
  0xFDF6_000631_000633_000648_000644, 0xFDF7_000639_000644_00064A_000647,
  0xFDF8_000648_000633_000644_000645, 0xFDF9_000635_000644_000649,
  0xFDFA_000635_000644_000649_000020_000627_000644_000644_000647_000020_000639_000644_00064A_000647_000020_000648_000633_000644_000645,
  0xFDFB_00062C_000644_000020_00062C_000644_000627_000644_000647,
  0xFDFC_000631_0006CC_000627_000644, 0xFE49_000020_000305, 0xFE4A_000020_000305,
  0xFE4B_000020_000305, 0xFE4C_000020_000305, 0xFE70_000020_00064B, 0xFE71_000640_00064B,
  0xFE72_000020_00064C, 0xFE74_000020_00064D, 0xFE76_000020_00064E, 0xFE77_000640_00064E,
  0xFE78_000020_00064F, 0xFE79_000640_00064F, 0xFE7A_000020_000650, 0xFE7B_000640_000650,
  0xFE7C_000020_000651, 0xFE7D_000640_000651, 0xFE7E_000020_000652, 0xFE7F_000640_000652,
  0xFEF5_000644_000622, 0xFEF6_000644_000622, 0xFEF7_000644_000623, 0xFEF8_000644_000623,
  0xFEF9_000644_000625, 0xFEFA_000644_000625, 0xFEFB_000644_000627, 0xFEFC_000644_000627,
  0xFFE3_000020_000304, 0x1D15E_01D157_01D165, 0x1D15F_01D158_01D165, 0x1D160_01D158_01D165_01D16E,
  0x1D161_01D158_01D165_01D16F, 0x1D162_01D158_01D165_01D170, 0x1D163_01D158_01D165_01D171,
  0x1D164_01D158_01D165_01D172, 0x1D1BB_01D1B9_01D165, 0x1D1BC_01D1BA_01D165,
  0x1D1BD_01D1B9_01D165_01D16E, 0x1D1BE_01D1BA_01D165_01D16E, 0x1D1BF_01D1B9_01D165_01D16F,
  0x1D1C0_01D1BA_01D165_01D16F, 0x1F101_000030_00002C, 0x1F102_000031_00002C, 0x1F103_000032_00002C,
  0x1F104_000033_00002C, 0x1F105_000034_00002C, 0x1F106_000035_00002C, 0x1F107_000036_00002C,
  0x1F108_000037_00002C, 0x1F109_000038_00002C, 0x1F10A_000039_00002C, 0x1F110_000028_000061_000029,
  0x1F111_000028_000062_000029, 0x1F112_000028_000063_000029, 0x1F113_000028_000064_000029,
  0x1F114_000028_000065_000029, 0x1F115_000028_000066_000029, 0x1F116_000028_000067_000029,
  0x1F117_000028_000068_000029, 0x1F118_000028_000069_000029, 0x1F119_000028_00006A_000029,
  0x1F11A_000028_00006B_000029, 0x1F11B_000028_00006C_000029, 0x1F11C_000028_00006D_000029,
  0x1F11D_000028_00006E_000029, 0x1F11E_000028_00006F_000029, 0x1F11F_000028_000070_000029,
  0x1F120_000028_000071_000029, 0x1F121_000028_000072_000029, 0x1F122_000028_000073_000029,
  0x1F123_000028_000074_000029, 0x1F124_000028_000075_000029, 0x1F125_000028_000076_000029,
  0x1F126_000028_000077_000029, 0x1F127_000028_000078_000029, 0x1F128_000028_000079_000029,
  0x1F129_000028_00007A_000029, 0x1F12A_003014_000073_003015, 0x1F12D_000063_000064,
  0x1F12E_000077_00007A, 0x1F14A_000068_000076, 0x1F14B_00006D_000076, 0x1F14C_000073_000064,
  0x1F14D_000073_000073, 0x1F14E_000070_000070_000076, 0x1F14F_000077_000063, 0x1F16A_00006D_000063,
  0x1F16B_00006D_000064, 0x1F16C_00006D_000072, 0x1F190_000064_00006A, 0x1F200_00307B_00304B,
  0x1F201_0030B3_0030B3, 0x1F240_003014_00672C_003015, 0x1F241_003014_004E09_003015,
  0x1F242_003014_004E8C_003015, 0x1F243_003014_005B89_003015, 0x1F244_003014_0070B9_003015,
  0x1F245_003014_006253_003015, 0x1F246_003014_0076D7_003015, 0x1F247_003014_0052DD_003015,
  0x1F248_003014_006557_003015]

end AdFilter.Url.MappingTable
