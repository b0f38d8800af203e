import AdFilter.Text.Run

/-!
# The age of code points

For each version of the standard up to 16 the code points that it was the first to assign.
-/

namespace AdFilter.Text

/-- A version of the standard under its folded names, and the code points that it added. -/
structure Age where
  names : List String
  added : List Run

/-- Version 1.1. -/
def Age.v1Point1 : Age where
  names := ["1.1", "v11"]
  added := Run.ofCodes [
    0x0000_0001F5_1, 0x01FA_000217_1, 0x0250_0002A8_1, 0x02B0_0002DE_1, 0x02E0_0002E9_1,
    0x0300_000345_1, 0x0360_000361_1, 0x0374_000375_1, 0x037A_00037A_1, 0x037E_00037E_1,
    0x0384_00038A_1, 0x038C_00038C_1, 0x038E_0003A1_1, 0x03A3_0003CE_1, 0x03D0_0003D6_1,
    0x03DA_0003E0_2, 0x03E2_0003F3_1, 0x0401_00040C_1, 0x040E_00044F_1, 0x0451_00045C_1,
    0x045E_000486_1, 0x0490_0004C4_1, 0x04C7_0004C8_1, 0x04CB_0004CC_1, 0x04D0_0004EB_1,
    0x04EE_0004F5_1, 0x04F8_0004F9_1, 0x0531_000556_1, 0x0559_00055F_1, 0x0561_000587_1,
    0x0589_000589_1, 0x05B0_0005B9_1, 0x05BB_0005C3_1, 0x05D0_0005EA_1, 0x05F0_0005F4_1,
    0x060C_00060C_1, 0x061B_00061B_1, 0x061F_00061F_1, 0x0621_00063A_1, 0x0640_000652_1,
    0x0660_00066D_1, 0x0670_0006B7_1, 0x06BA_0006BE_1, 0x06C0_0006CE_1, 0x06D0_0006ED_1,
    0x06F0_0006F9_1, 0x0901_000903_1, 0x0905_000939_1, 0x093C_00094D_1, 0x0950_000954_1,
    0x0958_000970_1, 0x0981_000983_1, 0x0985_00098C_1, 0x098F_000990_1, 0x0993_0009A8_1,
    0x09AA_0009B0_1, 0x09B2_0009B2_1, 0x09B6_0009B9_1, 0x09BC_0009BC_1, 0x09BE_0009C4_1,
    0x09C7_0009C8_1, 0x09CB_0009CD_1, 0x09D7_0009D7_1, 0x09DC_0009DD_1, 0x09DF_0009E3_1,
    0x09E6_0009FA_1, 0x0A02_000A02_1, 0x0A05_000A0A_1, 0x0A0F_000A10_1, 0x0A13_000A28_1,
    0x0A2A_000A30_1, 0x0A32_000A33_1, 0x0A35_000A36_1, 0x0A38_000A39_1, 0x0A3C_000A3C_1,
    0x0A3E_000A42_1, 0x0A47_000A48_1, 0x0A4B_000A4D_1, 0x0A59_000A5C_1, 0x0A5E_000A5E_1,
    0x0A66_000A74_1, 0x0A81_000A83_1, 0x0A85_000A8B_1, 0x0A8D_000A8D_1, 0x0A8F_000A91_1,
    0x0A93_000AA8_1, 0x0AAA_000AB0_1, 0x0AB2_000AB3_1, 0x0AB5_000AB9_1, 0x0ABC_000AC5_1,
    0x0AC7_000AC9_1, 0x0ACB_000ACD_1, 0x0AD0_000AD0_1, 0x0AE0_000AE0_1, 0x0AE6_000AEF_1,
    0x0B01_000B03_1, 0x0B05_000B0C_1, 0x0B0F_000B10_1, 0x0B13_000B28_1, 0x0B2A_000B30_1,
    0x0B32_000B33_1, 0x0B36_000B39_1, 0x0B3C_000B43_1, 0x0B47_000B48_1, 0x0B4B_000B4D_1,
    0x0B56_000B57_1, 0x0B5C_000B5D_1, 0x0B5F_000B61_1, 0x0B66_000B70_1, 0x0B82_000B83_1,
    0x0B85_000B8A_1, 0x0B8E_000B90_1, 0x0B92_000B95_1, 0x0B99_000B9A_1, 0x0B9C_000B9C_1,
    0x0B9E_000B9F_1, 0x0BA3_000BA4_1, 0x0BA8_000BAA_1, 0x0BAE_000BB5_1, 0x0BB7_000BB9_1,
    0x0BBE_000BC2_1, 0x0BC6_000BC8_1, 0x0BCA_000BCD_1, 0x0BD7_000BD7_1, 0x0BE7_000BF2_1,
    0x0C01_000C03_1, 0x0C05_000C0C_1, 0x0C0E_000C10_1, 0x0C12_000C28_1, 0x0C2A_000C33_1,
    0x0C35_000C39_1, 0x0C3E_000C44_1, 0x0C46_000C48_1, 0x0C4A_000C4D_1, 0x0C55_000C56_1,
    0x0C60_000C61_1, 0x0C66_000C6F_1, 0x0C82_000C83_1, 0x0C85_000C8C_1, 0x0C8E_000C90_1,
    0x0C92_000CA8_1, 0x0CAA_000CB3_1, 0x0CB5_000CB9_1, 0x0CBE_000CC4_1, 0x0CC6_000CC8_1,
    0x0CCA_000CCD_1, 0x0CD5_000CD6_1, 0x0CDE_000CDE_1, 0x0CE0_000CE1_1, 0x0CE6_000CEF_1,
    0x0D02_000D03_1, 0x0D05_000D0C_1, 0x0D0E_000D10_1, 0x0D12_000D28_1, 0x0D2A_000D39_1,
    0x0D3E_000D43_1, 0x0D46_000D48_1, 0x0D4A_000D4D_1, 0x0D57_000D57_1, 0x0D60_000D61_1,
    0x0D66_000D6F_1, 0x0E01_000E3A_1, 0x0E3F_000E5B_1, 0x0E81_000E82_1, 0x0E84_000E84_1,
    0x0E87_000E88_1, 0x0E8A_000E8A_1, 0x0E8D_000E8D_1, 0x0E94_000E97_1, 0x0E99_000E9F_1,
    0x0EA1_000EA3_1, 0x0EA5_000EA5_1, 0x0EA7_000EA7_1, 0x0EAA_000EAB_1, 0x0EAD_000EB9_1,
    0x0EBB_000EBD_1, 0x0EC0_000EC4_1, 0x0EC6_000EC6_1, 0x0EC8_000ECD_1, 0x0ED0_000ED9_1,
    0x0EDC_000EDD_1, 0x10A0_0010C5_1, 0x10D0_0010F6_1, 0x10FB_0010FB_1, 0x1100_001159_1,
    0x115F_0011A2_1, 0x11A8_0011F9_1, 0x1E00_001E9A_1, 0x1EA0_001EF9_1, 0x1F00_001F15_1,
    0x1F18_001F1D_1, 0x1F20_001F45_1, 0x1F48_001F4D_1, 0x1F50_001F57_1, 0x1F59_001F5D_2,
    0x1F5F_001F7D_1, 0x1F80_001FB4_1, 0x1FB6_001FC4_1, 0x1FC6_001FD3_1, 0x1FD6_001FDB_1,
    0x1FDD_001FEF_1, 0x1FF2_001FF4_1, 0x1FF6_001FFE_1, 0x2000_00202E_1, 0x2030_002046_1,
    0x206A_002070_1, 0x2074_00208E_1, 0x20A0_0020AA_1, 0x20D0_0020E1_1, 0x2100_002138_1,
    0x2153_002182_1, 0x2190_0021EA_1, 0x2200_0022F1_1, 0x2300_002300_1, 0x2302_00237A_1,
    0x2400_002424_1, 0x2440_00244A_1, 0x2460_0024EA_1, 0x2500_002595_1, 0x25A0_0025EF_1,
    0x2600_002613_1, 0x261A_00266F_1, 0x2701_002704_1, 0x2706_002709_1, 0x270C_002727_1,
    0x2729_00274B_1, 0x274D_00274D_1, 0x274F_002752_1, 0x2756_002756_1, 0x2758_00275E_1,
    0x2761_002767_1, 0x2776_002794_1, 0x2798_0027AF_1, 0x27B1_0027BE_1, 0x3000_003037_1,
    0x303F_00303F_1, 0x3041_003094_1, 0x3099_00309E_1, 0x30A1_0030FE_1, 0x3105_00312C_1,
    0x3131_00318E_1, 0x3190_00319F_1, 0x3200_00321C_1, 0x3220_003243_1, 0x3260_00327B_1,
    0x327F_0032B0_1, 0x32C0_0032CB_1, 0x32D0_0032FE_1, 0x3300_003376_1, 0x337B_0033DD_1,
    0x33E0_0033FE_1, 0x4E00_009FA5_1, 0xE000_00FA2D_1, 0xFB00_00FB06_1, 0xFB13_00FB17_1,
    0xFB1E_00FB36_1, 0xFB38_00FB3C_1, 0xFB3E_00FB3E_1, 0xFB40_00FB41_1, 0xFB43_00FB44_1,
    0xFB46_00FBB1_1, 0xFBD3_00FD3F_1, 0xFD50_00FD8F_1, 0xFD92_00FDC7_1, 0xFDF0_00FDFB_1,
    0xFE20_00FE23_1, 0xFE30_00FE44_1, 0xFE49_00FE52_1, 0xFE54_00FE66_1, 0xFE68_00FE6B_1,
    0xFE70_00FE72_1, 0xFE74_00FE74_1, 0xFE76_00FEFC_1, 0xFEFF_00FEFF_1, 0xFF01_00FF5E_1,
    0xFF61_00FFBE_1, 0xFFC2_00FFC7_1, 0xFFCA_00FFCF_1, 0xFFD2_00FFD7_1, 0xFFDA_00FFDC_1,
    0xFFE0_00FFE6_1, 0xFFE8_00FFEE_1, 0xFFFD_00FFFF_1]

/-- Version 2.0. -/
def Age.v2Point0 : Age where
  names := ["2.0", "v20"]
  added := Run.ofCodes [
    0x0591_0005A1_1, 0x05A3_0005AF_1, 0x05C4_0005C4_1, 0x0F00_000F47_1, 0x0F49_000F69_1,
    0x0F71_000F8B_1, 0x0F90_000F95_1, 0x0F97_000F97_1, 0x0F99_000FAD_1, 0x0FB1_000FB7_1,
    0x0FB9_000FB9_1, 0x1E9B_001E9B_1, 0x20AB_0020AB_1, 0xAC00_00D7A3_1, 0x1FFFE_01FFFF_1,
    0x2FFFE_02FFFF_1, 0x3FFFE_03FFFF_1, 0x4FFFE_04FFFF_1, 0x5FFFE_05FFFF_1, 0x6FFFE_06FFFF_1,
    0x7FFFE_07FFFF_1, 0x8FFFE_08FFFF_1, 0x9FFFE_09FFFF_1, 0xAFFFE_0AFFFF_1, 0xBFFFE_0BFFFF_1,
    0xCFFFE_0CFFFF_1, 0xDFFFE_0DFFFF_1, 0xEFFFE_10FFFF_1]

/-- Version 2.1. -/
def Age.v2Point1 : Age where
  names := ["2.1", "v21"]
  added := Run.ofCodes [
    0x20AC_0020AC_1, 0xFFFC_00FFFC_1]

/-- Version 3.0. -/
def Age.v3Point0 : Age where
  names := ["3.0", "v30"]
  added := Run.ofCodes [
    0x01F6_0001F9_1, 0x0218_00021F_1, 0x0222_000233_1, 0x02A9_0002AD_1, 0x02DF_0002DF_1,
    0x02EA_0002EE_1, 0x0346_00034E_1, 0x0362_000362_1, 0x03D7_0003D7_1, 0x03DB_0003E1_2,
    0x0400_000400_1, 0x040D_00040D_1, 0x0450_000450_1, 0x045D_00045D_1, 0x0488_000489_1,
    0x048C_00048F_1, 0x04EC_0004ED_1, 0x058A_00058A_1, 0x0653_000655_1, 0x06B8_0006B9_1,
    0x06BF_0006BF_1, 0x06CF_0006CF_1, 0x06FA_0006FE_1, 0x0700_00070D_1, 0x070F_00072C_1,
    0x0730_00074A_1, 0x0780_0007B0_1, 0x0D82_000D83_1, 0x0D85_000D96_1, 0x0D9A_000DB1_1,
    0x0DB3_000DBB_1, 0x0DBD_000DBD_1, 0x0DC0_000DC6_1, 0x0DCA_000DCA_1, 0x0DCF_000DD4_1,
    0x0DD6_000DD6_1, 0x0DD8_000DDF_1, 0x0DF2_000DF4_1, 0x0F6A_000F6A_1, 0x0F96_000F96_1,
    0x0FAE_000FB0_1, 0x0FB8_000FB8_1, 0x0FBA_000FBC_1, 0x0FBE_000FCC_1, 0x0FCF_000FCF_1,
    0x1000_001021_1, 0x1023_001027_1, 0x1029_00102A_1, 0x102C_001032_1, 0x1036_001039_1,
    0x1040_001059_1, 0x1200_001206_1, 0x1208_001246_1, 0x1248_001248_1, 0x124A_00124D_1,
    0x1250_001256_1, 0x1258_001258_1, 0x125A_00125D_1, 0x1260_001286_1, 0x1288_001288_1,
    0x128A_00128D_1, 0x1290_0012AE_1, 0x12B0_0012B0_1, 0x12B2_0012B5_1, 0x12B8_0012BE_1,
    0x12C0_0012C0_1, 0x12C2_0012C5_1, 0x12C8_0012CE_1, 0x12D0_0012D6_1, 0x12D8_0012EE_1,
    0x12F0_00130E_1, 0x1310_001310_1, 0x1312_001315_1, 0x1318_00131E_1, 0x1320_001346_1,
    0x1348_00135A_1, 0x1361_00137C_1, 0x13A0_0013F4_1, 0x1401_001676_1, 0x1680_00169C_1,
    0x16A0_0016F0_1, 0x1780_0017DC_1, 0x17E0_0017E9_1, 0x1800_00180E_1, 0x1810_001819_1,
    0x1820_001877_1, 0x1880_0018A9_1, 0x202F_00202F_1, 0x2048_00204D_1, 0x20AD_0020AF_1,
    0x20E2_0020E3_1, 0x2139_00213A_1, 0x2183_002183_1, 0x21EB_0021F3_1, 0x2301_002301_1,
    0x237B_00237B_1, 0x237D_00239A_1, 0x2425_002426_1, 0x25F0_0025F7_1, 0x2619_002619_1,
    0x2670_002671_1, 0x2800_0028FF_1, 0x2E80_002E99_1, 0x2E9B_002EF3_1, 0x2F00_002FD5_1,
    0x2FF0_002FFB_1, 0x3038_00303A_1, 0x303E_00303E_1, 0x31A0_0031B7_1, 0x3400_004DB5_1,
    0xA000_00A48C_1, 0xA490_00A4A1_1, 0xA4A4_00A4B3_1, 0xA4B5_00A4C0_1, 0xA4C2_00A4C4_1,
    0xA4C6_00A4C6_1, 0xFB1D_00FB1D_1, 0xFFF9_00FFFB_1]

/-- Version 3.1. -/
def Age.v3Point1 : Age where
  names := ["3.1", "v31"]
  added := Run.ofCodes [
    0x03F4_0003F5_1, 0xFDD0_00FDEF_1, 0x10300_01031E_1, 0x10320_010323_1, 0x10330_01034A_1,
    0x10400_010425_1, 0x10428_01044D_1, 0x1D000_01D0F5_1, 0x1D100_01D126_1, 0x1D12A_01D1DD_1,
    0x1D400_01D454_1, 0x1D456_01D49C_1, 0x1D49E_01D49F_1, 0x1D4A2_01D4A2_1, 0x1D4A5_01D4A6_1,
    0x1D4A9_01D4AC_1, 0x1D4AE_01D4B9_1, 0x1D4BB_01D4BB_1, 0x1D4BD_01D4C0_1, 0x1D4C2_01D4C3_1,
    0x1D4C5_01D505_1, 0x1D507_01D50A_1, 0x1D50D_01D514_1, 0x1D516_01D51C_1, 0x1D51E_01D539_1,
    0x1D53B_01D53E_1, 0x1D540_01D544_1, 0x1D546_01D546_1, 0x1D54A_01D550_1, 0x1D552_01D6A3_1,
    0x1D6A8_01D7C9_1, 0x1D7CE_01D7FF_1, 0x20000_02A6D6_1, 0x2F800_02FA1D_1, 0xE0001_0E0001_1,
    0xE0020_0E007F_1]

/-- Version 3.2. -/
def Age.v3Point2 : Age where
  names := ["3.2", "v32"]
  added := Run.ofCodes [
    0x0220_000220_1, 0x034F_00034F_1, 0x0363_00036F_1, 0x03D8_0003D9_1, 0x03F6_0003F6_1,
    0x048A_00048B_1, 0x04C5_0004C6_1, 0x04C9_0004CA_1, 0x04CD_0004CE_1, 0x0500_00050F_1,
    0x066E_00066F_1, 0x07B1_0007B1_1, 0x10F7_0010F8_1, 0x1700_00170C_1, 0x170E_001714_1,
    0x1720_001736_1, 0x1740_001753_1, 0x1760_00176C_1, 0x176E_001770_1, 0x1772_001773_1,
    0x2047_002047_1, 0x204E_002052_1, 0x2057_002057_1, 0x205F_002063_1, 0x2071_002071_1,
    0x20B0_0020B1_1, 0x20E4_0020EA_1, 0x213D_00214B_1, 0x21F4_0021FF_1, 0x22F2_0022FF_1,
    0x237C_00237C_1, 0x239B_0023CE_1, 0x24EB_0024FE_1, 0x2596_00259F_1, 0x25F8_0025FF_1,
    0x2616_002617_1, 0x2672_00267D_1, 0x2680_002689_1, 0x2768_002775_1, 0x27D0_0027EB_1,
    0x27F0_0027FF_1, 0x2900_002AFF_1, 0x303B_00303D_1, 0x3095_003096_1, 0x309F_0030A0_1,
    0x30FF_0030FF_1, 0x31F0_0031FF_1, 0x3251_00325F_1, 0x32B1_0032BF_1, 0xA4A2_00A4A3_1,
    0xA4B4_00A4B4_1, 0xA4C1_00A4C1_1, 0xA4C5_00A4C5_1, 0xFA30_00FA6A_1, 0xFDFC_00FDFC_1,
    0xFE00_00FE0F_1, 0xFE45_00FE46_1, 0xFE73_00FE73_1, 0xFF5F_00FF60_1]

/-- Version 4.0. -/
def Age.v4Point0 : Age where
  names := ["4.0", "v40"]
  added := Run.ofCodes [
    0x0221_000221_1, 0x0234_000236_1, 0x02AE_0002AF_1, 0x02EF_0002FF_1, 0x0350_000357_1,
    0x035D_00035F_1, 0x03F7_0003FB_1, 0x0600_000603_1, 0x060D_000615_1, 0x0656_000658_1,
    0x06EE_0006EF_1, 0x06FF_0006FF_1, 0x072D_00072F_1, 0x074D_00074F_1, 0x0904_000904_1,
    0x09BD_0009BD_1, 0x0A01_000A01_1, 0x0A03_000A03_1, 0x0A8C_000A8C_1, 0x0AE1_000AE3_1,
    0x0AF1_000AF1_1, 0x0B35_000B35_1, 0x0B71_000B71_1, 0x0BF3_000BFA_1, 0x0CBC_000CBD_1,
    0x17DD_0017DD_1, 0x17F0_0017F9_1, 0x1900_00191C_1, 0x1920_00192B_1, 0x1930_00193B_1,
    0x1940_001940_1, 0x1944_00196D_1, 0x1970_001974_1, 0x19E0_0019FF_1, 0x1D00_001D6B_1,
    0x2053_002054_1, 0x213B_00213B_1, 0x23CF_0023D0_1, 0x24FF_0024FF_1, 0x2614_002615_1,
    0x268A_002691_1, 0x26A0_0026A1_1, 0x2B00_002B0D_1, 0x321D_00321E_1, 0x3250_003250_1,
    0x327C_00327D_1, 0x32CC_0032CF_1, 0x3377_00337A_1, 0x33DE_0033DF_1, 0x33FF_0033FF_1,
    0x4DC0_004DFF_1, 0xFDFD_00FDFD_1, 0xFE47_00FE48_1, 0x10000_01000B_1, 0x1000D_010026_1,
    0x10028_01003A_1, 0x1003C_01003D_1, 0x1003F_01004D_1, 0x10050_01005D_1, 0x10080_0100FA_1,
    0x10100_010102_1, 0x10107_010133_1, 0x10137_01013F_1, 0x10380_01039D_1, 0x1039F_01039F_1,
    0x10426_010427_1, 0x1044E_01049D_1, 0x104A0_0104A9_1, 0x10800_010805_1, 0x10808_010808_1,
    0x1080A_010835_1, 0x10837_010838_1, 0x1083C_01083C_1, 0x1083F_01083F_1, 0x1D300_01D356_1,
    0x1D4C1_01D4C1_1, 0xE0100_0E01EF_1]

/-- Version 4.1. -/
def Age.v4Point1 : Age where
  names := ["4.1", "v41"]
  added := Run.ofCodes [
    0x0237_000241_1, 0x0358_00035C_1, 0x03FC_0003FF_1, 0x04F6_0004F7_1, 0x05A2_0005A2_1,
    0x05C5_0005C7_1, 0x060B_00060B_1, 0x061E_00061E_1, 0x0659_00065E_1, 0x0750_00076D_1,
    0x097D_00097D_1, 0x09CE_0009CE_1, 0x0BB6_000BB6_1, 0x0BE6_000BE6_1, 0x0FD0_000FD1_1,
    0x10F9_0010FA_1, 0x10FC_0010FC_1, 0x1207_001207_1, 0x1247_001247_1, 0x1287_001287_1,
    0x12AF_0012AF_1, 0x12CF_0012CF_1, 0x12EF_0012EF_1, 0x130F_00130F_1, 0x131F_00131F_1,
    0x1347_001347_1, 0x135F_001360_1, 0x1380_001399_1, 0x1980_0019A9_1, 0x19B0_0019C9_1,
    0x19D0_0019D9_1, 0x19DE_0019DF_1, 0x1A00_001A1B_1, 0x1A1E_001A1F_1, 0x1D6C_001DC3_1,
    0x2055_002056_1, 0x2058_00205E_1, 0x2090_002094_1, 0x20B2_0020B5_1, 0x20EB_0020EB_1,
    0x213C_00213C_1, 0x214C_00214C_1, 0x23D1_0023DB_1, 0x2618_002618_1, 0x267E_00267F_1,
    0x2692_00269C_1, 0x26A2_0026B1_1, 0x27C0_0027C6_1, 0x2B0E_002B13_1, 0x2C00_002C2E_1,
    0x2C30_002C5E_1, 0x2C80_002CEA_1, 0x2CF9_002D25_1, 0x2D30_002D65_1, 0x2D6F_002D6F_1,
    0x2D80_002D96_1, 0x2DA0_002DA6_1, 0x2DA8_002DAE_1, 0x2DB0_002DB6_1, 0x2DB8_002DBE_1,
    0x2DC0_002DC6_1, 0x2DC8_002DCE_1, 0x2DD0_002DD6_1, 0x2DD8_002DDE_1, 0x2E00_002E17_1,
    0x2E1C_002E1D_1, 0x31C0_0031CF_1, 0x327E_00327E_1, 0x9FA6_009FBB_1, 0xA700_00A716_1,
    0xA800_00A82B_1, 0xFA70_00FAD9_1, 0xFE10_00FE19_1, 0x10140_01018A_1, 0x103A0_0103C3_1,
    0x103C8_0103D5_1, 0x10A00_010A03_1, 0x10A05_010A06_1, 0x10A0C_010A13_1, 0x10A15_010A17_1,
    0x10A19_010A33_1, 0x10A38_010A3A_1, 0x10A3F_010A47_1, 0x10A50_010A58_1, 0x1D200_01D245_1,
    0x1D6A4_01D6A5_1]

/-- Version 5.0. -/
def Age.v5Point0 : Age where
  names := ["5.0", "v50"]
  added := Run.ofCodes [
    0x0242_00024F_1, 0x037B_00037D_1, 0x04CF_0004CF_1, 0x04FA_0004FF_1, 0x0510_000513_1,
    0x05BA_0005BA_1, 0x07C0_0007FA_1, 0x097B_00097C_1, 0x097E_00097F_1, 0x0CE2_000CE3_1,
    0x0CF1_000CF2_1, 0x1B00_001B4B_1, 0x1B50_001B7C_1, 0x1DC4_001DCA_1, 0x1DFE_001DFF_1,
    0x20EC_0020EF_1, 0x214D_00214E_1, 0x2184_002184_1, 0x23DC_0023E7_1, 0x26B2_0026B2_1,
    0x27C7_0027CA_1, 0x2B14_002B1A_1, 0x2B20_002B23_1, 0x2C60_002C6C_1, 0x2C74_002C77_1,
    0xA717_00A71A_1, 0xA720_00A721_1, 0xA840_00A877_1, 0x10900_010919_1, 0x1091F_01091F_1,
    0x12000_01236E_1, 0x12400_012462_1, 0x12470_012473_1, 0x1D360_01D371_1, 0x1D7CA_01D7CB_1]

/-- Version 5.1. -/
def Age.v5Point1 : Age where
  names := ["5.1", "v51"]
  added := Run.ofCodes [
    0x0370_000373_1, 0x0376_000377_1, 0x03CF_0003CF_1, 0x0487_000487_1, 0x0514_000523_1,
    0x0606_00060A_1, 0x0616_00061A_1, 0x063B_00063F_1, 0x076E_00077F_1, 0x0971_000972_1,
    0x0A51_000A51_1, 0x0A75_000A75_1, 0x0B44_000B44_1, 0x0B62_000B63_1, 0x0BD0_000BD0_1,
    0x0C3D_000C3D_1, 0x0C58_000C59_1, 0x0C62_000C63_1, 0x0C78_000C7F_1, 0x0D3D_000D3D_1,
    0x0D44_000D44_1, 0x0D62_000D63_1, 0x0D70_000D75_1, 0x0D79_000D7F_1, 0x0F6B_000F6C_1,
    0x0FCE_000FCE_1, 0x0FD2_000FD4_1, 0x1022_001022_1, 0x1028_001028_1, 0x102B_00102B_1,
    0x1033_001035_1, 0x103A_00103F_1, 0x105A_001099_1, 0x109E_00109F_1, 0x18AA_0018AA_1,
    0x1B80_001BAA_1, 0x1BAE_001BB9_1, 0x1C00_001C37_1, 0x1C3B_001C49_1, 0x1C4D_001C7F_1,
    0x1DCB_001DE6_1, 0x1E9C_001E9F_1, 0x1EFA_001EFF_1, 0x2064_002064_1, 0x20F0_0020F0_1,
    0x214F_00214F_1, 0x2185_002188_1, 0x269D_00269D_1, 0x26B3_0026BC_1, 0x26C0_0026C3_1,
    0x27CC_0027CC_1, 0x27EC_0027EF_1, 0x2B1B_002B1F_1, 0x2B24_002B4C_1, 0x2B50_002B54_1,
    0x2C6D_002C6F_1, 0x2C71_002C73_1, 0x2C78_002C7D_1, 0x2DE0_002DFF_1, 0x2E18_002E1B_1,
    0x2E1E_002E30_1, 0x312D_00312D_1, 0x31D0_0031E3_1, 0x9FBC_009FC3_1, 0xA500_00A62B_1,
    0xA640_00A65F_1, 0xA662_00A673_1, 0xA67C_00A697_1, 0xA71B_00A71F_1, 0xA722_00A78C_1,
    0xA7FB_00A7FF_1, 0xA880_00A8C4_1, 0xA8CE_00A8D9_1, 0xA900_00A953_1, 0xA95F_00A95F_1,
    0xAA00_00AA36_1, 0xAA40_00AA4D_1, 0xAA50_00AA59_1, 0xAA5C_00AA5F_1, 0xFE24_00FE26_1,
    0x10190_01019B_1, 0x101D0_0101FD_1, 0x10280_01029C_1, 0x102A0_0102D0_1, 0x10920_010939_1,
    0x1093F_01093F_1, 0x1D129_01D129_1, 0x1F000_01F02B_1, 0x1F030_01F093_1]

/-- Version 5.2. -/
def Age.v5Point2 : Age where
  names := ["5.2", "v52"]
  added := Run.ofCodes [
    0x0524_000525_1, 0x0800_00082D_1, 0x0830_00083E_1, 0x0900_000900_1, 0x094E_00094E_1,
    0x0955_000955_1, 0x0979_00097A_1, 0x09FB_0009FB_1, 0x0FD5_000FD8_1, 0x109A_00109D_1,
    0x115A_00115E_1, 0x11A3_0011A7_1, 0x11FA_0011FF_1, 0x1400_001400_1, 0x1677_00167F_1,
    0x18B0_0018F5_1, 0x19AA_0019AB_1, 0x19DA_0019DA_1, 0x1A20_001A5E_1, 0x1A60_001A7C_1,
    0x1A7F_001A89_1, 0x1A90_001A99_1, 0x1AA0_001AAD_1, 0x1CD0_001CF2_1, 0x1DFD_001DFD_1,
    0x20B6_0020B8_1, 0x2150_002152_1, 0x2189_002189_1, 0x23E8_0023E8_1, 0x269E_00269F_1,
    0x26BD_0026BF_1, 0x26C4_0026CD_1, 0x26CF_0026E1_1, 0x26E3_0026E3_1, 0x26E8_0026FF_1,
    0x2757_002757_1, 0x2B55_002B59_1, 0x2C70_002C70_1, 0x2C7E_002C7F_1, 0x2CEB_002CF1_1,
    0x2E31_002E31_1, 0x3244_00324F_1, 0x9FC4_009FCB_1, 0xA4D0_00A4FF_1, 0xA6A0_00A6F7_1,
    0xA830_00A839_1, 0xA8E0_00A8FB_1, 0xA960_00A97C_1, 0xA980_00A9CD_1, 0xA9CF_00A9D9_1,
    0xA9DE_00A9DF_1, 0xAA60_00AA7B_1, 0xAA80_00AAC2_1, 0xAADB_00AADF_1, 0xABC0_00ABED_1,
    0xABF0_00ABF9_1, 0xD7B0_00D7C6_1, 0xD7CB_00D7FB_1, 0xFA6B_00FA6D_1, 0x10840_010855_1,
    0x10857_01085F_1, 0x1091A_01091B_1, 0x10A60_010A7F_1, 0x10B00_010B35_1, 0x10B39_010B55_1,
    0x10B58_010B72_1, 0x10B78_010B7F_1, 0x10C00_010C48_1, 0x10E60_010E7E_1, 0x11080_0110C1_1,
    0x13000_01342E_1, 0x1F100_01F10A_1, 0x1F110_01F12E_1, 0x1F131_01F131_1, 0x1F13D_01F13D_1,
    0x1F13F_01F13F_1, 0x1F142_01F142_1, 0x1F146_01F146_1, 0x1F14A_01F14E_1, 0x1F157_01F157_1,
    0x1F15F_01F15F_1, 0x1F179_01F179_1, 0x1F17B_01F17C_1, 0x1F17F_01F17F_1, 0x1F18A_01F18D_1,
    0x1F190_01F190_1, 0x1F200_01F200_1, 0x1F210_01F231_1, 0x1F240_01F248_1, 0x2A700_02B734_1]

/-- Version 6.0. -/
def Age.v6Point0 : Age where
  names := ["6.0", "v60"]
  added := Run.ofCodes [
    0x0526_000527_1, 0x0620_000620_1, 0x065F_00065F_1, 0x0840_00085B_1, 0x085E_00085E_1,
    0x093A_00093B_1, 0x094F_00094F_1, 0x0956_000957_1, 0x0973_000977_1, 0x0B72_000B77_1,
    0x0D29_000D29_1, 0x0D3A_000D3A_1, 0x0D4E_000D4E_1, 0x0F8C_000F8F_1, 0x0FD9_000FDA_1,
    0x135D_00135E_1, 0x1BC0_001BF3_1, 0x1BFC_001BFF_1, 0x1DFC_001DFC_1, 0x2095_00209C_1,
    0x20B9_0020B9_1, 0x23E9_0023F3_1, 0x26CE_0026CE_1, 0x26E2_0026E2_1, 0x26E4_0026E7_1,
    0x2705_002705_1, 0x270A_00270B_1, 0x2728_002728_1, 0x274C_00274C_1, 0x274E_00274E_1,
    0x2753_002755_1, 0x275F_002760_1, 0x2795_002797_1, 0x27B0_0027B0_1, 0x27BF_0027BF_1,
    0x27CE_0027CF_1, 0x2D70_002D70_1, 0x2D7F_002D7F_1, 0x31B8_0031BA_1, 0xA660_00A661_1,
    0xA78D_00A78E_1, 0xA790_00A791_1, 0xA7A0_00A7A9_1, 0xA7FA_00A7FA_1, 0xAB01_00AB06_1,
    0xAB09_00AB0E_1, 0xAB11_00AB16_1, 0xAB20_00AB26_1, 0xAB28_00AB2E_1, 0xFBB2_00FBC1_1,
    0x11000_01104D_1, 0x11052_01106F_1, 0x16800_016A38_1, 0x1B000_01B001_1, 0x1F0A0_01F0AE_1,
    0x1F0B1_01F0BE_1, 0x1F0C1_01F0CF_1, 0x1F0D1_01F0DF_1, 0x1F130_01F130_1, 0x1F132_01F13C_1,
    0x1F13E_01F13E_1, 0x1F140_01F141_1, 0x1F143_01F145_1, 0x1F147_01F149_1, 0x1F14F_01F156_1,
    0x1F158_01F15E_1, 0x1F160_01F169_1, 0x1F170_01F178_1, 0x1F17A_01F17A_1, 0x1F17D_01F17E_1,
    0x1F180_01F189_1, 0x1F18E_01F18F_1, 0x1F191_01F19A_1, 0x1F1E6_01F1FF_1, 0x1F201_01F202_1,
    0x1F232_01F23A_1, 0x1F250_01F251_1, 0x1F300_01F320_1, 0x1F330_01F335_1, 0x1F337_01F37C_1,
    0x1F380_01F393_1, 0x1F3A0_01F3C4_1, 0x1F3C6_01F3CA_1, 0x1F3E0_01F3F0_1, 0x1F400_01F43E_1,
    0x1F440_01F440_1, 0x1F442_01F4F7_1, 0x1F4F9_01F4FC_1, 0x1F500_01F53D_1, 0x1F550_01F567_1,
    0x1F5FB_01F5FF_1, 0x1F601_01F610_1, 0x1F612_01F614_1, 0x1F616_01F61A_2, 0x1F61C_01F61E_1,
    0x1F620_01F625_1, 0x1F628_01F62B_1, 0x1F62D_01F62D_1, 0x1F630_01F633_1, 0x1F635_01F640_1,
    0x1F645_01F64F_1, 0x1F680_01F6C5_1, 0x1F700_01F773_1, 0x2B740_02B81D_1]

/-- Version 6.1. -/
def Age.v6Point1 : Age where
  names := ["6.1", "v61"]
  added := Run.ofCodes [
    0x058F_00058F_1, 0x0604_000604_1, 0x08A0_0008A0_1, 0x08A2_0008AC_1, 0x08E4_0008FE_1,
    0x0AF0_000AF0_1, 0x0EDE_000EDF_1, 0x10C7_0010C7_1, 0x10CD_0010CD_1, 0x10FD_0010FF_1,
    0x1BAB_001BAD_1, 0x1BBA_001BBF_1, 0x1CC0_001CC7_1, 0x1CF3_001CF6_1, 0x27CB_0027CB_1,
    0x27CD_0027CD_1, 0x2CF2_002CF3_1, 0x2D27_002D27_1, 0x2D2D_002D2D_1, 0x2D66_002D67_1,
    0x2E32_002E3B_1, 0x9FCC_009FCC_1, 0xA674_00A67B_1, 0xA69F_00A69F_1, 0xA792_00A793_1,
    0xA7AA_00A7AA_1, 0xA7F8_00A7F9_1, 0xAAE0_00AAF6_1, 0xFA2E_00FA2F_1, 0x10980_0109B7_1,
    0x109BE_0109BF_1, 0x110D0_0110E8_1, 0x110F0_0110F9_1, 0x11100_011134_1, 0x11136_011143_1,
    0x11180_0111C8_1, 0x111D0_0111D9_1, 0x11680_0116B7_1, 0x116C0_0116C9_1, 0x16F00_016F44_1,
    0x16F50_016F7E_1, 0x16F8F_016F9F_1, 0x1EE00_01EE03_1, 0x1EE05_01EE1F_1, 0x1EE21_01EE22_1,
    0x1EE24_01EE24_1, 0x1EE27_01EE27_1, 0x1EE29_01EE32_1, 0x1EE34_01EE37_1, 0x1EE39_01EE39_1,
    0x1EE3B_01EE3B_1, 0x1EE42_01EE42_1, 0x1EE47_01EE4B_2, 0x1EE4D_01EE4F_1, 0x1EE51_01EE52_1,
    0x1EE54_01EE54_1, 0x1EE57_01EE5F_2, 0x1EE61_01EE62_1, 0x1EE64_01EE64_1, 0x1EE67_01EE6A_1,
    0x1EE6C_01EE72_1, 0x1EE74_01EE77_1, 0x1EE79_01EE7C_1, 0x1EE7E_01EE7E_1, 0x1EE80_01EE89_1,
    0x1EE8B_01EE9B_1, 0x1EEA1_01EEA3_1, 0x1EEA5_01EEA9_1, 0x1EEAB_01EEBB_1, 0x1EEF0_01EEF1_1,
    0x1F16A_01F16B_1, 0x1F540_01F543_1, 0x1F600_01F600_1, 0x1F611_01F611_1, 0x1F615_01F61B_2,
    0x1F61F_01F61F_1, 0x1F626_01F627_1, 0x1F62C_01F62C_1, 0x1F62E_01F62F_1, 0x1F634_01F634_1]

/-- Version 6.2. -/
def Age.v6Point2 : Age where
  names := ["6.2", "v62"]
  added := Run.ofCodes [
    0x20BA_0020BA_1]

/-- Version 6.3. -/
def Age.v6Point3 : Age where
  names := ["6.3", "v63"]
  added := Run.ofCodes [
    0x061C_00061C_1, 0x2066_002069_1]

/-- Version 7.0. -/
def Age.v7Point0 : Age where
  names := ["7.0", "v70"]
  added := Run.ofCodes [
    0x037F_00037F_1, 0x0528_00052F_1, 0x058D_00058E_1, 0x0605_000605_1, 0x08A1_0008A1_1,
    0x08AD_0008B2_1, 0x08FF_0008FF_1, 0x0978_000978_1, 0x0980_000980_1, 0x0C00_000C00_1,
    0x0C34_000C34_1, 0x0C81_000C81_1, 0x0D01_000D01_1, 0x0DE6_000DEF_1, 0x16F1_0016F8_1,
    0x191D_00191E_1, 0x1AB0_001ABE_1, 0x1CF8_001CF9_1, 0x1DE7_001DF5_1, 0x20BB_0020BD_1,
    0x23F4_0023FA_1, 0x2700_002700_1, 0x2B4D_002B4F_1, 0x2B5A_002B73_1, 0x2B76_002B95_1,
    0x2B98_002BB9_1, 0x2BBD_002BC8_1, 0x2BCA_002BD1_1, 0x2E3C_002E42_1, 0xA698_00A69D_1,
    0xA794_00A79F_1, 0xA7AB_00A7AD_1, 0xA7B0_00A7B1_1, 0xA7F7_00A7F7_1, 0xA9E0_00A9FE_1,
    0xAA7C_00AA7F_1, 0xAB30_00AB5F_1, 0xAB64_00AB65_1, 0xFE27_00FE2D_1, 0x1018B_01018C_1,
    0x101A0_0101A0_1, 0x102E0_0102FB_1, 0x1031F_01031F_1, 0x10350_01037A_1, 0x10500_010527_1,
    0x10530_010563_1, 0x1056F_01056F_1, 0x10600_010736_1, 0x10740_010755_1, 0x10760_010767_1,
    0x10860_01089E_1, 0x108A7_0108AF_1, 0x10A80_010A9F_1, 0x10AC0_010AE6_1, 0x10AEB_010AF6_1,
    0x10B80_010B91_1, 0x10B99_010B9C_1, 0x10BA9_010BAF_1, 0x1107F_01107F_1, 0x11150_011176_1,
    0x111CD_0111CD_1, 0x111DA_0111DA_1, 0x111E1_0111F4_1, 0x11200_011211_1, 0x11213_01123D_1,
    0x112B0_0112EA_1, 0x112F0_0112F9_1, 0x11301_011303_1, 0x11305_01130C_1, 0x1130F_011310_1,
    0x11313_011328_1, 0x1132A_011330_1, 0x11332_011333_1, 0x11335_011339_1, 0x1133C_011344_1,
    0x11347_011348_1, 0x1134B_01134D_1, 0x11357_011357_1, 0x1135D_011363_1, 0x11366_01136C_1,
    0x11370_011374_1, 0x11480_0114C7_1, 0x114D0_0114D9_1, 0x11580_0115B5_1, 0x115B8_0115C9_1,
    0x11600_011644_1, 0x11650_011659_1, 0x118A0_0118F2_1, 0x118FF_0118FF_1, 0x11AC0_011AF8_1,
    0x1236F_012398_1, 0x12463_01246E_1, 0x12474_012474_1, 0x16A40_016A5E_1, 0x16A60_016A69_1,
    0x16A6E_016A6F_1, 0x16AD0_016AED_1, 0x16AF0_016AF5_1, 0x16B00_016B45_1, 0x16B50_016B59_1,
    0x16B5B_016B61_1, 0x16B63_016B77_1, 0x16B7D_016B8F_1, 0x1BC00_01BC6A_1, 0x1BC70_01BC7C_1,
    0x1BC80_01BC88_1, 0x1BC90_01BC99_1, 0x1BC9C_01BCA3_1, 0x1E800_01E8C4_1, 0x1E8C7_01E8D6_1,
    0x1F0BF_01F0BF_1, 0x1F0E0_01F0F5_1, 0x1F10B_01F10C_1, 0x1F321_01F32C_1, 0x1F336_01F336_1,
    0x1F37D_01F37D_1, 0x1F394_01F39F_1, 0x1F3C5_01F3C5_1, 0x1F3CB_01F3CE_1, 0x1F3D4_01F3DF_1,
    0x1F3F1_01F3F7_1, 0x1F43F_01F43F_1, 0x1F441_01F441_1, 0x1F4F8_01F4F8_1, 0x1F4FD_01F4FE_1,
    0x1F53E_01F53F_1, 0x1F544_01F54A_1, 0x1F568_01F579_1, 0x1F57B_01F5A3_1, 0x1F5A5_01F5FA_1,
    0x1F641_01F642_1, 0x1F650_01F67F_1, 0x1F6C6_01F6CF_1, 0x1F6E0_01F6EC_1, 0x1F6F0_01F6F3_1,
    0x1F780_01F7D4_1, 0x1F800_01F80B_1, 0x1F810_01F847_1, 0x1F850_01F859_1, 0x1F860_01F887_1,
    0x1F890_01F8AD_1]

/-- Version 8.0. -/
def Age.v8Point0 : Age where
  names := ["8.0", "v80"]
  added := Run.ofCodes [
    0x08B3_0008B4_1, 0x08E3_0008E3_1, 0x0AF9_000AF9_1, 0x0C5A_000C5A_1, 0x0D5F_000D5F_1,
    0x13F5_0013F5_1, 0x13F8_0013FD_1, 0x20BE_0020BE_1, 0x218A_00218B_1, 0x2BEC_002BEF_1,
    0x9FCD_009FD5_1, 0xA69E_00A69E_1, 0xA78F_00A78F_1, 0xA7B2_00A7B7_1, 0xA8FC_00A8FD_1,
    0xAB60_00AB63_1, 0xAB70_00ABBF_1, 0xFE2E_00FE2F_1, 0x108E0_0108F2_1, 0x108F4_0108F5_1,
    0x108FB_0108FF_1, 0x109BC_0109BD_1, 0x109C0_0109CF_1, 0x109D2_0109FF_1, 0x10C80_010CB2_1,
    0x10CC0_010CF2_1, 0x10CFA_010CFF_1, 0x111C9_0111CC_1, 0x111DB_0111DF_1, 0x11280_011286_1,
    0x11288_011288_1, 0x1128A_01128D_1, 0x1128F_01129D_1, 0x1129F_0112A9_1, 0x11300_011300_1,
    0x11350_011350_1, 0x115CA_0115DD_1, 0x11700_011719_1, 0x1171D_01172B_1, 0x11730_01173F_1,
    0x12399_012399_1, 0x12480_012543_1, 0x14400_014646_1, 0x1D1DE_01D1E8_1, 0x1D800_01DA8B_1,
    0x1DA9B_01DA9F_1, 0x1DAA1_01DAAF_1, 0x1F32D_01F32F_1, 0x1F37E_01F37F_1, 0x1F3CF_01F3D3_1,
    0x1F3F8_01F3FF_1, 0x1F4FF_01F4FF_1, 0x1F54B_01F54F_1, 0x1F643_01F644_1, 0x1F6D0_01F6D0_1,
    0x1F910_01F918_1, 0x1F980_01F984_1, 0x1F9C0_01F9C0_1, 0x2B820_02CEA1_1]

/-- Version 9.0. -/
def Age.v9Point0 : Age where
  names := ["9.0", "v90"]
  added := Run.ofCodes [
    0x08B6_0008BD_1, 0x08D4_0008E2_1, 0x0C80_000C80_1, 0x0D4F_000D4F_1, 0x0D54_000D56_1,
    0x0D58_000D5E_1, 0x0D76_000D78_1, 0x1C80_001C88_1, 0x1DFB_001DFB_1, 0x23FB_0023FE_1,
    0x2E43_002E44_1, 0xA7AE_00A7AE_1, 0xA8C5_00A8C5_1, 0x1018D_01018E_1, 0x104B0_0104D3_1,
    0x104D8_0104FB_1, 0x1123E_01123E_1, 0x11400_011459_1, 0x1145B_01145B_1, 0x1145D_01145D_1,
    0x11660_01166C_1, 0x11C00_011C08_1, 0x11C0A_011C36_1, 0x11C38_011C45_1, 0x11C50_011C6C_1,
    0x11C70_011C8F_1, 0x11C92_011CA7_1, 0x11CA9_011CB6_1, 0x16FE0_016FE0_1, 0x17000_0187EC_1,
    0x18800_018AF2_1, 0x1E000_01E006_1, 0x1E008_01E018_1, 0x1E01B_01E021_1, 0x1E023_01E024_1,
    0x1E026_01E02A_1, 0x1E900_01E94A_1, 0x1E950_01E959_1, 0x1E95E_01E95F_1, 0x1F19B_01F1AC_1,
    0x1F23B_01F23B_1, 0x1F57A_01F57A_1, 0x1F5A4_01F5A4_1, 0x1F6D1_01F6D2_1, 0x1F6F4_01F6F6_1,
    0x1F919_01F91E_1, 0x1F920_01F927_1, 0x1F930_01F930_1, 0x1F933_01F93E_1, 0x1F940_01F94B_1,
    0x1F950_01F95E_1, 0x1F985_01F991_1]

/-- Version 10.0. -/
def Age.v10Point0 : Age where
  names := ["10.0", "v100"]
  added := Run.ofCodes [
    0x0860_00086A_1, 0x09FC_0009FD_1, 0x0AFA_000AFF_1, 0x0D00_000D00_1, 0x0D3B_000D3C_1,
    0x1CF7_001CF7_1, 0x1DF6_001DF9_1, 0x20BF_0020BF_1, 0x23FF_0023FF_1, 0x2BD2_002BD2_1,
    0x2E45_002E49_1, 0x312E_00312E_1, 0x9FD6_009FEA_1, 0x1032D_01032F_1, 0x11A00_011A47_1,
    0x11A50_011A83_1, 0x11A86_011A9C_1, 0x11A9E_011AA2_1, 0x11D00_011D06_1, 0x11D08_011D09_1,
    0x11D0B_011D36_1, 0x11D3A_011D3A_1, 0x11D3C_011D3D_1, 0x11D3F_011D47_1, 0x11D50_011D59_1,
    0x16FE1_016FE1_1, 0x1B002_01B11E_1, 0x1B170_01B2FB_1, 0x1F260_01F265_1, 0x1F6D3_01F6D4_1,
    0x1F6F7_01F6F8_1, 0x1F900_01F90B_1, 0x1F91F_01F91F_1, 0x1F928_01F92F_1, 0x1F931_01F932_1,
    0x1F94C_01F94C_1, 0x1F95F_01F96B_1, 0x1F992_01F997_1, 0x1F9D0_01F9E6_1, 0x2CEB0_02EBE0_1]

/-- Version 11.0. -/
def Age.v11Point0 : Age where
  names := ["11.0", "v110"]
  added := Run.ofCodes [
    0x0560_000560_1, 0x0588_000588_1, 0x05EF_0005EF_1, 0x07FD_0007FF_1, 0x08D3_0008D3_1,
    0x09FE_0009FE_1, 0x0A76_000A76_1, 0x0C04_000C04_1, 0x0C84_000C84_1, 0x1878_001878_1,
    0x1C90_001CBA_1, 0x1CBD_001CBF_1, 0x2BBA_002BBC_1, 0x2BD3_002BEB_1, 0x2BF0_002BFE_1,
    0x2E4A_002E4E_1, 0x312F_00312F_1, 0x9FEB_009FEF_1, 0xA7AF_00A7AF_1, 0xA7B8_00A7B9_1,
    0xA8FE_00A8FF_1, 0x10A34_010A35_1, 0x10A48_010A48_1, 0x10D00_010D27_1, 0x10D30_010D39_1,
    0x10F00_010F27_1, 0x10F30_010F59_1, 0x110CD_0110CD_1, 0x11144_011146_1, 0x1133B_01133B_1,
    0x1145E_01145E_1, 0x1171A_01171A_1, 0x11800_01183B_1, 0x11A9D_011A9D_1, 0x11D60_011D65_1,
    0x11D67_011D68_1, 0x11D6A_011D8E_1, 0x11D90_011D91_1, 0x11D93_011D98_1, 0x11DA0_011DA9_1,
    0x11EE0_011EF8_1, 0x16E40_016E9A_1, 0x187ED_0187F1_1, 0x1D2E0_01D2F3_1, 0x1D372_01D378_1,
    0x1EC71_01ECB4_1, 0x1F12F_01F12F_1, 0x1F6F9_01F6F9_1, 0x1F7D5_01F7D8_1, 0x1F94D_01F94F_1,
    0x1F96C_01F970_1, 0x1F973_01F976_1, 0x1F97A_01F97A_1, 0x1F97C_01F97F_1, 0x1F998_01F9A2_1,
    0x1F9B0_01F9B9_1, 0x1F9C1_01F9C2_1, 0x1F9E7_01F9FF_1, 0x1FA60_01FA6D_1]

/-- Version 12.0. -/
def Age.v12Point0 : Age where
  names := ["12.0", "v120"]
  added := Run.ofCodes [
    0x0C77_000C77_1, 0x0E86_000E8C_3, 0x0E8E_000E93_1, 0x0E98_000E98_1, 0x0EA0_000EA0_1,
    0x0EA8_000EA9_1, 0x0EAC_000EAC_1, 0x0EBA_000EBA_1, 0x1CFA_001CFA_1, 0x2BC9_002BC9_1,
    0x2BFF_002BFF_1, 0x2E4F_002E4F_1, 0xA7BA_00A7BF_1, 0xA7C2_00A7C6_1, 0xAB66_00AB67_1,
    0x10FE0_010FF6_1, 0x1145F_01145F_1, 0x116B8_0116B8_1, 0x119A0_0119A7_1, 0x119AA_0119D7_1,
    0x119DA_0119E4_1, 0x11A84_011A85_1, 0x11FC0_011FF1_1, 0x11FFF_011FFF_1, 0x13430_013438_1,
    0x16F45_016F4A_1, 0x16F4F_016F4F_1, 0x16F7F_016F87_1, 0x16FE2_016FE3_1, 0x187F2_0187F7_1,
    0x1B150_01B152_1, 0x1B164_01B167_1, 0x1E100_01E12C_1, 0x1E130_01E13D_1, 0x1E140_01E149_1,
    0x1E14E_01E14F_1, 0x1E2C0_01E2F9_1, 0x1E2FF_01E2FF_1, 0x1E94B_01E94B_1, 0x1ED01_01ED3D_1,
    0x1F16C_01F16C_1, 0x1F6D5_01F6D5_1, 0x1F6FA_01F6FA_1, 0x1F7E0_01F7EB_1, 0x1F90D_01F90F_1,
    0x1F93F_01F93F_1, 0x1F971_01F971_1, 0x1F97B_01F97B_1, 0x1F9A5_01F9AA_1, 0x1F9AE_01F9AF_1,
    0x1F9BA_01F9BF_1, 0x1F9C3_01F9CA_1, 0x1F9CD_01F9CF_1, 0x1FA00_01FA53_1, 0x1FA70_01FA73_1,
    0x1FA78_01FA7A_1, 0x1FA80_01FA82_1, 0x1FA90_01FA95_1]

/-- Version 12.1. -/
def Age.v12Point1 : Age where
  names := ["12.1", "v121"]
  added := Run.ofCodes [
    0x32FF_0032FF_1]

/-- Version 13.0. -/
def Age.v13Point0 : Age where
  names := ["13.0", "v130"]
  added := Run.ofCodes [
    0x08BE_0008C7_1, 0x0B55_000B55_1, 0x0D04_000D04_1, 0x0D81_000D81_1, 0x1ABF_001AC0_1,
    0x2B97_002B97_1, 0x2E50_002E52_1, 0x31BB_0031BF_1, 0x4DB6_004DBF_1, 0x9FF0_009FFC_1,
    0xA7C7_00A7CA_1, 0xA7F5_00A7F6_1, 0xA82C_00A82C_1, 0xAB68_00AB6B_1, 0x1019C_01019C_1,
    0x10E80_010EA9_1, 0x10EAB_010EAD_1, 0x10EB0_010EB1_1, 0x10FB0_010FCB_1, 0x11147_011147_1,
    0x111CE_0111CF_1, 0x1145A_01145A_1, 0x11460_011461_1, 0x11900_011906_1, 0x11909_011909_1,
    0x1190C_011913_1, 0x11915_011916_1, 0x11918_011935_1, 0x11937_011938_1, 0x1193B_011946_1,
    0x11950_011959_1, 0x11FB0_011FB0_1, 0x16FE4_016FE4_1, 0x16FF0_016FF1_1, 0x18AF3_018CD5_1,
    0x18D00_018D08_1, 0x1F10D_01F10F_1, 0x1F16D_01F16F_1, 0x1F1AD_01F1AD_1, 0x1F6D6_01F6D7_1,
    0x1F6FB_01F6FC_1, 0x1F8B0_01F8B1_1, 0x1F90C_01F90C_1, 0x1F972_01F972_1, 0x1F977_01F978_1,
    0x1F9A3_01F9A4_1, 0x1F9AB_01F9AD_1, 0x1F9CB_01F9CB_1, 0x1FA74_01FA74_1, 0x1FA83_01FA86_1,
    0x1FA96_01FAA8_1, 0x1FAB0_01FAB6_1, 0x1FAC0_01FAC2_1, 0x1FAD0_01FAD6_1, 0x1FB00_01FB92_1,
    0x1FB94_01FBCA_1, 0x1FBF0_01FBF9_1, 0x2A6D7_02A6DD_1, 0x30000_03134A_1]

/-- Version 14.0. -/
def Age.v14Point0 : Age where
  names := ["14.0", "v140"]
  added := Run.ofCodes [
    0x061D_00061D_1, 0x0870_00088E_1, 0x0890_000891_1, 0x0898_00089F_1, 0x08B5_0008B5_1,
    0x08C8_0008D2_1, 0x0C3C_000C3C_1, 0x0C5D_000C5D_1, 0x0CDD_000CDD_1, 0x170D_00170D_1,
    0x1715_001715_1, 0x171F_00171F_1, 0x180F_00180F_1, 0x1AC1_001ACE_1, 0x1B4C_001B4C_1,
    0x1B7D_001B7E_1, 0x1DFA_001DFA_1, 0x20C0_0020C0_1, 0x2C2F_002C2F_1, 0x2C5F_002C5F_1,
    0x2E53_002E5D_1, 0x9FFD_009FFF_1, 0xA7C0_00A7C1_1, 0xA7D0_00A7D1_1, 0xA7D3_00A7D3_1,
    0xA7D5_00A7D9_1, 0xA7F2_00A7F4_1, 0xFBC2_00FBC2_1, 0xFD40_00FD4F_1, 0xFDCF_00FDCF_1,
    0xFDFE_00FDFF_1, 0x10570_01057A_1, 0x1057C_01058A_1, 0x1058C_010592_1, 0x10594_010595_1,
    0x10597_0105A1_1, 0x105A3_0105B1_1, 0x105B3_0105B9_1, 0x105BB_0105BC_1, 0x10780_010785_1,
    0x10787_0107B0_1, 0x107B2_0107BA_1, 0x10F70_010F89_1, 0x11070_011075_1, 0x110C2_0110C2_1,
    0x116B9_0116B9_1, 0x11740_011746_1, 0x11AB0_011ABF_1, 0x12F90_012FF2_1, 0x16A70_016ABE_1,
    0x16AC0_016AC9_1, 0x1AFF0_01AFF3_1, 0x1AFF5_01AFFB_1, 0x1AFFD_01AFFE_1, 0x1B11F_01B122_1,
    0x1CF00_01CF2D_1, 0x1CF30_01CF46_1, 0x1CF50_01CFC3_1, 0x1D1E9_01D1EA_1, 0x1DF00_01DF1E_1,
    0x1E290_01E2AE_1, 0x1E7E0_01E7E6_1, 0x1E7E8_01E7EB_1, 0x1E7ED_01E7EE_1, 0x1E7F0_01E7FE_1,
    0x1F6DD_01F6DF_1, 0x1F7F0_01F7F0_1, 0x1F979_01F979_1, 0x1F9CC_01F9CC_1, 0x1FA7B_01FA7C_1,
    0x1FAA9_01FAAC_1, 0x1FAB7_01FABA_1, 0x1FAC3_01FAC5_1, 0x1FAD7_01FAD9_1, 0x1FAE0_01FAE7_1,
    0x1FAF0_01FAF6_1, 0x2A6DE_02A6DF_1, 0x2B735_02B738_1]

/-- Version 15.0. -/
def Age.v15Point0 : Age where
  names := ["15.0", "v150"]
  added := Run.ofCodes [
    0x0CF3_000CF3_1, 0x0ECE_000ECE_1, 0x10EFD_010EFF_1, 0x1123F_011241_1, 0x11B00_011B09_1,
    0x11F00_011F10_1, 0x11F12_011F3A_1, 0x11F3E_011F59_1, 0x1342F_01342F_1, 0x13439_013455_1,
    0x1B132_01B132_1, 0x1B155_01B155_1, 0x1D2C0_01D2D3_1, 0x1DF25_01DF2A_1, 0x1E030_01E06D_1,
    0x1E08F_01E08F_1, 0x1E4D0_01E4F9_1, 0x1F6DC_01F6DC_1, 0x1F774_01F776_1, 0x1F77B_01F77F_1,
    0x1F7D9_01F7D9_1, 0x1FA75_01FA77_1, 0x1FA87_01FA88_1, 0x1FAAD_01FAAF_1, 0x1FABB_01FABD_1,
    0x1FABF_01FABF_1, 0x1FACE_01FACF_1, 0x1FADA_01FADB_1, 0x1FAE8_01FAE8_1, 0x1FAF7_01FAF8_1,
    0x2B739_02B739_1, 0x31350_0323AF_1]

/-- Version 15.1. -/
def Age.v15Point1 : Age where
  names := ["15.1", "v151"]
  added := Run.ofCodes [
    0x2FFC_002FFF_1, 0x31EF_0031EF_1, 0x2EBF0_02EE5D_1]

/-- Version 16.0. -/
def Age.v16Point0 : Age where
  names := ["16.0", "v160"]
  added := Run.ofCodes [
    0x0897_000897_1, 0x1B4E_001B4F_1, 0x1B7F_001B7F_1, 0x1C89_001C8A_1, 0x2427_002429_1,
    0x31E4_0031E5_1, 0xA7CB_00A7CD_1, 0xA7DA_00A7DC_1, 0x105C0_0105F3_1, 0x10D40_010D65_1,
    0x10D69_010D85_1, 0x10D8E_010D8F_1, 0x10EC2_010EC4_1, 0x10EFC_010EFC_1, 0x11380_011389_1,
    0x1138B_01138B_1, 0x1138E_01138E_1, 0x11390_0113B5_1, 0x113B7_0113C0_1, 0x113C2_0113C2_1,
    0x113C5_0113C5_1, 0x113C7_0113CA_1, 0x113CC_0113D5_1, 0x113D7_0113D8_1, 0x113E1_0113E2_1,
    0x116D0_0116E3_1, 0x11BC0_011BE1_1, 0x11BF0_011BF9_1, 0x11F5A_011F5A_1, 0x13460_0143FA_1,
    0x16100_016139_1, 0x16D40_016D79_1, 0x18CFF_018CFF_1, 0x1CC00_01CCF9_1, 0x1CD00_01CEB3_1,
    0x1E5D0_01E5FA_1, 0x1E5FF_01E5FF_1, 0x1F8B2_01F8BB_1, 0x1F8C0_01F8C1_1, 0x1FA89_01FA89_1,
    0x1FA8F_01FA8F_1, 0x1FABE_01FABE_1, 0x1FAC6_01FAC6_1, 0x1FADC_01FADC_1, 0x1FADF_01FADF_1,
    0x1FAE9_01FAE9_1, 0x1FBCB_01FBEF_1]

/-- The versions of the standard, the oldest first. -/
def ages : List Age := [
  Age.v1Point1, Age.v2Point0, Age.v2Point1, Age.v3Point0, Age.v3Point1, Age.v3Point2, Age.v4Point0,
  Age.v4Point1, Age.v5Point0, Age.v5Point1, Age.v5Point2, Age.v6Point0, Age.v6Point1, Age.v6Point2,
  Age.v6Point3, Age.v7Point0, Age.v8Point0, Age.v9Point0, Age.v10Point0, Age.v11Point0,
  Age.v12Point0, Age.v12Point1, Age.v13Point0, Age.v14Point0, Age.v15Point0, Age.v15Point1,
  Age.v16Point0]

end AdFilter.Text
