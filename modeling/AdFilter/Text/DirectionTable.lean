import AdFilter.Text.Run

/-!
# Direction and joining of characters

The classes of the bidirectional algorithm and of cursive joining, version 16 of the standard.
Characters on none of the direction lists run from left to right; nonspacing marks are told by
their category.
-/

namespace AdFilter.Text.DirectionTable

/-- Letters written from right to left, apart from the Arabic ones. -/
def rightToLeft : List Run := Run.ofCodes [
  0x05BE_0005BE_1, 0x05C0_0005C6_3, 0x05D0_0005EA_1, 0x05EF_0005F4_1, 0x07C0_0007EA_1,
  0x07F4_0007F5_1, 0x07FA_0007FA_1, 0x07FE_000815_1, 0x081A_00081A_1, 0x0824_000824_1,
  0x0828_000828_1, 0x0830_00083E_1, 0x0840_000858_1, 0x085E_00085E_1, 0x200F_00200F_1,
  0xFB1D_00FB1D_1, 0xFB1F_00FB28_1, 0xFB2A_00FB36_1, 0xFB38_00FB3C_1, 0xFB3E_00FB3E_1,
  0xFB40_00FB41_1, 0xFB43_00FB44_1, 0xFB46_00FB4F_1, 0x10800_010805_1, 0x10808_010808_1,
  0x1080A_010835_1, 0x10837_010838_1, 0x1083C_01083C_1, 0x1083F_010855_1, 0x10857_01089E_1,
  0x108A7_0108AF_1, 0x108E0_0108F2_1, 0x108F4_0108F5_1, 0x108FB_01091B_1, 0x10920_010939_1,
  0x1093F_01093F_1, 0x10980_0109B7_1, 0x109BC_0109CF_1, 0x109D2_010A00_1, 0x10A10_010A13_1,
  0x10A15_010A17_1, 0x10A19_010A35_1, 0x10A40_010A48_1, 0x10A50_010A58_1, 0x10A60_010A9F_1,
  0x10AC0_010AE4_1, 0x10AEB_010AF6_1, 0x10B00_010B35_1, 0x10B40_010B55_1, 0x10B58_010B72_1,
  0x10B78_010B91_1, 0x10B99_010B9C_1, 0x10BA9_010BAF_1, 0x10C00_010C48_1, 0x10C80_010CB2_1,
  0x10CC0_010CF2_1, 0x10CFA_010CFF_1, 0x10D40_010D65_1, 0x10D6E_010D85_1, 0x10D8E_010D8F_1,
  0x10E80_010EA9_1, 0x10EAD_010EAD_1, 0x10EB0_010EB1_1, 0x10F00_010F27_1, 0x10F70_010F81_1,
  0x10F86_010F89_1, 0x10FB0_010FCB_1, 0x10FE0_010FF6_1, 0x1E800_01E8C4_1, 0x1E8C7_01E8CF_1,
  0x1E900_01E943_1, 0x1E94B_01E94B_1, 0x1E950_01E959_1, 0x1E95E_01E95F_1]

/-- Letters of the Arabic and related scripts. -/
def arabicLetter : List Run := Run.ofCodes [
  0x0608_000608_1, 0x060B_00060B_1, 0x060D_00060D_1, 0x061B_00064A_1, 0x066D_00066F_1,
  0x0671_0006D5_1, 0x06E5_0006E6_1, 0x06EE_0006EF_1, 0x06FA_00070D_1, 0x070F_000710_1,
  0x0712_00072F_1, 0x074D_0007A5_1, 0x07B1_0007B1_1, 0x0860_00086A_1, 0x0870_00088E_1,
  0x08A0_0008C9_1, 0xFB50_00FBC2_1, 0xFBD3_00FD3D_1, 0xFD50_00FD8F_1, 0xFD92_00FDC7_1,
  0xFDF0_00FDFC_1, 0xFE70_00FE74_1, 0xFE76_00FEFC_1, 0x10D00_010D23_1, 0x10EC2_010EC4_1,
  0x10F30_010F45_1, 0x10F51_010F59_1, 0x1EC71_01ECB4_1, 0x1ED01_01ED3D_1, 0x1EE00_01EE03_1,
  0x1EE05_01EE1F_1, 0x1EE21_01EE22_1, 0x1EE24_01EE24_1, 0x1EE27_01EE27_1, 0x1EE29_01EE32_1,
  0x1EE34_01EE37_1, 0x1EE39_01EE39_1, 0x1EE3B_01EE3B_1, 0x1EE42_01EE42_1, 0x1EE47_01EE4B_2,
  0x1EE4D_01EE4F_1, 0x1EE51_01EE52_1, 0x1EE54_01EE54_1, 0x1EE57_01EE5F_2, 0x1EE61_01EE62_1,
  0x1EE64_01EE64_1, 0x1EE67_01EE6A_1, 0x1EE6C_01EE72_1, 0x1EE74_01EE77_1, 0x1EE79_01EE7C_1,
  0x1EE7E_01EE7E_1, 0x1EE80_01EE89_1, 0x1EE8B_01EE9B_1, 0x1EEA1_01EEA3_1, 0x1EEA5_01EEA9_1,
  0x1EEAB_01EEBB_1]

/-- Arabic digits. -/
def arabicNumber : List Run := Run.ofCodes [
  0x0600_000605_1, 0x0660_000669_1, 0x066B_00066C_1, 0x06DD_0006DD_1, 0x0890_000891_1,
  0x08E2_0008E2_1, 0x10D30_010D39_1, 0x10E60_010E7E_1]

/-- European digits. -/
def europeanNumber : List Run := Run.ofCodes [
  0x0030_000039_1, 0x00B2_0000B3_1, 0x00B9_0000B9_1, 0x06F0_0006F9_1, 0x2070_002070_1,
  0x2074_002079_1, 0x2080_002089_1, 0x2488_00249B_1, 0xFF10_00FF19_1, 0x102E1_0102FB_1,
  0x1CCF0_01CCF9_1, 0x1D7CE_01D7FF_1, 0x1F100_01F10A_1, 0x1FBF0_01FBF9_1]

/-- Signs in front of European numbers. -/
def europeanSeparator : List Run := Run.ofCodes [
  0x002B_00002B_1, 0x002D_00002D_1, 0x207A_00207B_1, 0x208A_00208B_1, 0x2212_002212_1,
  0xFB29_00FB29_1, 0xFE62_00FE63_1, 0xFF0B_00FF0B_1, 0xFF0D_00FF0D_1]

/-- Separators inside numbers. -/
def commonSeparator : List Run := Run.ofCodes [
  0x002C_00002C_1, 0x002E_00002F_1, 0x003A_00003A_1, 0x00A0_0000A0_1, 0x060C_00060C_1,
  0x202F_00202F_1, 0x2044_002044_1, 0xFE50_00FE50_1, 0xFE52_00FE52_1, 0xFE55_00FE55_1,
  0xFF0C_00FF0C_1, 0xFF0E_00FF0F_1, 0xFF1A_00FF1A_1]

/-- Signs beside European numbers. -/
def europeanTerminator : List Run := Run.ofCodes [
  0x0023_000025_1, 0x00A2_0000A5_1, 0x00B0_0000B1_1, 0x058F_00058F_1, 0x0609_00060A_1,
  0x066A_00066A_1, 0x09F2_0009F3_1, 0x09FB_0009FB_1, 0x0AF1_000AF1_1, 0x0BF9_000BF9_1,
  0x0E3F_000E3F_1, 0x17DB_0017DB_1, 0x2030_002034_1, 0x20A0_0020C0_1, 0x212E_00212E_1,
  0x2213_002213_1, 0xA838_00A839_1, 0xFE5F_00FE5F_1, 0xFE69_00FE6A_1, 0xFF03_00FF05_1,
  0xFFE0_00FFE1_1, 0xFFE5_00FFE6_1, 0x11FDD_011FE0_1, 0x1E2FF_01E2FF_1]

/-- Invisible controls. -/
def boundaryNeutral : List Run := Run.ofCodes [
  0x0000_000008_1, 0x000E_00001B_1, 0x007F_000084_1, 0x0086_00009F_1, 0x00AD_0000AD_1,
  0x180E_00180E_1, 0x200B_00200D_1, 0x2060_002064_1, 0x206A_00206F_1, 0xFEFF_00FEFF_1,
  0x1BCA0_01BCA3_1, 0x1D173_01D17A_1, 0xE0001_0E0001_1, 0xE0020_0E007F_1]

/-- Symbols and punctuation without a direction. -/
def otherNeutral : List Run := Run.ofCodes [
  0x0021_000022_1, 0x0026_00002A_1, 0x003B_000040_1, 0x005B_000060_1, 0x007B_00007E_1,
  0x00A1_0000A1_1, 0x00A6_0000A9_1, 0x00AB_0000AC_1, 0x00AE_0000AF_1, 0x00B4_0000B4_1,
  0x00B6_0000B8_1, 0x00BB_0000BF_1, 0x00D7_0000D7_1, 0x00F7_0000F7_1, 0x02B9_0002BA_1,
  0x02C2_0002CF_1, 0x02D2_0002DF_1, 0x02E5_0002ED_1, 0x02EF_0002FF_1, 0x0374_000375_1,
  0x037E_00037E_1, 0x0384_000385_1, 0x0387_000387_1, 0x03F6_0003F6_1, 0x058A_00058A_1,
  0x058D_00058E_1, 0x0606_000607_1, 0x060E_00060F_1, 0x06DE_0006DE_1, 0x06E9_0006E9_1,
  0x07F6_0007F9_1, 0x0BF3_000BF8_1, 0x0BFA_000BFA_1, 0x0C78_000C7E_1, 0x0F3A_000F3D_1,
  0x1390_001399_1, 0x1400_001400_1, 0x169B_00169C_1, 0x17F0_0017F9_1, 0x1800_00180A_1,
  0x1940_001940_1, 0x1944_001945_1, 0x19DE_0019FF_1, 0x1FBD_001FBD_1, 0x1FBF_001FC1_1,
  0x1FCD_001FCF_1, 0x1FDD_001FDF_1, 0x1FED_001FEF_1, 0x1FFD_001FFE_1, 0x2010_002027_1,
  0x2035_002043_1, 0x2045_00205E_1, 0x207C_00207E_1, 0x208C_00208E_1, 0x2100_002101_1,
  0x2103_002106_1, 0x2108_002109_1, 0x2114_002114_1, 0x2116_002118_1, 0x211E_002123_1,
  0x2125_002129_2, 0x213A_00213B_1, 0x2140_002144_1, 0x214A_00214D_1, 0x2150_00215F_1,
  0x2189_00218B_1, 0x2190_002211_1, 0x2214_002335_1, 0x237B_002394_1, 0x2396_002429_1,
  0x2440_00244A_1, 0x2460_002487_1, 0x24EA_0026AB_1, 0x26AD_0027FF_1, 0x2900_002B73_1,
  0x2B76_002B95_1, 0x2B97_002BFF_1, 0x2CE5_002CEA_1, 0x2CF9_002CFF_1, 0x2E00_002E5D_1,
  0x2E80_002E99_1, 0x2E9B_002EF3_1, 0x2F00_002FD5_1, 0x2FF0_002FFF_1, 0x3001_003004_1,
  0x3008_003020_1, 0x3030_003030_1, 0x3036_003037_1, 0x303D_00303F_1, 0x309B_00309C_1,
  0x30A0_0030A0_1, 0x30FB_0030FB_1, 0x31C0_0031E5_1, 0x31EF_0031EF_1, 0x321D_00321E_1,
  0x3250_00325F_1, 0x327C_00327E_1, 0x32B1_0032BF_1, 0x32CC_0032CF_1, 0x3377_00337A_1,
  0x33DE_0033DF_1, 0x33FF_0033FF_1, 0x4DC0_004DFF_1, 0xA490_00A4C6_1, 0xA60D_00A60F_1,
  0xA673_00A673_1, 0xA67E_00A67F_1, 0xA700_00A721_1, 0xA788_00A788_1, 0xA828_00A82B_1,
  0xA874_00A877_1, 0xAB6A_00AB6B_1, 0xFD3E_00FD4F_1, 0xFDCF_00FDCF_1, 0xFDFD_00FDFF_1,
  0xFE10_00FE19_1, 0xFE30_00FE4F_1, 0xFE51_00FE51_1, 0xFE54_00FE54_1, 0xFE56_00FE5E_1,
  0xFE60_00FE61_1, 0xFE64_00FE66_1, 0xFE68_00FE68_1, 0xFE6B_00FE6B_1, 0xFF01_00FF02_1,
  0xFF06_00FF0A_1, 0xFF1B_00FF20_1, 0xFF3B_00FF40_1, 0xFF5B_00FF65_1, 0xFFE2_00FFE4_1,
  0xFFE8_00FFEE_1, 0xFFF9_00FFFD_1, 0x10101_010101_1, 0x10140_01018C_1, 0x10190_01019C_1,
  0x101A0_0101A0_1, 0x1091F_01091F_1, 0x10B39_010B3F_1, 0x11052_011065_1, 0x11660_01166C_1,
  0x11FD5_011FDC_1, 0x11FE1_011FF1_1, 0x16FE2_016FE2_1, 0x1CC00_01CCEF_1, 0x1CD00_01CEB3_1,
  0x1D1E9_01D1EA_1, 0x1D200_01D241_1, 0x1D245_01D245_1, 0x1D300_01D356_1, 0x1D6DB_01D6DB_1,
  0x1D715_01D715_1, 0x1D74F_01D74F_1, 0x1D789_01D789_1, 0x1D7C3_01D7C3_1, 0x1EEF0_01EEF1_1,
  0x1F000_01F02B_1, 0x1F030_01F093_1, 0x1F0A0_01F0AE_1, 0x1F0B1_01F0BF_1, 0x1F0C1_01F0CF_1,
  0x1F0D1_01F0F5_1, 0x1F10B_01F10F_1, 0x1F12F_01F12F_1, 0x1F16A_01F16F_1, 0x1F1AD_01F1AD_1,
  0x1F260_01F265_1, 0x1F300_01F6D7_1, 0x1F6DC_01F6EC_1, 0x1F6F0_01F6FC_1, 0x1F700_01F776_1,
  0x1F77B_01F7D9_1, 0x1F7E0_01F7EB_1, 0x1F7F0_01F7F0_1, 0x1F800_01F80B_1, 0x1F810_01F847_1,
  0x1F850_01F859_1, 0x1F860_01F887_1, 0x1F890_01F8AD_1, 0x1F8B0_01F8BB_1, 0x1F8C0_01F8C1_1,
  0x1F900_01FA53_1, 0x1FA60_01FA6D_1, 0x1FA70_01FA7C_1, 0x1FA80_01FA89_1, 0x1FA8F_01FAC6_1,
  0x1FACE_01FADC_1, 0x1FADF_01FAE9_1, 0x1FAF0_01FAF8_1, 0x1FB00_01FB92_1, 0x1FB94_01FBEF_1]

/-- Nonspacing marks with the direction of letters from left to right. -/
def leftToRightMark : List Run := Run.ofCodes [
  0x0CBF_000CBF_1, 0x0CC6_000CC6_1, 0x11A07_011A08_1, 0x11C3F_011C3F_1]

/-- Letters that join on both sides. -/
def joinsBoth : List Run := Run.ofCodes [
  0x0620_000620_1, 0x0626_000626_1, 0x0628_000628_1, 0x062A_00062E_1, 0x0633_00063F_1,
  0x0641_000647_1, 0x0649_00064A_1, 0x066E_00066F_1, 0x0678_000687_1, 0x069A_0006BF_1,
  0x06C1_0006C2_1, 0x06CC_0006CC_1, 0x06CE_0006CE_1, 0x06D0_0006D1_1, 0x06FA_0006FC_1,
  0x06FF_0006FF_1, 0x0712_000714_1, 0x071A_00071D_1, 0x071F_000727_1, 0x0729_000729_1,
  0x072B_00072B_1, 0x072D_00072E_1, 0x074E_000758_1, 0x075C_00076A_1, 0x076D_000770_1,
  0x0772_000772_1, 0x0775_000777_1, 0x077A_00077F_1, 0x07CA_0007EA_1, 0x0841_000845_1,
  0x0848_000848_1, 0x084A_000853_1, 0x0855_000855_1, 0x0860_000860_1, 0x0862_000865_1,
  0x0868_000868_1, 0x0886_000886_1, 0x0889_00088D_1, 0x08A0_0008A9_1, 0x08AF_0008B0_1,
  0x08B3_0008B8_1, 0x08BA_0008C8_1, 0x1807_001807_1, 0x1820_001878_1, 0x1887_0018A8_1,
  0x18AA_0018AA_1, 0xA840_00A871_1, 0x10AC0_010AC4_1, 0x10AD3_010AD6_1, 0x10AD8_010ADC_1,
  0x10ADE_010AE0_1, 0x10AEB_010AEE_1, 0x10B80_010B80_1, 0x10B82_010B82_1, 0x10B86_010B88_1,
  0x10B8A_010B8B_1, 0x10B8D_010B8D_1, 0x10B90_010B90_1, 0x10BAD_010BAE_1, 0x10D01_010D21_1,
  0x10D23_010D23_1, 0x10EC3_010EC4_1, 0x10F30_010F32_1, 0x10F34_010F44_1, 0x10F51_010F53_1,
  0x10F70_010F73_1, 0x10F76_010F81_1, 0x10FB0_010FB0_1, 0x10FB2_010FB3_1, 0x10FB8_010FB8_1,
  0x10FBB_010FBC_1, 0x10FBE_010FBF_1, 0x10FC1_010FC1_1, 0x10FC4_010FC4_1, 0x10FCA_010FCA_1,
  0x1E900_01E943_1]

/-- Letters that join the letter on their right. -/
def joinsRight : List Run := Run.ofCodes [
  0x0622_000625_1, 0x0627_000627_1, 0x0629_000629_1, 0x062F_000632_1, 0x0648_000648_1,
  0x0671_000673_1, 0x0675_000677_1, 0x0688_000699_1, 0x06C0_0006C0_1, 0x06C3_0006CB_1,
  0x06CD_0006CD_1, 0x06CF_0006CF_1, 0x06D2_0006D3_1, 0x06D5_0006D5_1, 0x06EE_0006EF_1,
  0x0710_000710_1, 0x0715_000719_1, 0x071E_00071E_1, 0x0728_00072C_2, 0x072F_00072F_1,
  0x074D_00074D_1, 0x0759_00075B_1, 0x076B_00076C_1, 0x0771_000771_1, 0x0773_000774_1,
  0x0778_000779_1, 0x0840_000840_1, 0x0846_000847_1, 0x0849_000849_1, 0x0854_000854_1,
  0x0856_000858_1, 0x0867_000867_1, 0x0869_00086A_1, 0x0870_000882_1, 0x088E_00088E_1,
  0x08AA_0008AC_1, 0x08AE_0008AE_1, 0x08B1_0008B2_1, 0x08B9_0008B9_1, 0x10AC5_010AC5_1,
  0x10AC7_010AC7_1, 0x10AC9_010ACA_1, 0x10ACE_010AD2_1, 0x10ADD_010ADD_1, 0x10AE1_010AE1_1,
  0x10AE4_010AE4_1, 0x10AEF_010AEF_1, 0x10B81_010B81_1, 0x10B83_010B85_1, 0x10B89_010B89_1,
  0x10B8C_010B8C_1, 0x10B8E_010B8F_1, 0x10B91_010B91_1, 0x10BA9_010BAC_1, 0x10D22_010D22_1,
  0x10EC2_010EC2_1, 0x10F33_010F33_1, 0x10F54_010F54_1, 0x10F74_010F75_1, 0x10FB4_010FB6_1,
  0x10FB9_010FBA_1, 0x10FBD_010FBD_1, 0x10FC2_010FC3_1, 0x10FC9_010FC9_1]

/-- Letters that join the letter on their left. -/
def joinsLeft : List Run := Run.ofCodes [
  0xA872_00A872_1, 0x10ACD_010ACD_1, 0x10AD7_010AD7_1, 0x10D00_010D00_1, 0x10FCB_010FCB_1]

/-- Letters that joining looks through. -/
def transparentExtra : List Run := Run.ofCodes [
  0x1E94B_01E94B_1]

/-- Format characters that joining does not look through. -/
def joiningFormat : List Run := Run.ofCodes [
  0x0600_000605_1, 0x06DD_0006DD_1, 0x0890_000891_1, 0x08E2_0008E2_1, 0x180E_00180E_1,
  0x200C_00200D_1, 0x2066_002069_1, 0x110BD_0110BD_1, 0x110CD_0110CD_1]

end AdFilter.Text.DirectionTable
