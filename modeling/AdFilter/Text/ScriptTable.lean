import AdFilter.Text.Run

/-!
# The scripts as runs

For each script of version 16 of the standard its names, the characters that belong to it, and the
characters of other scripts that it uses as well.
-/

namespace AdFilter.Text

/-- A script under its folded names: its own characters, and those it shares with other scripts
though they belong to none or to another one. -/
structure Script where
  names : List String
  own : List Run
  shared : List Run

def Script.adlam : Script where
  names := ["adlam", "adlm"]
  own := Run.ofCodes [
    0x1E900_01E94B_1, 0x1E950_01E959_1, 0x1E95E_01E95F_1]
  shared := Run.ofCodes [
    0x061F_00061F_1, 0x0640_000640_1, 0x204F_00204F_1, 0x2E41_002E41_1]

def Script.ahom : Script where
  names := ["ahom"]
  own := Run.ofCodes [
    0x11700_01171A_1, 0x1171D_01172B_1, 0x11730_011746_1]
  shared := []

def Script.anatolianHieroglyphs : Script where
  names := ["anatolianhieroglyphs", "hluw"]
  own := Run.ofCodes [
    0x14400_014646_1]
  shared := []

def Script.arabic : Script where
  names := ["arabic", "arab"]
  own := Run.ofCodes [
    0x0600_000604_1, 0x0606_00060B_1, 0x060D_00061A_1, 0x061C_00061E_1, 0x0620_00063F_1,
    0x0641_00064A_1, 0x0656_00066F_1, 0x0671_0006DC_1, 0x06DE_0006FF_1, 0x0750_00077F_1,
    0x0870_00088E_1, 0x0890_000891_1, 0x0897_0008E1_1, 0x08E3_0008FF_1, 0xFB50_00FBC2_1,
    0xFBD3_00FD3D_1, 0xFD40_00FD8F_1, 0xFD92_00FDC7_1, 0xFDCF_00FDCF_1, 0xFDF0_00FDFF_1,
    0xFE70_00FE74_1, 0xFE76_00FEFC_1, 0x10E60_010E7E_1, 0x10EC2_010EC4_1, 0x10EFC_010EFF_1,
    0x1EE00_01EE03_1, 0x1EE05_01EE1F_1, 0x1EE21_01EE22_1, 0x1EE24_01EE24_1, 0x1EE27_01EE27_1,
    0x1EE29_01EE32_1, 0x1EE34_01EE37_1, 0x1EE39_01EE39_1, 0x1EE3B_01EE3B_1, 0x1EE42_01EE42_1,
    0x1EE47_01EE4B_2, 0x1EE4D_01EE4F_1, 0x1EE51_01EE52_1, 0x1EE54_01EE54_1, 0x1EE57_01EE5F_2,
    0x1EE61_01EE62_1, 0x1EE64_01EE64_1, 0x1EE67_01EE6A_1, 0x1EE6C_01EE72_1, 0x1EE74_01EE77_1,
    0x1EE79_01EE7C_1, 0x1EE7E_01EE7E_1, 0x1EE80_01EE89_1, 0x1EE8B_01EE9B_1, 0x1EEA1_01EEA3_1,
    0x1EEA5_01EEA9_1, 0x1EEAB_01EEBB_1, 0x1EEF0_01EEF1_1]
  shared := Run.ofCodes [
    0x060C_00060C_1, 0x061B_00061B_1, 0x061F_00061F_1, 0x0640_000640_1, 0x064B_000655_1,
    0x0670_000670_1, 0x204F_00204F_1, 0x2E41_002E41_1, 0xFD3E_00FD3F_1, 0x102E0_0102FB_1]

def Script.armenian : Script where
  names := ["armenian", "armn"]
  own := Run.ofCodes [
    0x0531_000556_1, 0x0559_00058A_1, 0x058D_00058F_1, 0xFB13_00FB17_1]
  shared := Run.ofCodes [
    0x0308_000308_1]

def Script.avestan : Script where
  names := ["avestan", "avst"]
  own := Run.ofCodes [
    0x10B00_010B35_1, 0x10B39_010B3F_1]
  shared := Run.ofCodes [
    0x00B7_0000B7_1, 0x2E30_002E31_1]

def Script.balinese : Script where
  names := ["balinese", "bali"]
  own := Run.ofCodes [
    0x1B00_001B4C_1, 0x1B4E_001B7F_1]
  shared := []

def Script.bamum : Script where
  names := ["bamum", "bamu"]
  own := Run.ofCodes [
    0xA6A0_00A6F7_1, 0x16800_016A38_1]
  shared := []

def Script.bassaVah : Script where
  names := ["bassavah", "bass"]
  own := Run.ofCodes [
    0x16AD0_016AED_1, 0x16AF0_016AF5_1]
  shared := []

def Script.batak : Script where
  names := ["batak", "batk"]
  own := Run.ofCodes [
    0x1BC0_001BF3_1, 0x1BFC_001BFF_1]
  shared := []

def Script.bengali : Script where
  names := ["bengali", "beng"]
  own := Run.ofCodes [
    0x0980_000983_1, 0x0985_00098C_1, 0x098F_000990_1, 0x0993_0009A8_1, 0x09AA_0009B0_1,
    0x09B2_0009B2_1, 0x09B6_0009B9_1, 0x09BC_0009C4_1, 0x09C7_0009C8_1, 0x09CB_0009CE_1,
    0x09D7_0009D7_1, 0x09DC_0009DD_1, 0x09DF_0009E3_1, 0x09E6_0009FE_1]
  shared := Run.ofCodes [
    0x02BC_0002BC_1, 0x0951_000952_1, 0x0964_000965_1, 0x1CD0_001CD0_1, 0x1CD2_001CD2_1,
    0x1CD5_001CD6_1, 0x1CD8_001CEA_9, 0x1CED_001CED_1, 0x1CF2_001CF2_1, 0x1CF5_001CF7_1,
    0xA8F1_00A8F1_1]

def Script.bhaiksuki : Script where
  names := ["bhaiksuki", "bhks"]
  own := Run.ofCodes [
    0x11C00_011C08_1, 0x11C0A_011C36_1, 0x11C38_011C45_1, 0x11C50_011C6C_1]
  shared := []

def Script.bopomofo : Script where
  names := ["bopomofo", "bopo"]
  own := Run.ofCodes [
    0x02EA_0002EB_1, 0x3105_00312F_1, 0x31A0_0031BF_1]
  shared := Run.ofCodes [
    0x02C7_0002C7_1, 0x02C9_0002CB_1, 0x02D9_0002D9_1, 0x3001_003003_1, 0x3008_003011_1,
    0x3013_00301F_1, 0x302A_00302D_1, 0x3030_003030_1, 0x3037_003037_1, 0x30FB_0030FB_1,
    0xFE45_00FE46_1, 0xFF61_00FF65_1]

def Script.brahmi : Script where
  names := ["brahmi", "brah"]
  own := Run.ofCodes [
    0x11000_01104D_1, 0x11052_011075_1, 0x1107F_01107F_1]
  shared := []

def Script.braille : Script where
  names := ["braille", "brai"]
  own := Run.ofCodes [
    0x2800_0028FF_1]
  shared := []

def Script.buginese : Script where
  names := ["buginese", "bugi"]
  own := Run.ofCodes [
    0x1A00_001A1B_1, 0x1A1E_001A1F_1]
  shared := Run.ofCodes [
    0xA9CF_00A9CF_1]

def Script.buhid : Script where
  names := ["buhid", "buhd"]
  own := Run.ofCodes [
    0x1740_001753_1]
  shared := Run.ofCodes [
    0x1735_001736_1]

def Script.canadianAboriginal : Script where
  names := ["canadianaboriginal", "cans"]
  own := Run.ofCodes [
    0x1400_00167F_1, 0x18B0_0018F5_1, 0x11AB0_011ABF_1]
  shared := []

def Script.carian : Script where
  names := ["carian", "cari"]
  own := Run.ofCodes [
    0x102A0_0102D0_1]
  shared := Run.ofCodes [
    0x00B7_0000B7_1, 0x205A_00205A_1, 0x205D_00205D_1, 0x2E31_002E31_1]

def Script.caucasianAlbanian : Script where
  names := ["caucasianalbanian", "aghb"]
  own := Run.ofCodes [
    0x10530_010563_1, 0x1056F_01056F_1]
  shared := Run.ofCodes [
    0x0304_000304_1, 0x0331_000331_1, 0x035E_00035E_1]

def Script.chakma : Script where
  names := ["chakma", "cakm"]
  own := Run.ofCodes [
    0x11100_011134_1, 0x11136_011147_1]
  shared := Run.ofCodes [
    0x09E6_0009EF_1, 0x1040_001049_1]

def Script.cham : Script where
  names := ["cham"]
  own := Run.ofCodes [
    0xAA00_00AA36_1, 0xAA40_00AA4D_1, 0xAA50_00AA59_1, 0xAA5C_00AA5F_1]
  shared := []

def Script.cherokee : Script where
  names := ["cherokee", "cher"]
  own := Run.ofCodes [
    0x13A0_0013F5_1, 0x13F8_0013FD_1, 0xAB70_00ABBF_1]
  shared := Run.ofCodes [
    0x0300_000302_1, 0x0304_000304_1, 0x030B_00030C_1, 0x0323_000324_1, 0x0330_000331_1]

def Script.chorasmian : Script where
  names := ["chorasmian", "chrs"]
  own := Run.ofCodes [
    0x10FB0_010FCB_1]
  shared := []

def Script.common : Script where
  names := ["common", "zyyy"]
  own := Run.ofCodes [
    0x0000_000040_1, 0x005B_000060_1, 0x007B_0000A9_1, 0x00AB_0000B9_1, 0x00BB_0000BF_1,
    0x00D7_0000D7_1, 0x00F7_0000F7_1, 0x02B9_0002DF_1, 0x02E5_0002E9_1, 0x02EC_0002FF_1,
    0x0374_000374_1, 0x037E_00037E_1, 0x0385_000385_1, 0x0387_000387_1, 0x0605_000605_1,
    0x060C_00060C_1, 0x061B_00061B_1, 0x061F_00061F_1, 0x0640_000640_1, 0x06DD_0006DD_1,
    0x08E2_0008E2_1, 0x0964_000965_1, 0x0E3F_000E3F_1, 0x0FD5_000FD8_1, 0x10FB_0010FB_1,
    0x16EB_0016ED_1, 0x1735_001736_1, 0x1802_001803_1, 0x1805_001805_1, 0x1CD3_001CD3_1,
    0x1CE1_001CE1_1, 0x1CE9_001CEC_1, 0x1CEE_001CF3_1, 0x1CF5_001CF7_1, 0x1CFA_001CFA_1,
    0x2000_00200B_1, 0x200E_002064_1, 0x2066_002070_1, 0x2074_00207E_1, 0x2080_00208E_1,
    0x20A0_0020C0_1, 0x2100_002125_1, 0x2127_002129_1, 0x212C_002131_1, 0x2133_00214D_1,
    0x214F_00215F_1, 0x2189_00218B_1, 0x2190_002429_1, 0x2440_00244A_1, 0x2460_0027FF_1,
    0x2900_002B73_1, 0x2B76_002B95_1, 0x2B97_002BFF_1, 0x2E00_002E5D_1, 0x2FF0_003004_1,
    0x3006_003006_1, 0x3008_003020_1, 0x3030_003037_1, 0x303C_00303F_1, 0x309B_00309C_1,
    0x30A0_0030A0_1, 0x30FB_0030FC_1, 0x3190_00319F_1, 0x31C0_0031E5_1, 0x31EF_0031EF_1,
    0x3220_00325F_1, 0x327F_0032CF_1, 0x32FF_0032FF_1, 0x3358_0033FF_1, 0x4DC0_004DFF_1,
    0xA700_00A721_1, 0xA788_00A78A_1, 0xA830_00A839_1, 0xA92E_00A92E_1, 0xA9CF_00A9CF_1,
    0xAB5B_00AB5B_1, 0xAB6A_00AB6B_1, 0xFD3E_00FD3F_1, 0xFE10_00FE19_1, 0xFE30_00FE52_1,
    0xFE54_00FE66_1, 0xFE68_00FE6B_1, 0xFEFF_00FEFF_1, 0xFF01_00FF20_1, 0xFF3B_00FF40_1,
    0xFF5B_00FF65_1, 0xFF70_00FF70_1, 0xFF9E_00FF9F_1, 0xFFE0_00FFE6_1, 0xFFE8_00FFEE_1,
    0xFFF9_00FFFD_1, 0x10100_010102_1, 0x10107_010133_1, 0x10137_01013F_1, 0x10190_01019C_1,
    0x101D0_0101FC_1, 0x102E1_0102FB_1, 0x1BCA0_01BCA3_1, 0x1CC00_01CCF9_1, 0x1CD00_01CEB3_1,
    0x1CF50_01CFC3_1, 0x1D000_01D0F5_1, 0x1D100_01D126_1, 0x1D129_01D166_1, 0x1D16A_01D17A_1,
    0x1D183_01D184_1, 0x1D18C_01D1A9_1, 0x1D1AE_01D1EA_1, 0x1D2C0_01D2D3_1, 0x1D2E0_01D2F3_1,
    0x1D300_01D356_1, 0x1D360_01D378_1, 0x1D400_01D454_1, 0x1D456_01D49C_1, 0x1D49E_01D49F_1,
    0x1D4A2_01D4A2_1, 0x1D4A5_01D4A6_1, 0x1D4A9_01D4AC_1, 0x1D4AE_01D4B9_1, 0x1D4BB_01D4BB_1,
    0x1D4BD_01D4C3_1, 0x1D4C5_01D505_1, 0x1D507_01D50A_1, 0x1D50D_01D514_1, 0x1D516_01D51C_1,
    0x1D51E_01D539_1, 0x1D53B_01D53E_1, 0x1D540_01D544_1, 0x1D546_01D546_1, 0x1D54A_01D550_1,
    0x1D552_01D6A5_1, 0x1D6A8_01D7CB_1, 0x1D7CE_01D7FF_1, 0x1EC71_01ECB4_1, 0x1ED01_01ED3D_1,
    0x1F000_01F02B_1, 0x1F030_01F093_1, 0x1F0A0_01F0AE_1, 0x1F0B1_01F0BF_1, 0x1F0C1_01F0CF_1,
    0x1F0D1_01F0F5_1, 0x1F100_01F1AD_1, 0x1F1E6_01F1FF_1, 0x1F201_01F202_1, 0x1F210_01F23B_1,
    0x1F240_01F248_1, 0x1F250_01F251_1, 0x1F260_01F265_1, 0x1F300_01F6D7_1, 0x1F6DC_01F6EC_1,
    0x1F6F0_01F6FC_1, 0x1F700_01F776_1, 0x1F77B_01F7D9_1, 0x1F7E0_01F7EB_1, 0x1F7F0_01F7F0_1,
    0x1F800_01F80B_1, 0x1F810_01F847_1, 0x1F850_01F859_1, 0x1F860_01F887_1, 0x1F890_01F8AD_1,
    0x1F8B0_01F8BB_1, 0x1F8C0_01F8C1_1, 0x1F900_01FA53_1, 0x1FA60_01FA6D_1, 0x1FA70_01FA7C_1,
    0x1FA80_01FA89_1, 0x1FA8F_01FAC6_1, 0x1FACE_01FADC_1, 0x1FADF_01FAE9_1, 0x1FAF0_01FAF8_1,
    0x1FB00_01FB92_1, 0x1FB94_01FBF9_1, 0xE0001_0E0001_1, 0xE0020_0E007F_1]
  shared := []

def Script.coptic : Script where
  names := ["coptic", "copt", "qaac"]
  own := Run.ofCodes [
    0x03E2_0003EF_1, 0x2C80_002CF3_1, 0x2CF9_002CFF_1]
  shared := Run.ofCodes [
    0x00B7_0000B7_1, 0x0300_000300_1, 0x0304_000305_1, 0x0307_000307_1, 0x0374_000375_1,
    0x2E17_002E17_1, 0x102E0_0102FB_1]

def Script.cuneiform : Script where
  names := ["cuneiform", "xsux"]
  own := Run.ofCodes [
    0x12000_012399_1, 0x12400_01246E_1, 0x12470_012474_1, 0x12480_012543_1]
  shared := []

def Script.cypriot : Script where
  names := ["cypriot", "cprt"]
  own := Run.ofCodes [
    0x10800_010805_1, 0x10808_010808_1, 0x1080A_010835_1, 0x10837_010838_1, 0x1083C_01083C_1,
    0x1083F_01083F_1]
  shared := Run.ofCodes [
    0x10100_010102_1, 0x10107_010133_1, 0x10137_01013F_1]

def Script.cyproMinoan : Script where
  names := ["cyprominoan", "cpmn"]
  own := Run.ofCodes [
    0x12F90_012FF2_1]
  shared := Run.ofCodes [
    0x10100_010101_1]

def Script.cyrillic : Script where
  names := ["cyrillic", "cyrl"]
  own := Run.ofCodes [
    0x0400_000484_1, 0x0487_00052F_1, 0x1C80_001C8A_1, 0x1D2B_001D2B_1, 0x1D78_001D78_1,
    0x2DE0_002DFF_1, 0xA640_00A69F_1, 0xFE2E_00FE2F_1, 0x1E030_01E06D_1, 0x1E08F_01E08F_1]
  shared := Run.ofCodes [
    0x02BC_0002BC_1, 0x0300_000302_1, 0x0304_000308_2, 0x030B_00030B_1, 0x0311_000311_1,
    0x0485_000486_1, 0x1DF8_001DF8_1, 0x2E43_002E43_1]

def Script.deseret : Script where
  names := ["deseret", "dsrt"]
  own := Run.ofCodes [
    0x10400_01044F_1]
  shared := []

def Script.devanagari : Script where
  names := ["devanagari", "deva"]
  own := Run.ofCodes [
    0x0900_000950_1, 0x0955_000963_1, 0x0966_00097F_1, 0xA8E0_00A8FF_1, 0x11B00_011B09_1]
  shared := Run.ofCodes [
    0x02BC_0002BC_1, 0x0951_000952_1, 0x0964_000965_1, 0x1CD0_001CF6_1, 0x1CF8_001CF9_1,
    0x20F0_0020F0_1, 0xA830_00A839_1]

def Script.divesAkuru : Script where
  names := ["divesakuru", "diak"]
  own := Run.ofCodes [
    0x11900_011906_1, 0x11909_011909_1, 0x1190C_011913_1, 0x11915_011916_1, 0x11918_011935_1,
    0x11937_011938_1, 0x1193B_011946_1, 0x11950_011959_1]
  shared := []

def Script.dogra : Script where
  names := ["dogra", "dogr"]
  own := Run.ofCodes [
    0x11800_01183B_1]
  shared := Run.ofCodes [
    0x0964_00096F_1, 0xA830_00A839_1]

def Script.duployan : Script where
  names := ["duployan", "dupl"]
  own := Run.ofCodes [
    0x1BC00_01BC6A_1, 0x1BC70_01BC7C_1, 0x1BC80_01BC88_1, 0x1BC90_01BC99_1, 0x1BC9C_01BC9F_1]
  shared := Run.ofCodes [
    0x00B7_0000B7_1, 0x0307_000308_1, 0x030A_00030A_1, 0x0323_000324_1, 0x2E3C_002E3C_1,
    0x1BCA0_01BCA3_1]

def Script.egyptianHieroglyphs : Script where
  names := ["egyptianhieroglyphs", "egyp"]
  own := Run.ofCodes [
    0x13000_013455_1, 0x13460_0143FA_1]
  shared := []

def Script.elbasan : Script where
  names := ["elbasan", "elba"]
  own := Run.ofCodes [
    0x10500_010527_1]
  shared := Run.ofCodes [
    0x00B7_0000B7_1, 0x0305_000305_1]

def Script.elymaic : Script where
  names := ["elymaic", "elym"]
  own := Run.ofCodes [
    0x10FE0_010FF6_1]
  shared := []

def Script.ethiopic : Script where
  names := ["ethiopic", "ethi"]
  own := Run.ofCodes [
    0x1200_001248_1, 0x124A_00124D_1, 0x1250_001256_1, 0x1258_001258_1, 0x125A_00125D_1,
    0x1260_001288_1, 0x128A_00128D_1, 0x1290_0012B0_1, 0x12B2_0012B5_1, 0x12B8_0012BE_1,
    0x12C0_0012C0_1, 0x12C2_0012C5_1, 0x12C8_0012D6_1, 0x12D8_001310_1, 0x1312_001315_1,
    0x1318_00135A_1, 0x135D_00137C_1, 0x1380_001399_1, 0x2D80_002D96_1, 0x2DA0_002DA6_1,
    0x2DA8_002DAE_1, 0x2DB0_002DB6_1, 0x2DB8_002DBE_1, 0x2DC0_002DC6_1, 0x2DC8_002DCE_1,
    0x2DD0_002DD6_1, 0x2DD8_002DDE_1, 0xAB01_00AB06_1, 0xAB09_00AB0E_1, 0xAB11_00AB16_1,
    0xAB20_00AB26_1, 0xAB28_00AB2E_1, 0x1E7E0_01E7E6_1, 0x1E7E8_01E7EB_1, 0x1E7ED_01E7EE_1,
    0x1E7F0_01E7FE_1]
  shared := Run.ofCodes [
    0x030E_00030E_1]

def Script.garay : Script where
  names := ["garay", "gara"]
  own := Run.ofCodes [
    0x10D40_010D65_1, 0x10D69_010D85_1, 0x10D8E_010D8F_1]
  shared := Run.ofCodes [
    0x060C_00060C_1, 0x061B_00061B_1, 0x061F_00061F_1]

def Script.georgian : Script where
  names := ["georgian", "geor"]
  own := Run.ofCodes [
    0x10A0_0010C5_1, 0x10C7_0010C7_1, 0x10CD_0010CD_1, 0x10D0_0010FA_1, 0x10FC_0010FF_1,
    0x1C90_001CBA_1, 0x1CBD_001CBF_1, 0x2D00_002D25_1, 0x2D27_002D27_1, 0x2D2D_002D2D_1]
  shared := Run.ofCodes [
    0x00B7_0000B7_1, 0x0589_000589_1, 0x10FB_0010FB_1, 0x205A_00205A_1, 0x2E31_002E31_1]

def Script.glagolitic : Script where
  names := ["glagolitic", "glag"]
  own := Run.ofCodes [
    0x2C00_002C5F_1, 0x1E000_01E006_1, 0x1E008_01E018_1, 0x1E01B_01E021_1, 0x1E023_01E024_1,
    0x1E026_01E02A_1]
  shared := Run.ofCodes [
    0x00B7_0000B7_1, 0x0303_000303_1, 0x0305_000305_1, 0x0484_000484_1, 0x0487_000487_1,
    0x0589_000589_1, 0x10FB_0010FB_1, 0x205A_00205A_1, 0x2E43_002E43_1, 0xA66F_00A66F_1]

def Script.gothic : Script where
  names := ["gothic", "goth"]
  own := Run.ofCodes [
    0x10330_01034A_1]
  shared := Run.ofCodes [
    0x00B7_0000B7_1, 0x0304_000305_1, 0x0308_000308_1, 0x0331_000331_1]

def Script.grantha : Script where
  names := ["grantha", "gran"]
  own := Run.ofCodes [
    0x11300_011303_1, 0x11305_01130C_1, 0x1130F_011310_1, 0x11313_011328_1, 0x1132A_011330_1,
    0x11332_011333_1, 0x11335_011339_1, 0x1133C_011344_1, 0x11347_011348_1, 0x1134B_01134D_1,
    0x11350_011350_1, 0x11357_011357_1, 0x1135D_011363_1, 0x11366_01136C_1, 0x11370_011374_1]
  shared := Run.ofCodes [
    0x0951_000952_1, 0x0964_000965_1, 0x0BE6_000BF3_1, 0x1CD0_001CD0_1, 0x1CD2_001CD3_1,
    0x1CF2_001CF4_1, 0x1CF8_001CF9_1, 0x20F0_0020F0_1, 0x1133B_01133B_1, 0x11FD0_011FD1_1,
    0x11FD3_011FD3_1]

def Script.greek : Script where
  names := ["greek", "grek"]
  own := Run.ofCodes [
    0x0370_000373_1, 0x0375_000377_1, 0x037A_00037D_1, 0x037F_00037F_1, 0x0384_000384_1,
    0x0386_000386_1, 0x0388_00038A_1, 0x038C_00038C_1, 0x038E_0003A1_1, 0x03A3_0003E1_1,
    0x03F0_0003FF_1, 0x1D26_001D2A_1, 0x1D5D_001D61_1, 0x1D66_001D6A_1, 0x1DBF_001DBF_1,
    0x1F00_001F15_1, 0x1F18_001F1D_1, 0x1F20_001F45_1, 0x1F48_001F4D_1, 0x1F50_001F57_1,
    0x1F59_001F5D_2, 0x1F5F_001F7D_1, 0x1F80_001FB4_1, 0x1FB6_001FC4_1, 0x1FC6_001FD3_1,
    0x1FD6_001FDB_1, 0x1FDD_001FEF_1, 0x1FF2_001FF4_1, 0x1FF6_001FFE_1, 0x2126_002126_1,
    0xAB65_00AB65_1, 0x10140_01018E_1, 0x101A0_0101A0_1, 0x1D200_01D245_1]
  shared := Run.ofCodes [
    0x00B7_0000B7_1, 0x0300_000301_1, 0x0304_000308_2, 0x0313_000313_1, 0x0342_000342_1,
    0x0345_000345_1, 0x0374_000374_1, 0x1DC0_001DC1_1, 0x205D_00205D_1]

def Script.gujarati : Script where
  names := ["gujarati", "gujr"]
  own := Run.ofCodes [
    0x0A81_000A83_1, 0x0A85_000A8D_1, 0x0A8F_000A91_1, 0x0A93_000AA8_1, 0x0AAA_000AB0_1,
    0x0AB2_000AB3_1, 0x0AB5_000AB9_1, 0x0ABC_000AC5_1, 0x0AC7_000AC9_1, 0x0ACB_000ACD_1,
    0x0AD0_000AD0_1, 0x0AE0_000AE3_1, 0x0AE6_000AF1_1, 0x0AF9_000AFF_1]
  shared := Run.ofCodes [
    0x0951_000952_1, 0x0964_000965_1, 0xA830_00A839_1]

def Script.gunjalaGondi : Script where
  names := ["gunjalagondi", "gong"]
  own := Run.ofCodes [
    0x11D60_011D65_1, 0x11D67_011D68_1, 0x11D6A_011D8E_1, 0x11D90_011D91_1, 0x11D93_011D98_1,
    0x11DA0_011DA9_1]
  shared := Run.ofCodes [
    0x00B7_0000B7_1, 0x0964_000965_1]

def Script.gurmukhi : Script where
  names := ["gurmukhi", "guru"]
  own := Run.ofCodes [
    0x0A01_000A03_1, 0x0A05_000A0A_1, 0x0A0F_000A10_1, 0x0A13_000A28_1, 0x0A2A_000A30_1,
    0x0A32_000A33_1, 0x0A35_000A36_1, 0x0A38_000A39_1, 0x0A3C_000A3C_1, 0x0A3E_000A42_1,
    0x0A47_000A48_1, 0x0A4B_000A4D_1, 0x0A51_000A51_1, 0x0A59_000A5C_1, 0x0A5E_000A5E_1,
    0x0A66_000A76_1]
  shared := Run.ofCodes [
    0x0951_000952_1, 0x0964_000965_1, 0xA830_00A839_1]

def Script.gurungKhema : Script where
  names := ["gurungkhema", "gukh"]
  own := Run.ofCodes [
    0x16100_016139_1]
  shared := Run.ofCodes [
    0x0965_000965_1]

def Script.han : Script where
  names := ["han", "hani"]
  own := Run.ofCodes [
    0x2E80_002E99_1, 0x2E9B_002EF3_1, 0x2F00_002FD5_1, 0x3005_003005_1, 0x3007_003007_1,
    0x3021_003029_1, 0x3038_00303B_1, 0x3400_004DBF_1, 0x4E00_009FFF_1, 0xF900_00FA6D_1,
    0xFA70_00FAD9_1, 0x16FE2_016FE3_1, 0x16FF0_016FF1_1, 0x20000_02A6DF_1, 0x2A700_02B739_1,
    0x2B740_02B81D_1, 0x2B820_02CEA1_1, 0x2CEB0_02EBE0_1, 0x2EBF0_02EE5D_1, 0x2F800_02FA1D_1,
    0x30000_03134A_1, 0x31350_0323AF_1]
  shared := Run.ofCodes [
    0x00B7_0000B7_1, 0x2FF0_002FFF_1, 0x3001_003003_1, 0x3006_003006_1, 0x3008_003011_1,
    0x3013_00301F_1, 0x302A_00302D_1, 0x3030_003030_1, 0x3037_003037_1, 0x303C_00303F_1,
    0x30FB_0030FB_1, 0x3190_00319F_1, 0x31C0_0031E5_1, 0x31EF_0031EF_1, 0x3220_003247_1,
    0x3280_0032B0_1, 0x32C0_0032CB_1, 0x32FF_0032FF_1, 0x3358_003370_1, 0x337B_00337F_1,
    0x33E0_0033FE_1, 0xA700_00A707_1, 0xFE45_00FE46_1, 0xFF61_00FF65_1, 0x1D360_01D371_1,
    0x1F250_01F251_1]

def Script.hangul : Script where
  names := ["hangul", "hang"]
  own := Run.ofCodes [
    0x1100_0011FF_1, 0x302E_00302F_1, 0x3131_00318E_1, 0x3200_00321E_1, 0x3260_00327E_1,
    0xA960_00A97C_1, 0xAC00_00D7A3_1, 0xD7B0_00D7C6_1, 0xD7CB_00D7FB_1, 0xFFA0_00FFBE_1,
    0xFFC2_00FFC7_1, 0xFFCA_00FFCF_1, 0xFFD2_00FFD7_1, 0xFFDA_00FFDC_1]
  shared := Run.ofCodes [
    0x3001_003003_1, 0x3008_003011_1, 0x3013_00301F_1, 0x3030_003030_1, 0x3037_003037_1,
    0x30FB_0030FB_1, 0xFE45_00FE46_1, 0xFF61_00FF65_1]

def Script.hanifiRohingya : Script where
  names := ["hanifirohingya", "rohg"]
  own := Run.ofCodes [
    0x10D00_010D27_1, 0x10D30_010D39_1]
  shared := Run.ofCodes [
    0x060C_00060C_1, 0x061B_00061B_1, 0x061F_00061F_1, 0x0640_000640_1, 0x06D4_0006D4_1]

def Script.hanunoo : Script where
  names := ["hanunoo", "hano"]
  own := Run.ofCodes [
    0x1720_001734_1]
  shared := Run.ofCodes [
    0x1735_001736_1]

def Script.hatran : Script where
  names := ["hatran", "hatr"]
  own := Run.ofCodes [
    0x108E0_0108F2_1, 0x108F4_0108F5_1, 0x108FB_0108FF_1]
  shared := []

def Script.hebrew : Script where
  names := ["hebrew", "hebr"]
  own := Run.ofCodes [
    0x0591_0005C7_1, 0x05D0_0005EA_1, 0x05EF_0005F4_1, 0xFB1D_00FB36_1, 0xFB38_00FB3C_1,
    0xFB3E_00FB3E_1, 0xFB40_00FB41_1, 0xFB43_00FB44_1, 0xFB46_00FB4F_1]
  shared := Run.ofCodes [
    0x0307_000308_1]

def Script.hiragana : Script where
  names := ["hiragana", "hira"]
  own := Run.ofCodes [
    0x3041_003096_1, 0x309D_00309F_1, 0x1B001_01B11F_1, 0x1B132_01B132_1, 0x1B150_01B152_1,
    0x1F200_01F200_1]
  shared := Run.ofCodes [
    0x3001_003003_1, 0x3008_003011_1, 0x3013_00301F_1, 0x3030_003035_1, 0x3037_003037_1,
    0x303C_00303D_1, 0x3099_00309C_1, 0x30A0_0030A0_1, 0x30FB_0030FC_1, 0xFE45_00FE46_1,
    0xFF61_00FF65_1, 0xFF70_00FF70_1, 0xFF9E_00FF9F_1]

def Script.imperialAramaic : Script where
  names := ["imperialaramaic", "armi"]
  own := Run.ofCodes [
    0x10840_010855_1, 0x10857_01085F_1]
  shared := []

def Script.inherited : Script where
  names := ["inherited", "zinh", "qaai"]
  own := Run.ofCodes [
    0x0300_00036F_1, 0x0485_000486_1, 0x064B_000655_1, 0x0670_000670_1, 0x0951_000954_1,
    0x1AB0_001ACE_1, 0x1CD0_001CD2_1, 0x1CD4_001CE0_1, 0x1CE2_001CE8_1, 0x1CED_001CED_1,
    0x1CF4_001CF4_1, 0x1CF8_001CF9_1, 0x1DC0_001DFF_1, 0x200C_00200D_1, 0x20D0_0020F0_1,
    0x302A_00302D_1, 0x3099_00309A_1, 0xFE00_00FE0F_1, 0xFE20_00FE2D_1, 0x101FD_0101FD_1,
    0x102E0_0102E0_1, 0x1133B_01133B_1, 0x1CF00_01CF2D_1, 0x1CF30_01CF46_1, 0x1D167_01D169_1,
    0x1D17B_01D182_1, 0x1D185_01D18B_1, 0x1D1AA_01D1AD_1, 0xE0100_0E01EF_1]
  shared := []

def Script.inscriptionalPahlavi : Script where
  names := ["inscriptionalpahlavi", "phli"]
  own := Run.ofCodes [
    0x10B60_010B72_1, 0x10B78_010B7F_1]
  shared := []

def Script.inscriptionalParthian : Script where
  names := ["inscriptionalparthian", "prti"]
  own := Run.ofCodes [
    0x10B40_010B55_1, 0x10B58_010B5F_1]
  shared := []

def Script.javanese : Script where
  names := ["javanese", "java"]
  own := Run.ofCodes [
    0xA980_00A9CD_1, 0xA9D0_00A9D9_1, 0xA9DE_00A9DF_1]
  shared := Run.ofCodes [
    0xA9CF_00A9CF_1]

def Script.kaithi : Script where
  names := ["kaithi", "kthi"]
  own := Run.ofCodes [
    0x11080_0110C2_1, 0x110CD_0110CD_1]
  shared := Run.ofCodes [
    0x0966_00096F_1, 0x2E31_002E31_1, 0xA830_00A839_1]

def Script.kannada : Script where
  names := ["kannada", "knda"]
  own := Run.ofCodes [
    0x0C80_000C8C_1, 0x0C8E_000C90_1, 0x0C92_000CA8_1, 0x0CAA_000CB3_1, 0x0CB5_000CB9_1,
    0x0CBC_000CC4_1, 0x0CC6_000CC8_1, 0x0CCA_000CCD_1, 0x0CD5_000CD6_1, 0x0CDD_000CDE_1,
    0x0CE0_000CE3_1, 0x0CE6_000CEF_1, 0x0CF1_000CF3_1]
  shared := Run.ofCodes [
    0x0951_000952_1, 0x0964_000965_1, 0x1CD0_001CD0_1, 0x1CD2_001CD3_1, 0x1CDA_001CDA_1,
    0x1CF2_001CF2_1, 0x1CF4_001CF4_1, 0xA830_00A835_1]

def Script.katakana : Script where
  names := ["katakana", "kana"]
  own := Run.ofCodes [
    0x30A1_0030FA_1, 0x30FD_0030FF_1, 0x31F0_0031FF_1, 0x32D0_0032FE_1, 0x3300_003357_1,
    0xFF66_00FF6F_1, 0xFF71_00FF9D_1, 0x1AFF0_01AFF3_1, 0x1AFF5_01AFFB_1, 0x1AFFD_01AFFE_1,
    0x1B000_01B000_1, 0x1B120_01B122_1, 0x1B155_01B155_1, 0x1B164_01B167_1]
  shared := Run.ofCodes [
    0x0305_000305_1, 0x0323_000323_1, 0x3001_003003_1, 0x3008_003011_1, 0x3013_00301F_1,
    0x3030_003035_1, 0x3037_003037_1, 0x303C_00303D_1, 0x3099_00309C_1, 0x30A0_0030A0_1,
    0x30FB_0030FC_1, 0xFE45_00FE46_1, 0xFF61_00FF65_1, 0xFF70_00FF70_1, 0xFF9E_00FF9F_1]

def Script.kawi : Script where
  names := ["kawi"]
  own := Run.ofCodes [
    0x11F00_011F10_1, 0x11F12_011F3A_1, 0x11F3E_011F5A_1]
  shared := []

def Script.kayahLi : Script where
  names := ["kayahli", "kali"]
  own := Run.ofCodes [
    0xA900_00A92D_1, 0xA92F_00A92F_1]
  shared := Run.ofCodes [
    0xA92E_00A92E_1]

def Script.kharoshthi : Script where
  names := ["kharoshthi", "khar"]
  own := Run.ofCodes [
    0x10A00_010A03_1, 0x10A05_010A06_1, 0x10A0C_010A13_1, 0x10A15_010A17_1, 0x10A19_010A35_1,
    0x10A38_010A3A_1, 0x10A3F_010A48_1, 0x10A50_010A58_1]
  shared := []

def Script.khitanSmallScript : Script where
  names := ["khitansmallscript", "kits"]
  own := Run.ofCodes [
    0x16FE4_016FE4_1, 0x18B00_018CD5_1, 0x18CFF_018CFF_1]
  shared := []

def Script.khmer : Script where
  names := ["khmer", "khmr"]
  own := Run.ofCodes [
    0x1780_0017DD_1, 0x17E0_0017E9_1, 0x17F0_0017F9_1, 0x19E0_0019FF_1]
  shared := []

def Script.khojki : Script where
  names := ["khojki", "khoj"]
  own := Run.ofCodes [
    0x11200_011211_1, 0x11213_011241_1]
  shared := Run.ofCodes [
    0x0AE6_000AEF_1, 0xA830_00A839_1]

def Script.khudawadi : Script where
  names := ["khudawadi", "sind"]
  own := Run.ofCodes [
    0x112B0_0112EA_1, 0x112F0_0112F9_1]
  shared := Run.ofCodes [
    0x0964_000965_1, 0xA830_00A839_1]

def Script.kiratRai : Script where
  names := ["kiratrai", "krai"]
  own := Run.ofCodes [
    0x16D40_016D79_1]
  shared := []

def Script.lao : Script where
  names := ["lao", "laoo"]
  own := Run.ofCodes [
    0x0E81_000E82_1, 0x0E84_000E84_1, 0x0E86_000E8A_1, 0x0E8C_000EA3_1, 0x0EA5_000EA5_1,
    0x0EA7_000EBD_1, 0x0EC0_000EC4_1, 0x0EC6_000EC6_1, 0x0EC8_000ECE_1, 0x0ED0_000ED9_1,
    0x0EDC_000EDF_1]
  shared := []

def Script.latin : Script where
  names := ["latin", "latn"]
  own := Run.ofCodes [
    0x0041_00005A_1, 0x0061_00007A_1, 0x00AA_0000AA_1, 0x00BA_0000BA_1, 0x00C0_0000D6_1,
    0x00D8_0000F6_1, 0x00F8_0002B8_1, 0x02E0_0002E4_1, 0x1D00_001D25_1, 0x1D2C_001D5C_1,
    0x1D62_001D65_1, 0x1D6B_001D77_1, 0x1D79_001DBE_1, 0x1E00_001EFF_1, 0x2071_002071_1,
    0x207F_00207F_1, 0x2090_00209C_1, 0x212A_00212B_1, 0x2132_002132_1, 0x214E_00214E_1,
    0x2160_002188_1, 0x2C60_002C7F_1, 0xA722_00A787_1, 0xA78B_00A7CD_1, 0xA7D0_00A7D1_1,
    0xA7D3_00A7D3_1, 0xA7D5_00A7DC_1, 0xA7F2_00A7FF_1, 0xAB30_00AB5A_1, 0xAB5C_00AB64_1,
    0xAB66_00AB69_1, 0xFB00_00FB06_1, 0xFF21_00FF3A_1, 0xFF41_00FF5A_1, 0x10780_010785_1,
    0x10787_0107B0_1, 0x107B2_0107BA_1, 0x1DF00_01DF1E_1, 0x1DF25_01DF2A_1]
  shared := Run.ofCodes [
    0x00B7_0000B7_1, 0x02BC_0002BC_1, 0x02C7_0002C7_1, 0x02C9_0002CB_1, 0x02CD_0002CD_1,
    0x02D7_0002D7_1, 0x02D9_0002D9_1, 0x0300_00030E_1, 0x0310_000311_1, 0x0313_000313_1,
    0x0323_000325_1, 0x032D_00032E_1, 0x0330_000331_1, 0x0358_000358_1, 0x035E_00035E_1,
    0x0363_00036F_1, 0x0485_000486_1, 0x0951_000952_1, 0x10FB_0010FB_1, 0x1DF8_001DF8_1,
    0x202F_00202F_1, 0x20F0_0020F0_1, 0x2E17_002E17_1, 0xA700_00A707_1, 0xA92E_00A92E_1]

def Script.lepcha : Script where
  names := ["lepcha", "lepc"]
  own := Run.ofCodes [
    0x1C00_001C37_1, 0x1C3B_001C49_1, 0x1C4D_001C4F_1]
  shared := []

def Script.limbu : Script where
  names := ["limbu", "limb"]
  own := Run.ofCodes [
    0x1900_00191E_1, 0x1920_00192B_1, 0x1930_00193B_1, 0x1940_001940_1, 0x1944_00194F_1]
  shared := Run.ofCodes [
    0x0965_000965_1]

def Script.linearA : Script where
  names := ["lineara", "lina"]
  own := Run.ofCodes [
    0x10600_010736_1, 0x10740_010755_1, 0x10760_010767_1]
  shared := Run.ofCodes [
    0x10107_010133_1]

def Script.linearB : Script where
  names := ["linearb", "linb"]
  own := Run.ofCodes [
    0x10000_01000B_1, 0x1000D_010026_1, 0x10028_01003A_1, 0x1003C_01003D_1, 0x1003F_01004D_1,
    0x10050_01005D_1, 0x10080_0100FA_1]
  shared := Run.ofCodes [
    0x10100_010102_1, 0x10107_010133_1, 0x10137_01013F_1]

def Script.lisu : Script where
  names := ["lisu"]
  own := Run.ofCodes [
    0xA4D0_00A4FF_1, 0x11FB0_011FB0_1]
  shared := Run.ofCodes [
    0x02BC_0002BC_1, 0x02CD_0002CD_1, 0x300A_00300B_1]

def Script.lycian : Script where
  names := ["lycian", "lyci"]
  own := Run.ofCodes [
    0x10280_01029C_1]
  shared := Run.ofCodes [
    0x205A_00205A_1]

def Script.lydian : Script where
  names := ["lydian", "lydi"]
  own := Run.ofCodes [
    0x10920_010939_1, 0x1093F_01093F_1]
  shared := Run.ofCodes [
    0x00B7_0000B7_1, 0x2E31_002E31_1]

def Script.mahajani : Script where
  names := ["mahajani", "mahj"]
  own := Run.ofCodes [
    0x11150_011176_1]
  shared := Run.ofCodes [
    0x00B7_0000B7_1, 0x0964_00096F_1, 0xA830_00A839_1]

def Script.makasar : Script where
  names := ["makasar", "maka"]
  own := Run.ofCodes [
    0x11EE0_011EF8_1]
  shared := []

def Script.malayalam : Script where
  names := ["malayalam", "mlym"]
  own := Run.ofCodes [
    0x0D00_000D0C_1, 0x0D0E_000D10_1, 0x0D12_000D44_1, 0x0D46_000D48_1, 0x0D4A_000D4F_1,
    0x0D54_000D63_1, 0x0D66_000D7F_1]
  shared := Run.ofCodes [
    0x0951_000952_1, 0x0964_000965_1, 0x1CDA_001CDA_1, 0x1CF2_001CF2_1, 0xA830_00A832_1]

def Script.mandaic : Script where
  names := ["mandaic", "mand"]
  own := Run.ofCodes [
    0x0840_00085B_1, 0x085E_00085E_1]
  shared := Run.ofCodes [
    0x0640_000640_1]

def Script.manichaean : Script where
  names := ["manichaean", "mani"]
  own := Run.ofCodes [
    0x10AC0_010AE6_1, 0x10AEB_010AF6_1]
  shared := Run.ofCodes [
    0x0640_000640_1]

def Script.marchen : Script where
  names := ["marchen", "marc"]
  own := Run.ofCodes [
    0x11C70_011C8F_1, 0x11C92_011CA7_1, 0x11CA9_011CB6_1]
  shared := []

def Script.masaramGondi : Script where
  names := ["masaramgondi", "gonm"]
  own := Run.ofCodes [
    0x11D00_011D06_1, 0x11D08_011D09_1, 0x11D0B_011D36_1, 0x11D3A_011D3A_1, 0x11D3C_011D3D_1,
    0x11D3F_011D47_1, 0x11D50_011D59_1]
  shared := Run.ofCodes [
    0x0964_000965_1]

def Script.medefaidrin : Script where
  names := ["medefaidrin", "medf"]
  own := Run.ofCodes [
    0x16E40_016E9A_1]
  shared := []

def Script.meeteiMayek : Script where
  names := ["meeteimayek", "mtei"]
  own := Run.ofCodes [
    0xAAE0_00AAF6_1, 0xABC0_00ABED_1, 0xABF0_00ABF9_1]
  shared := []

def Script.mendeKikakui : Script where
  names := ["mendekikakui", "mend"]
  own := Run.ofCodes [
    0x1E800_01E8C4_1, 0x1E8C7_01E8D6_1]
  shared := []

def Script.meroiticCursive : Script where
  names := ["meroiticcursive", "merc"]
  own := Run.ofCodes [
    0x109A0_0109B7_1, 0x109BC_0109CF_1, 0x109D2_0109FF_1]
  shared := []

def Script.meroiticHieroglyphs : Script where
  names := ["meroitichieroglyphs", "mero"]
  own := Run.ofCodes [
    0x10980_01099F_1]
  shared := Run.ofCodes [
    0x205D_00205D_1]

def Script.miao : Script where
  names := ["miao", "plrd"]
  own := Run.ofCodes [
    0x16F00_016F4A_1, 0x16F4F_016F87_1, 0x16F8F_016F9F_1]
  shared := []

def Script.modi : Script where
  names := ["modi"]
  own := Run.ofCodes [
    0x11600_011644_1, 0x11650_011659_1]
  shared := Run.ofCodes [
    0xA830_00A839_1]

def Script.mongolian : Script where
  names := ["mongolian", "mong"]
  own := Run.ofCodes [
    0x1800_001801_1, 0x1804_001804_1, 0x1806_001819_1, 0x1820_001878_1, 0x1880_0018AA_1,
    0x11660_01166C_1]
  shared := Run.ofCodes [
    0x1802_001803_1, 0x1805_001805_1, 0x202F_00202F_1, 0x3001_003002_1, 0x3008_00300B_1]

def Script.mro : Script where
  names := ["mro", "mroo"]
  own := Run.ofCodes [
    0x16A40_016A5E_1, 0x16A60_016A69_1, 0x16A6E_016A6F_1]
  shared := []

def Script.multani : Script where
  names := ["multani", "mult"]
  own := Run.ofCodes [
    0x11280_011286_1, 0x11288_011288_1, 0x1128A_01128D_1, 0x1128F_01129D_1, 0x1129F_0112A9_1]
  shared := Run.ofCodes [
    0x0A66_000A6F_1]

def Script.myanmar : Script where
  names := ["myanmar", "mymr"]
  own := Run.ofCodes [
    0x1000_00109F_1, 0xA9E0_00A9FE_1, 0xAA60_00AA7F_1, 0x116D0_0116E3_1]
  shared := Run.ofCodes [
    0xA92E_00A92E_1]

def Script.nabataean : Script where
  names := ["nabataean", "nbat"]
  own := Run.ofCodes [
    0x10880_01089E_1, 0x108A7_0108AF_1]
  shared := []

def Script.nagMundari : Script where
  names := ["nagmundari", "nagm"]
  own := Run.ofCodes [
    0x1E4D0_01E4F9_1]
  shared := []

def Script.nandinagari : Script where
  names := ["nandinagari", "nand"]
  own := Run.ofCodes [
    0x119A0_0119A7_1, 0x119AA_0119D7_1, 0x119DA_0119E4_1]
  shared := Run.ofCodes [
    0x0951_000951_1, 0x0964_000965_1, 0x0CE6_000CEF_1, 0x1CE9_001CE9_1, 0x1CF2_001CF2_1,
    0x1CFA_001CFA_1, 0xA830_00A835_1]

def Script.newTaiLue : Script where
  names := ["newtailue", "talu"]
  own := Run.ofCodes [
    0x1980_0019AB_1, 0x19B0_0019C9_1, 0x19D0_0019DA_1, 0x19DE_0019DF_1]
  shared := []

def Script.newa : Script where
  names := ["newa"]
  own := Run.ofCodes [
    0x11400_01145B_1, 0x1145D_011461_1]
  shared := Run.ofCodes [
    0x0951_000952_1, 0x1CD5_001CD5_1, 0x1CD7_001CD8_1, 0x1CE2_001CE2_1, 0x1CE9_001CED_2]

def Script.nko : Script where
  names := ["nko", "nkoo"]
  own := Run.ofCodes [
    0x07C0_0007FA_1, 0x07FD_0007FF_1]
  shared := Run.ofCodes [
    0x060C_00060C_1, 0x061B_00061B_1, 0x061F_00061F_1, 0xFD3E_00FD3F_1]

def Script.nushu : Script where
  names := ["nushu", "nshu"]
  own := Run.ofCodes [
    0x16FE1_016FE1_1, 0x1B170_01B2FB_1]
  shared := []

def Script.nyiakengPuachueHmong : Script where
  names := ["nyiakengpuachuehmong", "hmnp"]
  own := Run.ofCodes [
    0x1E100_01E12C_1, 0x1E130_01E13D_1, 0x1E140_01E149_1, 0x1E14E_01E14F_1]
  shared := []

def Script.ogham : Script where
  names := ["ogham", "ogam"]
  own := Run.ofCodes [
    0x1680_00169C_1]
  shared := []

def Script.olChiki : Script where
  names := ["olchiki", "olck"]
  own := Run.ofCodes [
    0x1C50_001C7F_1]
  shared := []

def Script.olOnal : Script where
  names := ["olonal", "onao"]
  own := Run.ofCodes [
    0x1E5D0_01E5FA_1, 0x1E5FF_01E5FF_1]
  shared := Run.ofCodes [
    0x0964_000965_1]

def Script.oldHungarian : Script where
  names := ["oldhungarian", "hung"]
  own := Run.ofCodes [
    0x10C80_010CB2_1, 0x10CC0_010CF2_1, 0x10CFA_010CFF_1]
  shared := Run.ofCodes [
    0x205A_00205A_1, 0x205D_00205D_1, 0x2E31_002E31_1, 0x2E41_002E41_1]

def Script.oldItalic : Script where
  names := ["olditalic", "ital"]
  own := Run.ofCodes [
    0x10300_010323_1, 0x1032D_01032F_1]
  shared := []

def Script.oldNorthArabian : Script where
  names := ["oldnortharabian", "narb"]
  own := Run.ofCodes [
    0x10A80_010A9F_1]
  shared := []

def Script.oldPermic : Script where
  names := ["oldpermic", "perm"]
  own := Run.ofCodes [
    0x10350_01037A_1]
  shared := Run.ofCodes [
    0x00B7_0000B7_1, 0x0300_000300_1, 0x0306_000308_1, 0x0313_000313_1, 0x0483_000483_1]

def Script.oldPersian : Script where
  names := ["oldpersian", "xpeo"]
  own := Run.ofCodes [
    0x103A0_0103C3_1, 0x103C8_0103D5_1]
  shared := []

def Script.oldSogdian : Script where
  names := ["oldsogdian", "sogo"]
  own := Run.ofCodes [
    0x10F00_010F27_1]
  shared := []

def Script.oldSouthArabian : Script where
  names := ["oldsoutharabian", "sarb"]
  own := Run.ofCodes [
    0x10A60_010A7F_1]
  shared := []

def Script.oldTurkic : Script where
  names := ["oldturkic", "orkh"]
  own := Run.ofCodes [
    0x10C00_010C48_1]
  shared := Run.ofCodes [
    0x205A_00205A_1, 0x2E30_002E30_1]

def Script.oldUyghur : Script where
  names := ["olduyghur", "ougr"]
  own := Run.ofCodes [
    0x10F70_010F89_1]
  shared := Run.ofCodes [
    0x0640_000640_1, 0x10AF2_010AF2_1]

def Script.oriya : Script where
  names := ["oriya", "orya"]
  own := Run.ofCodes [
    0x0B01_000B03_1, 0x0B05_000B0C_1, 0x0B0F_000B10_1, 0x0B13_000B28_1, 0x0B2A_000B30_1,
    0x0B32_000B33_1, 0x0B35_000B39_1, 0x0B3C_000B44_1, 0x0B47_000B48_1, 0x0B4B_000B4D_1,
    0x0B55_000B57_1, 0x0B5C_000B5D_1, 0x0B5F_000B63_1, 0x0B66_000B77_1]
  shared := Run.ofCodes [
    0x0951_000952_1, 0x0964_000965_1, 0x1CDA_001CDA_1, 0x1CF2_001CF2_1]

def Script.osage : Script where
  names := ["osage", "osge"]
  own := Run.ofCodes [
    0x104B0_0104D3_1, 0x104D8_0104FB_1]
  shared := Run.ofCodes [
    0x0301_000301_1, 0x0304_000304_1, 0x030B_00030B_1, 0x0358_000358_1]

def Script.osmanya : Script where
  names := ["osmanya", "osma"]
  own := Run.ofCodes [
    0x10480_01049D_1, 0x104A0_0104A9_1]
  shared := []

def Script.pahawhHmong : Script where
  names := ["pahawhhmong", "hmng"]
  own := Run.ofCodes [
    0x16B00_016B45_1, 0x16B50_016B59_1, 0x16B5B_016B61_1, 0x16B63_016B77_1, 0x16B7D_016B8F_1]
  shared := []

def Script.palmyrene : Script where
  names := ["palmyrene", "palm"]
  own := Run.ofCodes [
    0x10860_01087F_1]
  shared := []

def Script.pauCinHau : Script where
  names := ["paucinhau", "pauc"]
  own := Run.ofCodes [
    0x11AC0_011AF8_1]
  shared := []

def Script.phagsPa : Script where
  names := ["phagspa", "phag"]
  own := Run.ofCodes [
    0xA840_00A877_1]
  shared := Run.ofCodes [
    0x1802_001803_1, 0x1805_001805_1, 0x202F_00202F_1, 0x3002_003002_1]

def Script.phoenician : Script where
  names := ["phoenician", "phnx"]
  own := Run.ofCodes [
    0x10900_01091B_1, 0x1091F_01091F_1]
  shared := []

def Script.psalterPahlavi : Script where
  names := ["psalterpahlavi", "phlp"]
  own := Run.ofCodes [
    0x10B80_010B91_1, 0x10B99_010B9C_1, 0x10BA9_010BAF_1]
  shared := Run.ofCodes [
    0x0640_000640_1]

def Script.rejang : Script where
  names := ["rejang", "rjng"]
  own := Run.ofCodes [
    0xA930_00A953_1, 0xA95F_00A95F_1]
  shared := []

def Script.runic : Script where
  names := ["runic", "runr"]
  own := Run.ofCodes [
    0x16A0_0016EA_1, 0x16EE_0016F8_1]
  shared := Run.ofCodes [
    0x16EB_0016ED_1]

def Script.samaritan : Script where
  names := ["samaritan", "samr"]
  own := Run.ofCodes [
    0x0800_00082D_1, 0x0830_00083E_1]
  shared := Run.ofCodes [
    0x2E31_002E31_1]

def Script.saurashtra : Script where
  names := ["saurashtra", "saur"]
  own := Run.ofCodes [
    0xA880_00A8C5_1, 0xA8CE_00A8D9_1]
  shared := []

def Script.sharada : Script where
  names := ["sharada", "shrd"]
  own := Run.ofCodes [
    0x11180_0111DF_1]
  shared := Run.ofCodes [
    0x0951_000951_1, 0x1CD7_001CD7_1, 0x1CD9_001CD9_1, 0x1CDC_001CDD_1, 0x1CE0_001CE0_1,
    0x1CEA_001CEA_1, 0x1CED_001CED_1, 0xA830_00A835_1, 0xA838_00A838_1]

def Script.shavian : Script where
  names := ["shavian", "shaw"]
  own := Run.ofCodes [
    0x10450_01047F_1]
  shared := Run.ofCodes [
    0x00B7_0000B7_1]

def Script.siddham : Script where
  names := ["siddham", "sidd"]
  own := Run.ofCodes [
    0x11580_0115B5_1, 0x115B8_0115DD_1]
  shared := []

def Script.signWriting : Script where
  names := ["signwriting", "sgnw"]
  own := Run.ofCodes [
    0x1D800_01DA8B_1, 0x1DA9B_01DA9F_1, 0x1DAA1_01DAAF_1]
  shared := []

def Script.sinhala : Script where
  names := ["sinhala", "sinh"]
  own := Run.ofCodes [
    0x0D81_000D83_1, 0x0D85_000D96_1, 0x0D9A_000DB1_1, 0x0DB3_000DBB_1, 0x0DBD_000DBD_1,
    0x0DC0_000DC6_1, 0x0DCA_000DCA_1, 0x0DCF_000DD4_1, 0x0DD6_000DD6_1, 0x0DD8_000DDF_1,
    0x0DE6_000DEF_1, 0x0DF2_000DF4_1, 0x111E1_0111F4_1]
  shared := Run.ofCodes [
    0x0964_000965_1, 0x1CF2_001CF2_1]

def Script.sogdian : Script where
  names := ["sogdian", "sogd"]
  own := Run.ofCodes [
    0x10F30_010F59_1]
  shared := Run.ofCodes [
    0x0640_000640_1]

def Script.soraSompeng : Script where
  names := ["sorasompeng", "sora"]
  own := Run.ofCodes [
    0x110D0_0110E8_1, 0x110F0_0110F9_1]
  shared := []

def Script.soyombo : Script where
  names := ["soyombo", "soyo"]
  own := Run.ofCodes [
    0x11A50_011AA2_1]
  shared := []

def Script.sundanese : Script where
  names := ["sundanese", "sund"]
  own := Run.ofCodes [
    0x1B80_001BBF_1, 0x1CC0_001CC7_1]
  shared := []

def Script.sunuwar : Script where
  names := ["sunuwar", "sunu"]
  own := Run.ofCodes [
    0x11BC0_011BE1_1, 0x11BF0_011BF9_1]
  shared := Run.ofCodes [
    0x0300_000301_1, 0x0303_000303_1, 0x030D_00030D_1, 0x0310_000310_1, 0x032D_00032D_1,
    0x0331_000331_1]

def Script.sylotiNagri : Script where
  names := ["sylotinagri", "sylo"]
  own := Run.ofCodes [
    0xA800_00A82C_1]
  shared := Run.ofCodes [
    0x0964_000965_1, 0x09E6_0009EF_1]

def Script.syriac : Script where
  names := ["syriac", "syrc"]
  own := Run.ofCodes [
    0x0700_00070D_1, 0x070F_00074A_1, 0x074D_00074F_1, 0x0860_00086A_1]
  shared := Run.ofCodes [
    0x0303_000304_1, 0x0307_000308_1, 0x030A_00030A_1, 0x0323_000325_1, 0x032D_00032E_1,
    0x0330_000331_1, 0x060C_00060C_1, 0x061B_00061C_1, 0x061F_00061F_1, 0x0640_000640_1,
    0x064B_000655_1, 0x0670_000670_1, 0x1DF8_001DF8_1, 0x1DFA_001DFA_1]

def Script.tagalog : Script where
  names := ["tagalog", "tglg"]
  own := Run.ofCodes [
    0x1700_001715_1, 0x171F_00171F_1]
  shared := Run.ofCodes [
    0x1735_001736_1]

def Script.tagbanwa : Script where
  names := ["tagbanwa", "tagb"]
  own := Run.ofCodes [
    0x1760_00176C_1, 0x176E_001770_1, 0x1772_001773_1]
  shared := Run.ofCodes [
    0x1735_001736_1]

def Script.taiLe : Script where
  names := ["taile", "tale"]
  own := Run.ofCodes [
    0x1950_00196D_1, 0x1970_001974_1]
  shared := Run.ofCodes [
    0x0300_000301_1, 0x0307_000308_1, 0x030C_00030C_1, 0x1040_001049_1]

def Script.taiTham : Script where
  names := ["taitham", "lana"]
  own := Run.ofCodes [
    0x1A20_001A5E_1, 0x1A60_001A7C_1, 0x1A7F_001A89_1, 0x1A90_001A99_1, 0x1AA0_001AAD_1]
  shared := []

def Script.taiViet : Script where
  names := ["taiviet", "tavt"]
  own := Run.ofCodes [
    0xAA80_00AAC2_1, 0xAADB_00AADF_1]
  shared := []

def Script.takri : Script where
  names := ["takri", "takr"]
  own := Run.ofCodes [
    0x11680_0116B9_1, 0x116C0_0116C9_1]
  shared := Run.ofCodes [
    0x0964_000965_1, 0xA830_00A839_1]

def Script.tamil : Script where
  names := ["tamil", "taml"]
  own := Run.ofCodes [
    0x0B82_000B83_1, 0x0B85_000B8A_1, 0x0B8E_000B90_1, 0x0B92_000B95_1, 0x0B99_000B9A_1,
    0x0B9C_000B9C_1, 0x0B9E_000B9F_1, 0x0BA3_000BA4_1, 0x0BA8_000BAA_1, 0x0BAE_000BB9_1,
    0x0BBE_000BC2_1, 0x0BC6_000BC8_1, 0x0BCA_000BCD_1, 0x0BD0_000BD0_1, 0x0BD7_000BD7_1,
    0x0BE6_000BFA_1, 0x11FC0_011FF1_1, 0x11FFF_011FFF_1]
  shared := Run.ofCodes [
    0x0951_000952_1, 0x0964_000965_1, 0x1CDA_001CDA_1, 0xA8F3_00A8F3_1, 0x11301_011301_1,
    0x11303_011303_1, 0x1133B_01133C_1]

def Script.tangsa : Script where
  names := ["tangsa", "tnsa"]
  own := Run.ofCodes [
    0x16A70_016ABE_1, 0x16AC0_016AC9_1]
  shared := []

def Script.tangut : Script where
  names := ["tangut", "tang"]
  own := Run.ofCodes [
    0x16FE0_016FE0_1, 0x17000_0187F7_1, 0x18800_018AFF_1, 0x18D00_018D08_1]
  shared := Run.ofCodes [
    0x2FF0_002FFF_1, 0x31EF_0031EF_1]

def Script.telugu : Script where
  names := ["telugu", "telu"]
  own := Run.ofCodes [
    0x0C00_000C0C_1, 0x0C0E_000C10_1, 0x0C12_000C28_1, 0x0C2A_000C39_1, 0x0C3C_000C44_1,
    0x0C46_000C48_1, 0x0C4A_000C4D_1, 0x0C55_000C56_1, 0x0C58_000C5A_1, 0x0C5D_000C5D_1,
    0x0C60_000C63_1, 0x0C66_000C6F_1, 0x0C77_000C7F_1]
  shared := Run.ofCodes [
    0x0951_000952_1, 0x0964_000965_1, 0x1CD5_001CD6_1, 0x1CD8_001CD8_1, 0x1CDA_001CDA_1,
    0x1CF2_001CF2_1]

def Script.thaana : Script where
  names := ["thaana", "thaa"]
  own := Run.ofCodes [
    0x0780_0007B1_1]
  shared := Run.ofCodes [
    0x060C_00060C_1, 0x061B_00061C_1, 0x061F_00061F_1, 0x0660_000669_1, 0xFDF2_00FDF2_1,
    0xFDFD_00FDFD_1]

def Script.thai : Script where
  names := ["thai"]
  own := Run.ofCodes [
    0x0E01_000E3A_1, 0x0E40_000E5B_1]
  shared := Run.ofCodes [
    0x02BC_0002BC_1, 0x02D7_0002D7_1, 0x0303_000303_1, 0x0331_000331_1]

def Script.tibetan : Script where
  names := ["tibetan", "tibt"]
  own := Run.ofCodes [
    0x0F00_000F47_1, 0x0F49_000F6C_1, 0x0F71_000F97_1, 0x0F99_000FBC_1, 0x0FBE_000FCC_1,
    0x0FCE_000FD4_1, 0x0FD9_000FDA_1]
  shared := Run.ofCodes [
    0x3008_00300B_1]

def Script.tifinagh : Script where
  names := ["tifinagh", "tfng"]
  own := Run.ofCodes [
    0x2D30_002D67_1, 0x2D6F_002D70_1, 0x2D7F_002D7F_1]
  shared := Run.ofCodes [
    0x0302_000302_1, 0x0304_000304_1, 0x0306_000309_1, 0x0323_000323_1]

def Script.tirhuta : Script where
  names := ["tirhuta", "tirh"]
  own := Run.ofCodes [
    0x11480_0114C7_1, 0x114D0_0114D9_1]
  shared := Run.ofCodes [
    0x0951_000952_1, 0x0964_000965_1, 0x1CD5_001CD5_1, 0x1CE2_001CE2_1, 0x1CF2_001CF2_1,
    0xA830_00A839_1]

def Script.todhri : Script where
  names := ["todhri", "todr"]
  own := Run.ofCodes [
    0x105C0_0105F3_1]
  shared := Run.ofCodes [
    0x0301_000307_3, 0x0311_000311_1, 0x0313_000313_1, 0x035E_00035E_1]

def Script.toto : Script where
  names := ["toto"]
  own := Run.ofCodes [
    0x1E290_01E2AE_1]
  shared := Run.ofCodes [
    0x02BC_0002BC_1]

def Script.tuluTigalari : Script where
  names := ["tulutigalari", "tutg"]
  own := Run.ofCodes [
    0x11380_011389_1, 0x1138B_01138B_1, 0x1138E_01138E_1, 0x11390_0113B5_1, 0x113B7_0113C0_1,
    0x113C2_0113C2_1, 0x113C5_0113C5_1, 0x113C7_0113CA_1, 0x113CC_0113D5_1, 0x113D7_0113D8_1,
    0x113E1_0113E2_1]
  shared := Run.ofCodes [
    0x0CE6_000CEF_1, 0x1CF2_001CF2_1, 0x1CF4_001CF4_1, 0xA830_00A835_1, 0xA8F1_00A8F1_1]

def Script.ugaritic : Script where
  names := ["ugaritic", "ugar"]
  own := Run.ofCodes [
    0x10380_01039D_1, 0x1039F_01039F_1]
  shared := []

def Script.vai : Script where
  names := ["vai", "vaii"]
  own := Run.ofCodes [
    0xA500_00A62B_1]
  shared := []

def Script.vithkuqi : Script where
  names := ["vithkuqi", "vith"]
  own := Run.ofCodes [
    0x10570_01057A_1, 0x1057C_01058A_1, 0x1058C_010592_1, 0x10594_010595_1, 0x10597_0105A1_1,
    0x105A3_0105B1_1, 0x105B3_0105B9_1, 0x105BB_0105BC_1]
  shared := []

def Script.wancho : Script where
  names := ["wancho", "wcho"]
  own := Run.ofCodes [
    0x1E2C0_01E2F9_1, 0x1E2FF_01E2FF_1]
  shared := []

def Script.warangCiti : Script where
  names := ["warangciti", "wara"]
  own := Run.ofCodes [
    0x118A0_0118F2_1, 0x118FF_0118FF_1]
  shared := []

def Script.yezidi : Script where
  names := ["yezidi", "yezi"]
  own := Run.ofCodes [
    0x10E80_010EA9_1, 0x10EAB_010EAD_1, 0x10EB0_010EB1_1]
  shared := Run.ofCodes [
    0x060C_00060C_1, 0x061B_00061B_1, 0x061F_00061F_1, 0x0660_000669_1]

def Script.yi : Script where
  names := ["yi", "yiii"]
  own := Run.ofCodes [
    0xA000_00A48C_1, 0xA490_00A4C6_1]
  shared := Run.ofCodes [
    0x3001_003002_1, 0x3008_003011_1, 0x3014_00301B_1, 0x30FB_0030FB_1, 0xFF61_00FF65_1]

def Script.zanabazarSquare : Script where
  names := ["zanabazarsquare", "zanb"]
  own := Run.ofCodes [
    0x11A00_011A47_1]
  shared := []

set_option maxRecDepth 4000 in
/-- Every script of the standard, by name. -/
def scripts : List Script := [
  Script.adlam, Script.ahom, Script.anatolianHieroglyphs, Script.arabic, Script.armenian,
  Script.avestan, Script.balinese, Script.bamum, Script.bassaVah, Script.batak, Script.bengali,
  Script.bhaiksuki, Script.bopomofo, Script.brahmi, Script.braille, Script.buginese, Script.buhid,
  Script.canadianAboriginal, Script.carian, Script.caucasianAlbanian, Script.chakma, Script.cham,
  Script.cherokee, Script.chorasmian, Script.common, Script.coptic, Script.cuneiform,
  Script.cypriot, Script.cyproMinoan, Script.cyrillic, Script.deseret, Script.devanagari,
  Script.divesAkuru, Script.dogra, Script.duployan, Script.egyptianHieroglyphs, Script.elbasan,
  Script.elymaic, Script.ethiopic, Script.garay, Script.georgian, Script.glagolitic, Script.gothic,
  Script.grantha, Script.greek, Script.gujarati, Script.gunjalaGondi, Script.gurmukhi,
  Script.gurungKhema, Script.han, Script.hangul, Script.hanifiRohingya, Script.hanunoo,
  Script.hatran, Script.hebrew, Script.hiragana, Script.imperialAramaic, Script.inherited,
  Script.inscriptionalPahlavi, Script.inscriptionalParthian, Script.javanese, Script.kaithi,
  Script.kannada, Script.katakana, Script.kawi, Script.kayahLi, Script.kharoshthi,
  Script.khitanSmallScript, Script.khmer, Script.khojki, Script.khudawadi, Script.kiratRai,
  Script.lao, Script.latin, Script.lepcha, Script.limbu, Script.linearA, Script.linearB,
  Script.lisu, Script.lycian, Script.lydian, Script.mahajani, Script.makasar, Script.malayalam,
  Script.mandaic, Script.manichaean, Script.marchen, Script.masaramGondi, Script.medefaidrin,
  Script.meeteiMayek, Script.mendeKikakui, Script.meroiticCursive, Script.meroiticHieroglyphs,
  Script.miao, Script.modi, Script.mongolian, Script.mro, Script.multani, Script.myanmar,
  Script.nabataean, Script.nagMundari, Script.nandinagari, Script.newTaiLue, Script.newa,
  Script.nko, Script.nushu, Script.nyiakengPuachueHmong, Script.ogham, Script.olChiki,
  Script.olOnal, Script.oldHungarian, Script.oldItalic, Script.oldNorthArabian, Script.oldPermic,
  Script.oldPersian, Script.oldSogdian, Script.oldSouthArabian, Script.oldTurkic, Script.oldUyghur,
  Script.oriya, Script.osage, Script.osmanya, Script.pahawhHmong, Script.palmyrene,
  Script.pauCinHau, Script.phagsPa, Script.phoenician, Script.psalterPahlavi, Script.rejang,
  Script.runic, Script.samaritan, Script.saurashtra, Script.sharada, Script.shavian, Script.siddham,
  Script.signWriting, Script.sinhala, Script.sogdian, Script.soraSompeng, Script.soyombo,
  Script.sundanese, Script.sunuwar, Script.sylotiNagri, Script.syriac, Script.tagalog,
  Script.tagbanwa, Script.taiLe, Script.taiTham, Script.taiViet, Script.takri, Script.tamil,
  Script.tangsa, Script.tangut, Script.telugu, Script.thaana, Script.thai, Script.tibetan,
  Script.tifinagh, Script.tirhuta, Script.todhri, Script.toto, Script.tuluTigalari, Script.ugaritic,
  Script.vai, Script.vithkuqi, Script.wancho, Script.warangCiti, Script.yezidi, Script.yi,
  Script.zanabazarSquare]

end AdFilter.Text
