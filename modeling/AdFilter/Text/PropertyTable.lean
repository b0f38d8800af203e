import AdFilter.Text.Run

/-!
# The properties of characters that no rule derives

Most properties of characters follow from the general categories. The lists here are what is left:
properties the standard simply lists, and the exceptions to the rules of the others.
-/

namespace AdFilter.Text.PropertyTable

/-- Alphabetic characters that no letter category covers. -/
def otherAlphabetic : List Run := Run.ofCodes [
  0x0363_00036F_1, 0x05B0_0005BD_1, 0x05BF_0005BF_1, 0x05C1_0005C2_1, 0x05C4_0005C5_1,
  0x05C7_0005C7_1, 0x0610_00061A_1, 0x064B_000657_1, 0x0659_00065F_1, 0x0670_000670_1,
  0x06D6_0006DC_1, 0x06E1_0006E4_1, 0x06E7_0006E8_1, 0x06ED_0006ED_1, 0x0711_000711_1,
  0x0730_00073F_1, 0x07A6_0007B0_1, 0x0816_000817_1, 0x081B_000823_1, 0x0825_000827_1,
  0x0829_00082C_1, 0x0897_000897_1, 0x08D4_0008DF_1, 0x08E3_0008E9_1, 0x08F0_000903_1,
  0x093A_00093B_1, 0x093E_00094C_1, 0x094E_00094F_1, 0x0955_000957_1, 0x0962_000963_1,
  0x0981_000983_1, 0x09BE_0009C4_1, 0x09C7_0009C8_1, 0x09CB_0009CC_1, 0x09D7_0009D7_1,
  0x09E2_0009E3_1, 0x0A01_000A03_1, 0x0A3E_000A42_1, 0x0A47_000A48_1, 0x0A4B_000A4C_1,
  0x0A51_000A51_1, 0x0A70_000A71_1, 0x0A75_000A75_1, 0x0A81_000A83_1, 0x0ABE_000AC5_1,
  0x0AC7_000AC9_1, 0x0ACB_000ACC_1, 0x0AE2_000AE3_1, 0x0AFA_000AFC_1, 0x0B01_000B03_1,
  0x0B3E_000B44_1, 0x0B47_000B48_1, 0x0B4B_000B4C_1, 0x0B56_000B57_1, 0x0B62_000B63_1,
  0x0B82_000B82_1, 0x0BBE_000BC2_1, 0x0BC6_000BC8_1, 0x0BCA_000BCC_1, 0x0BD7_000BD7_1,
  0x0C00_000C04_1, 0x0C3E_000C44_1, 0x0C46_000C48_1, 0x0C4A_000C4C_1, 0x0C55_000C56_1,
  0x0C62_000C63_1, 0x0C81_000C83_1, 0x0CBE_000CC4_1, 0x0CC6_000CC8_1, 0x0CCA_000CCC_1,
  0x0CD5_000CD6_1, 0x0CE2_000CE3_1, 0x0CF3_000CF3_1, 0x0D00_000D03_1, 0x0D3E_000D44_1,
  0x0D46_000D48_1, 0x0D4A_000D4C_1, 0x0D57_000D57_1, 0x0D62_000D63_1, 0x0D81_000D83_1,
  0x0DCF_000DD4_1, 0x0DD6_000DD6_1, 0x0DD8_000DDF_1, 0x0DF2_000DF3_1, 0x0E31_000E31_1,
  0x0E34_000E3A_1, 0x0E4D_000E4D_1, 0x0EB1_000EB1_1, 0x0EB4_000EB9_1, 0x0EBB_000EBC_1,
  0x0ECD_000ECD_1, 0x0F71_000F83_1, 0x0F8D_000F97_1, 0x0F99_000FBC_1, 0x102B_001036_1,
  0x1038_001038_1, 0x103B_00103E_1, 0x1056_001059_1, 0x105E_001060_1, 0x1062_001064_1,
  0x1067_00106D_1, 0x1071_001074_1, 0x1082_00108D_1, 0x108F_00108F_1, 0x109A_00109D_1,
  0x1712_001713_1, 0x1732_001733_1, 0x1752_001753_1, 0x1772_001773_1, 0x17B6_0017C8_1,
  0x1885_001886_1, 0x18A9_0018A9_1, 0x1920_00192B_1, 0x1930_001938_1, 0x1A17_001A1B_1,
  0x1A55_001A5E_1, 0x1A61_001A74_1, 0x1ABF_001AC0_1, 0x1ACC_001ACE_1, 0x1B00_001B04_1,
  0x1B35_001B43_1, 0x1B80_001B82_1, 0x1BA1_001BA9_1, 0x1BAC_001BAD_1, 0x1BE7_001BF1_1,
  0x1C24_001C36_1, 0x1DD3_001DF4_1, 0x2DE0_002DFF_1, 0xA674_00A67B_1, 0xA69E_00A69F_1,
  0xA802_00A802_1, 0xA80B_00A80B_1, 0xA823_00A827_1, 0xA880_00A881_1, 0xA8B4_00A8C3_1,
  0xA8C5_00A8C5_1, 0xA8FF_00A8FF_1, 0xA926_00A92A_1, 0xA947_00A952_1, 0xA980_00A983_1,
  0xA9B4_00A9BF_1, 0xA9E5_00A9E5_1, 0xAA29_00AA36_1, 0xAA43_00AA43_1, 0xAA4C_00AA4D_1,
  0xAA7B_00AA7D_1, 0xAAB0_00AAB0_1, 0xAAB2_00AAB4_1, 0xAAB7_00AAB8_1, 0xAABE_00AABE_1,
  0xAAEB_00AAEF_1, 0xAAF5_00AAF5_1, 0xABE3_00ABEA_1, 0xFB1E_00FB1E_1, 0x10376_01037A_1,
  0x10A01_010A03_1, 0x10A05_010A06_1, 0x10A0C_010A0F_1, 0x10D24_010D27_1, 0x10D69_010D69_1,
  0x10EAB_010EAC_1, 0x10EFC_010EFC_1, 0x11000_011002_1, 0x11038_011045_1, 0x11073_011074_1,
  0x11080_011082_1, 0x110B0_0110B8_1, 0x110C2_0110C2_1, 0x11100_011102_1, 0x11127_011132_1,
  0x11145_011146_1, 0x11180_011182_1, 0x111B3_0111BF_1, 0x111CE_0111CF_1, 0x1122C_011234_1,
  0x11237_011237_1, 0x1123E_01123E_1, 0x11241_011241_1, 0x112DF_0112E8_1, 0x11300_011303_1,
  0x1133E_011344_1, 0x11347_011348_1, 0x1134B_01134C_1, 0x11357_011357_1, 0x11362_011363_1,
  0x113B8_0113C0_1, 0x113C2_0113C2_1, 0x113C5_0113C5_1, 0x113C7_0113CA_1, 0x113CC_0113CD_1,
  0x11435_011441_1, 0x11443_011445_1, 0x114B0_0114C1_1, 0x115AF_0115B5_1, 0x115B8_0115BE_1,
  0x115DC_0115DD_1, 0x11630_01163E_1, 0x11640_011640_1, 0x116AB_0116B5_1, 0x1171D_01172A_1,
  0x1182C_011838_1, 0x11930_011935_1, 0x11937_011938_1, 0x1193B_01193C_1, 0x11940_011940_1,
  0x11942_011942_1, 0x119D1_0119D7_1, 0x119DA_0119DF_1, 0x119E4_0119E4_1, 0x11A01_011A0A_1,
  0x11A35_011A39_1, 0x11A3B_011A3E_1, 0x11A51_011A5B_1, 0x11A8A_011A97_1, 0x11C2F_011C36_1,
  0x11C38_011C3E_1, 0x11C92_011CA7_1, 0x11CA9_011CB6_1, 0x11D31_011D36_1, 0x11D3A_011D3A_1,
  0x11D3C_011D3D_1, 0x11D3F_011D41_1, 0x11D43_011D43_1, 0x11D47_011D47_1, 0x11D8A_011D8E_1,
  0x11D90_011D91_1, 0x11D93_011D96_1, 0x11EF3_011EF6_1, 0x11F00_011F01_1, 0x11F03_011F03_1,
  0x11F34_011F3A_1, 0x11F3E_011F40_1, 0x1611E_01612E_1, 0x16F4F_016F4F_1, 0x16F51_016F87_1,
  0x16F8F_016F92_1, 0x16FF0_016FF1_1, 0x1BC9E_01BC9E_1, 0x1E000_01E006_1, 0x1E008_01E018_1,
  0x1E01B_01E021_1, 0x1E023_01E024_1, 0x1E026_01E02A_1, 0x1E08F_01E08F_1, 0x1E947_01E947_1]

/-- Lowercase characters that are not lowercase letters. -/
def otherLowercase : List Run := Run.ofCodes [
  0x00AA_0000AA_1, 0x00BA_0000BA_1, 0x02B0_0002B8_1, 0x02C0_0002C1_1, 0x02E0_0002E4_1,
  0x0345_000345_1, 0x037A_00037A_1, 0x10FC_0010FC_1, 0x1D2C_001D6A_1, 0x1D78_001D78_1,
  0x1D9B_001DBF_1, 0x2071_002071_1, 0x207F_00207F_1, 0x2090_00209C_1, 0x2170_00217F_1,
  0x24D0_0024E9_1, 0x2C7C_002C7D_1, 0xA69C_00A69D_1, 0xA770_00A770_1, 0xA7F2_00A7F4_1,
  0xA7F8_00A7F9_1, 0xAB5C_00AB5F_1, 0xAB69_00AB69_1, 0x10780_010780_1, 0x10783_010785_1,
  0x10787_0107B0_1, 0x107B2_0107BA_1, 0x1E030_01E06D_1]

/-- Uppercase characters that are not uppercase letters. -/
def otherUppercase : List Run := Run.ofCodes [
  0x2160_00216F_1, 0x24B6_0024CF_1, 0x1F130_01F149_1, 0x1F150_01F169_1, 0x1F170_01F189_1]

/-- Mathematical characters that are not mathematical symbols. -/
def otherMath : List Run := Run.ofCodes [
  0x005E_00005E_1, 0x03D0_0003D2_1, 0x03D5_0003D5_1, 0x03F0_0003F1_1, 0x03F4_0003F5_1,
  0x2016_002016_1, 0x2032_002034_1, 0x2040_002040_1, 0x2061_002064_1, 0x207D_00207E_1,
  0x208D_00208E_1, 0x20D0_0020DC_1, 0x20E1_0020E1_1, 0x20E5_0020E6_1, 0x20EB_0020EF_1,
  0x2102_002102_1, 0x2107_002107_1, 0x210A_002113_1, 0x2115_002115_1, 0x2119_00211D_1,
  0x2124_002124_1, 0x2128_002129_1, 0x212C_00212D_1, 0x212F_002131_1, 0x2133_002138_1,
  0x213C_00213F_1, 0x2145_002149_1, 0x2195_002199_1, 0x219C_00219F_1, 0x21A1_0021A2_1,
  0x21A4_0021A5_1, 0x21A7_0021A7_1, 0x21A9_0021AD_1, 0x21B0_0021B1_1, 0x21B6_0021B7_1,
  0x21BC_0021CD_1, 0x21D0_0021D1_1, 0x21D3_0021D3_1, 0x21D5_0021DB_1, 0x21DD_0021DD_1,
  0x21E4_0021E5_1, 0x2308_00230B_1, 0x23B4_0023B5_1, 0x23B7_0023B7_1, 0x23D0_0023D0_1,
  0x23E2_0023E2_1, 0x25A0_0025A1_1, 0x25AE_0025B6_1, 0x25BC_0025C0_1, 0x25C6_0025C7_1,
  0x25CA_0025CB_1, 0x25CF_0025D3_1, 0x25E2_0025E2_1, 0x25E4_0025E4_1, 0x25E7_0025EC_1,
  0x2605_002606_1, 0x2640_002640_1, 0x2642_002642_1, 0x2660_002663_1, 0x266D_00266E_1,
  0x27C5_0027C6_1, 0x27E6_0027EF_1, 0x2983_002998_1, 0x29D8_0029DB_1, 0x29FC_0029FD_1,
  0xFE61_00FE61_1, 0xFE63_00FE63_1, 0xFE68_00FE68_1, 0xFF3C_00FF3C_1, 0xFF3E_00FF3E_1,
  0x1D400_01D454_1, 0x1D456_01D49C_1, 0x1D49E_01D49F_1, 0x1D4A2_01D4A2_1, 0x1D4A5_01D4A6_1,
  0x1D4A9_01D4AC_1, 0x1D4AE_01D4B9_1, 0x1D4BB_01D4BB_1, 0x1D4BD_01D4C3_1, 0x1D4C5_01D505_1,
  0x1D507_01D50A_1, 0x1D50D_01D514_1, 0x1D516_01D51C_1, 0x1D51E_01D539_1, 0x1D53B_01D53E_1,
  0x1D540_01D544_1, 0x1D546_01D546_1, 0x1D54A_01D550_1, 0x1D552_01D6A5_1, 0x1D6A8_01D6C0_1,
  0x1D6C2_01D6DA_1, 0x1D6DC_01D6FA_1, 0x1D6FC_01D714_1, 0x1D716_01D734_1, 0x1D736_01D74E_1,
  0x1D750_01D76E_1, 0x1D770_01D788_1, 0x1D78A_01D7A8_1, 0x1D7AA_01D7C2_1, 0x1D7C4_01D7CB_1,
  0x1D7CE_01D7FF_1, 0x1EE00_01EE03_1, 0x1EE05_01EE1F_1, 0x1EE21_01EE22_1, 0x1EE24_01EE24_1,
  0x1EE27_01EE27_1, 0x1EE29_01EE32_1, 0x1EE34_01EE37_1, 0x1EE39_01EE39_1, 0x1EE3B_01EE3B_1,
  0x1EE42_01EE42_1, 0x1EE47_01EE4B_2, 0x1EE4D_01EE4F_1, 0x1EE51_01EE52_1, 0x1EE54_01EE54_1,
  0x1EE57_01EE5F_2, 0x1EE61_01EE62_1, 0x1EE64_01EE64_1, 0x1EE67_01EE6A_1, 0x1EE6C_01EE72_1,
  0x1EE74_01EE77_1, 0x1EE79_01EE7C_1, 0x1EE7E_01EE7E_1, 0x1EE80_01EE89_1, 0x1EE8B_01EE9B_1,
  0x1EEA1_01EEA3_1, 0x1EEA5_01EEA9_1, 0x1EEAB_01EEBB_1]

/-- Characters that may start an identifier though they are no letters. -/
def otherIdStart : List Run := Run.ofCodes [
  0x1885_001886_1, 0x2118_002118_1, 0x212E_00212E_1, 0x309B_00309C_1]

/-- Characters that may continue an identifier though no category says so. -/
def otherIdContinue : List Run := Run.ofCodes [
  0x00B7_0000B7_1, 0x0387_000387_1, 0x1369_001371_1, 0x19DA_0019DA_1, 0x200C_00200D_1,
  0x30FB_0030FB_1, 0xFF65_00FF65_1]

/-- Characters that extend a grapheme though they are no marks. -/
def otherGraphemeExtend : List Run := Run.ofCodes [
  0x09BE_0009BE_1, 0x09D7_0009D7_1, 0x0B3E_000B3E_1, 0x0B57_000B57_1, 0x0BBE_000BBE_1,
  0x0BD7_000BD7_1, 0x0CC0_000CC0_1, 0x0CC2_000CC2_1, 0x0CC7_000CC8_1, 0x0CCA_000CCB_1,
  0x0CD5_000CD6_1, 0x0D3E_000D3E_1, 0x0D57_000D57_1, 0x0DCF_000DCF_1, 0x0DDF_000DDF_1,
  0x1715_001715_1, 0x1734_001734_1, 0x1B35_001B35_1, 0x1B3B_001B3B_1, 0x1B3D_001B3D_1,
  0x1B43_001B44_1, 0x1BAA_001BAA_1, 0x1BF2_001BF3_1, 0x200C_00200C_1, 0x302E_00302F_1,
  0xA953_00A953_1, 0xA9C0_00A9C0_1, 0xFF9E_00FF9F_1, 0x111C0_0111C0_1, 0x11235_011235_1,
  0x1133E_01133E_1, 0x1134D_01134D_1, 0x11357_011357_1, 0x113B8_0113B8_1, 0x113C2_0113C2_1,
  0x113C5_0113C5_1, 0x113C7_0113C9_1, 0x113CF_0113CF_1, 0x114B0_0114B0_1, 0x114BD_0114BD_1,
  0x115AF_0115AF_1, 0x116B6_0116B6_1, 0x11930_011930_1, 0x1193D_01193D_1, 0x11F41_011F41_1,
  0x16FF0_016FF1_1, 0x1D165_01D166_1, 0x1D16D_01D172_1, 0xE0020_0E007F_1]

/-- Code points to ignore by default besides formats and variation selectors. -/
def otherDefaultIgnorable : List Run := Run.ofCodes [
  0x034F_00034F_1, 0x115F_001160_1, 0x17B4_0017B5_1, 0x2065_002065_1, 0x3164_003164_1,
  0xFFA0_00FFA0_1, 0xFFF0_00FFF8_1, 0xE0000_0E0000_1, 0xE0002_0E001F_1, 0xE0080_0E00FF_1,
  0xE01F0_0E0FFF_1]

/-- Format characters that are not to be ignored by default. -/
def visibleFormat : List Run := Run.ofCodes [
  0x0600_000605_1, 0x06DD_0006DD_1, 0x070F_00070F_1, 0x0890_000891_1, 0x08E2_0008E2_1,
  0xFFF9_00FFFB_1, 0x110BD_0110BD_1, 0x110CD_0110CD_1, 0x13430_01343F_1]

/-- Punctuation inside words that case rules pass over. -/
def wordMiddle : List Run := Run.ofCodes [
  0x0027_000027_1, 0x002E_00002E_1, 0x003A_00003A_1, 0x00B7_0000B7_1, 0x0387_000387_1,
  0x055F_00055F_1, 0x05F4_0005F4_1, 0x2018_002019_1, 0x2024_002024_1, 0x2027_002027_1,
  0xFE13_00FE13_1, 0xFE52_00FE52_1, 0xFE55_00FE55_1, 0xFF07_00FF07_1, 0xFF0E_00FF0E_1,
  0xFF1A_00FF1A_1]

/-- Identifier starts that composition may turn into something else. -/
def notExtendedStart : List Run := Run.ofCodes [
  0x037A_00037A_1, 0x0E33_000E33_1, 0x0EB3_000EB3_1, 0x309B_00309C_1, 0xFC5E_00FC63_1,
  0xFDFA_00FDFB_1, 0xFE70_00FE7E_2, 0xFF9E_00FF9F_1]

/-- Identifier parts that composition may turn into something else. -/
def notExtendedContinue : List Run := Run.ofCodes [
  0x037A_00037A_1, 0x309B_00309C_1, 0xFC5E_00FC63_1, 0xFDFA_00FDFB_1, 0xFE70_00FE7E_2]

/-- Hexadecimal digits in ASCII. -/
def asciiHexDigit : List Run := Run.ofCodes [
  0x0030_000039_1, 0x0041_000046_1, 0x0061_000066_1]

/-- Hexadecimal digits. -/
def hexDigit : List Run := Run.ofCodes [
  0x0030_000039_1, 0x0041_000046_1, 0x0061_000066_1, 0xFF10_00FF19_1, 0xFF21_00FF26_1,
  0xFF41_00FF46_1]

/-- Controls of the bidirectional algorithm. -/
def bidiControl : List Run := Run.ofCodes [
  0x061C_00061C_1, 0x200E_00200F_1, 0x202A_00202E_1, 0x2066_002069_1]

/-- Characters whose decomposition changes under full case folding. -/
def changesWhenCasefolded : List Run := Run.ofCodes [
  0x0041_00005A_1, 0x00B5_0000B5_1, 0x00C0_0000D6_1, 0x00D8_0000DF_1, 0x0100_000136_2,
  0x0139_000147_2, 0x0149_00014A_1, 0x014C_000176_2, 0x0178_000179_1, 0x017B_00017F_2,
  0x0181_000182_1, 0x0184_000184_1, 0x0186_000187_1, 0x0189_00018B_1, 0x018E_000191_1,
  0x0193_000194_1, 0x0196_000198_1, 0x019C_00019D_1, 0x019F_0001A0_1, 0x01A2_0001A2_1,
  0x01A4_0001A4_1, 0x01A6_0001A7_1, 0x01A9_0001A9_1, 0x01AC_0001AC_1, 0x01AE_0001AF_1,
  0x01B1_0001B3_1, 0x01B5_0001B5_1, 0x01B7_0001B8_1, 0x01BC_0001BC_1, 0x01C4_0001C5_1,
  0x01C7_0001C8_1, 0x01CA_0001CB_1, 0x01CD_0001DB_2, 0x01DE_0001EE_2, 0x01F1_0001F2_1,
  0x01F4_0001F4_1, 0x01F6_0001F8_1, 0x01FA_000232_2, 0x023A_00023B_1, 0x023D_00023E_1,
  0x0241_000241_1, 0x0243_000246_1, 0x0248_00024E_2, 0x0345_000345_1, 0x0370_000370_1,
  0x0372_000372_1, 0x0376_000376_1, 0x037F_00037F_1, 0x0386_000386_1, 0x0388_00038A_1,
  0x038C_00038C_1, 0x038E_00038F_1, 0x0391_0003A1_1, 0x03A3_0003AB_1, 0x03C2_0003C2_1,
  0x03CF_0003D1_1, 0x03D5_0003D6_1, 0x03D8_0003EE_2, 0x03F0_0003F1_1, 0x03F4_0003F5_1,
  0x03F7_0003F7_1, 0x03F9_0003FA_1, 0x03FD_00042F_1, 0x0460_000480_2, 0x048A_0004BE_2,
  0x04C0_0004C1_1, 0x04C3_0004CD_2, 0x04D0_00052E_2, 0x0531_000556_1, 0x0587_000587_1,
  0x10A0_0010C5_1, 0x10C7_0010C7_1, 0x10CD_0010CD_1, 0x13F8_0013FD_1, 0x1C80_001C89_1,
  0x1C90_001CBA_1, 0x1CBD_001CBF_1, 0x1E00_001E94_2, 0x1E9A_001E9B_1, 0x1E9E_001EFE_2,
  0x1F08_001F0F_1, 0x1F18_001F1D_1, 0x1F28_001F2F_1, 0x1F38_001F3F_1, 0x1F48_001F4D_1,
  0x1F59_001F5F_2, 0x1F68_001F6F_1, 0x1F80_001FAF_1, 0x1FB2_001FB4_1, 0x1FB7_001FBC_1,
  0x1FC2_001FC4_1, 0x1FC7_001FCC_1, 0x1FD8_001FDB_1, 0x1FE8_001FEC_1, 0x1FF2_001FF4_1,
  0x1FF7_001FFC_1, 0x2126_002126_1, 0x212A_00212B_1, 0x2132_002132_1, 0x2160_00216F_1,
  0x2183_002183_1, 0x24B6_0024CF_1, 0x2C00_002C2F_1, 0x2C60_002C60_1, 0x2C62_002C64_1,
  0x2C67_002C6B_2, 0x2C6D_002C70_1, 0x2C72_002C72_1, 0x2C75_002C75_1, 0x2C7E_002C80_1,
  0x2C82_002CE2_2, 0x2CEB_002CEB_1, 0x2CED_002CED_1, 0x2CF2_002CF2_1, 0xA640_00A66C_2,
  0xA680_00A69A_2, 0xA722_00A72E_2, 0xA732_00A76E_2, 0xA779_00A779_1, 0xA77B_00A77B_1,
  0xA77D_00A77E_1, 0xA780_00A786_2, 0xA78B_00A78B_1, 0xA78D_00A78D_1, 0xA790_00A790_1,
  0xA792_00A792_1, 0xA796_00A7A8_2, 0xA7AA_00A7AE_1, 0xA7B0_00A7B4_1, 0xA7B6_00A7C2_2,
  0xA7C4_00A7C7_1, 0xA7C9_00A7C9_1, 0xA7CB_00A7CC_1, 0xA7D0_00A7D0_1, 0xA7D6_00A7DC_2,
  0xA7F5_00A7F5_1, 0xAB70_00ABBF_1, 0xFB00_00FB06_1, 0xFB13_00FB17_1, 0xFF21_00FF3A_1,
  0x10400_010427_1, 0x104B0_0104D3_1, 0x10570_01057A_1, 0x1057C_01058A_1, 0x1058C_010592_1,
  0x10594_010595_1, 0x10C80_010CB2_1, 0x10D50_010D65_1, 0x118A0_0118BF_1, 0x16E40_016E5F_1,
  0x1E900_01E921_1]

/-- Characters whose decomposition changes in lower case. -/
def changesWhenLowercased : List Run := Run.ofCodes [
  0x0041_00005A_1, 0x00C0_0000D6_1, 0x00D8_0000DE_1, 0x0100_000136_2, 0x0139_000147_2,
  0x014A_000176_2, 0x0178_000179_1, 0x017B_00017B_1, 0x017D_00017D_1, 0x0181_000182_1,
  0x0184_000184_1, 0x0186_000187_1, 0x0189_00018B_1, 0x018E_000191_1, 0x0193_000194_1,
  0x0196_000198_1, 0x019C_00019D_1, 0x019F_0001A0_1, 0x01A2_0001A2_1, 0x01A4_0001A4_1,
  0x01A6_0001A7_1, 0x01A9_0001A9_1, 0x01AC_0001AC_1, 0x01AE_0001AF_1, 0x01B1_0001B3_1,
  0x01B5_0001B5_1, 0x01B7_0001B8_1, 0x01BC_0001BC_1, 0x01C4_0001C5_1, 0x01C7_0001C8_1,
  0x01CA_0001CB_1, 0x01CD_0001DB_2, 0x01DE_0001EE_2, 0x01F1_0001F2_1, 0x01F4_0001F4_1,
  0x01F6_0001F8_1, 0x01FA_000232_2, 0x023A_00023B_1, 0x023D_00023E_1, 0x0241_000241_1,
  0x0243_000246_1, 0x0248_00024E_2, 0x0370_000370_1, 0x0372_000372_1, 0x0376_000376_1,
  0x037F_00037F_1, 0x0386_000386_1, 0x0388_00038A_1, 0x038C_00038C_1, 0x038E_00038F_1,
  0x0391_0003A1_1, 0x03A3_0003AB_1, 0x03CF_0003CF_1, 0x03D8_0003EE_2, 0x03F4_0003F4_1,
  0x03F7_0003F7_1, 0x03F9_0003FA_1, 0x03FD_00042F_1, 0x0460_000480_2, 0x048A_0004BE_2,
  0x04C0_0004C1_1, 0x04C3_0004CD_2, 0x04D0_00052E_2, 0x0531_000556_1, 0x10A0_0010C5_1,
  0x10C7_0010C7_1, 0x10CD_0010CD_1, 0x13A0_0013F5_1, 0x1C89_001C89_1, 0x1C90_001CBA_1,
  0x1CBD_001CBF_1, 0x1E00_001E94_2, 0x1E9E_001EFE_2, 0x1F08_001F0F_1, 0x1F18_001F1D_1,
  0x1F28_001F2F_1, 0x1F38_001F3F_1, 0x1F48_001F4D_1, 0x1F59_001F5F_2, 0x1F68_001F6F_1,
  0x1F88_001F8F_1, 0x1F98_001F9F_1, 0x1FA8_001FAF_1, 0x1FB8_001FBC_1, 0x1FC8_001FCC_1,
  0x1FD8_001FDB_1, 0x1FE8_001FEC_1, 0x1FF8_001FFC_1, 0x2126_002126_1, 0x212A_00212B_1,
  0x2132_002132_1, 0x2160_00216F_1, 0x2183_002183_1, 0x24B6_0024CF_1, 0x2C00_002C2F_1,
  0x2C60_002C60_1, 0x2C62_002C64_1, 0x2C67_002C6B_2, 0x2C6D_002C70_1, 0x2C72_002C72_1,
  0x2C75_002C75_1, 0x2C7E_002C80_1, 0x2C82_002CE2_2, 0x2CEB_002CEB_1, 0x2CED_002CED_1,
  0x2CF2_002CF2_1, 0xA640_00A66C_2, 0xA680_00A69A_2, 0xA722_00A72E_2, 0xA732_00A76E_2,
  0xA779_00A779_1, 0xA77B_00A77B_1, 0xA77D_00A77E_1, 0xA780_00A786_2, 0xA78B_00A78B_1,
  0xA78D_00A78D_1, 0xA790_00A790_1, 0xA792_00A792_1, 0xA796_00A7A8_2, 0xA7AA_00A7AE_1,
  0xA7B0_00A7B4_1, 0xA7B6_00A7C2_2, 0xA7C4_00A7C7_1, 0xA7C9_00A7C9_1, 0xA7CB_00A7CC_1,
  0xA7D0_00A7D0_1, 0xA7D6_00A7DC_2, 0xA7F5_00A7F5_1, 0xFF21_00FF3A_1, 0x10400_010427_1,
  0x104B0_0104D3_1, 0x10570_01057A_1, 0x1057C_01058A_1, 0x1058C_010592_1, 0x10594_010595_1,
  0x10C80_010CB2_1, 0x10D50_010D65_1, 0x118A0_0118BF_1, 0x16E40_016E5F_1, 0x1E900_01E921_1]

/-- Characters whose decomposition changes in title case. -/
def changesWhenTitlecased : List Run := Run.ofCodes [
  0x0061_00007A_1, 0x00B5_0000B5_1, 0x00DF_0000F6_1, 0x00F8_0000FF_1, 0x0101_000137_2,
  0x013A_000146_2, 0x0148_000149_1, 0x014B_000177_2, 0x017A_00017A_1, 0x017C_00017C_1,
  0x017E_000180_1, 0x0183_000183_1, 0x0185_000185_1, 0x0188_000188_1, 0x018C_00018C_1,
  0x0192_000192_1, 0x0195_000195_1, 0x0199_00019B_1, 0x019E_00019E_1, 0x01A1_0001A5_2,
  0x01A8_0001A8_1, 0x01AD_0001AD_1, 0x01B0_0001B0_1, 0x01B4_0001B4_1, 0x01B6_0001B6_1,
  0x01B9_0001B9_1, 0x01BD_0001BD_1, 0x01BF_0001BF_1, 0x01C4_0001C4_1, 0x01C6_0001C7_1,
  0x01C9_0001CA_1, 0x01CC_0001DA_2, 0x01DC_0001DD_1, 0x01DF_0001ED_2, 0x01EF_0001F1_1,
  0x01F3_0001F3_1, 0x01F5_0001F5_1, 0x01F9_00021F_2, 0x0223_000233_2, 0x023C_00023C_1,
  0x023F_000240_1, 0x0242_000242_1, 0x0247_00024D_2, 0x024F_000254_1, 0x0256_000257_1,
  0x0259_000259_1, 0x025B_00025C_1, 0x0260_000261_1, 0x0263_000266_1, 0x0268_00026C_1,
  0x026F_00026F_1, 0x0271_000272_1, 0x0275_000275_1, 0x027D_00027D_1, 0x0280_000280_1,
  0x0282_000283_1, 0x0287_00028C_1, 0x0292_000292_1, 0x029D_00029E_1, 0x0345_000345_1,
  0x0371_000371_1, 0x0373_000373_1, 0x0377_000377_1, 0x037B_00037D_1, 0x0390_000390_1,
  0x03AC_0003CE_1, 0x03D0_0003D1_1, 0x03D5_0003D7_1, 0x03D9_0003ED_2, 0x03EF_0003F3_1,
  0x03F5_0003FB_3, 0x0430_00045F_1, 0x0461_000481_2, 0x048B_0004BF_2, 0x04C2_0004CC_2,
  0x04CE_0004CF_1, 0x04D1_00052F_2, 0x0561_000587_1, 0x13F8_0013FD_1, 0x1C80_001C88_1,
  0x1C8A_001C8A_1, 0x1D79_001D79_1, 0x1D7D_001D7D_1, 0x1D8E_001D8E_1, 0x1E01_001E93_2,
  0x1E95_001E9B_1, 0x1EA1_001EFD_2, 0x1EFF_001F07_1, 0x1F10_001F15_1, 0x1F20_001F27_1,
  0x1F30_001F37_1, 0x1F40_001F45_1, 0x1F50_001F57_1, 0x1F60_001F67_1, 0x1F70_001F7D_1,
  0x1F80_001F87_1, 0x1F90_001F97_1, 0x1FA0_001FA7_1, 0x1FB0_001FB4_1, 0x1FB6_001FB7_1,
  0x1FBE_001FBE_1, 0x1FC2_001FC4_1, 0x1FC6_001FC7_1, 0x1FD0_001FD3_1, 0x1FD6_001FD7_1,
  0x1FE0_001FE7_1, 0x1FF2_001FF4_1, 0x1FF6_001FF7_1, 0x214E_00214E_1, 0x2170_00217F_1,
  0x2184_002184_1, 0x24D0_0024E9_1, 0x2C30_002C5F_1, 0x2C61_002C61_1, 0x2C65_002C66_1,
  0x2C68_002C6C_2, 0x2C73_002C73_1, 0x2C76_002C76_1, 0x2C81_002CE3_2, 0x2CEC_002CEC_1,
  0x2CEE_002CEE_1, 0x2CF3_002CF3_1, 0x2D00_002D25_1, 0x2D27_002D27_1, 0x2D2D_002D2D_1,
  0xA641_00A66D_2, 0xA681_00A69B_2, 0xA723_00A72F_2, 0xA733_00A76F_2, 0xA77A_00A77A_1,
  0xA77C_00A77C_1, 0xA77F_00A787_2, 0xA78C_00A78C_1, 0xA791_00A791_1, 0xA793_00A794_1,
  0xA797_00A7A9_2, 0xA7B5_00A7C3_2, 0xA7C8_00A7C8_1, 0xA7CA_00A7CA_1, 0xA7CD_00A7CD_1,
  0xA7D1_00A7DB_2, 0xA7F6_00A7F6_1, 0xAB53_00AB53_1, 0xAB70_00ABBF_1, 0xFB00_00FB06_1,
  0xFB13_00FB17_1, 0xFF41_00FF5A_1, 0x10428_01044F_1, 0x104D8_0104FB_1, 0x10597_0105A1_1,
  0x105A3_0105B1_1, 0x105B3_0105B9_1, 0x105BB_0105BC_1, 0x10CC0_010CF2_1, 0x10D70_010D85_1,
  0x118C0_0118DF_1, 0x16E60_016E7F_1, 0x1E922_01E943_1]

/-- Characters whose decomposition changes in upper case. -/
def changesWhenUppercased : List Run := Run.ofCodes [
  0x0061_00007A_1, 0x00B5_0000B5_1, 0x00DF_0000F6_1, 0x00F8_0000FF_1, 0x0101_000137_2,
  0x013A_000146_2, 0x0148_000149_1, 0x014B_000177_2, 0x017A_00017A_1, 0x017C_00017C_1,
  0x017E_000180_1, 0x0183_000183_1, 0x0185_000185_1, 0x0188_000188_1, 0x018C_00018C_1,
  0x0192_000192_1, 0x0195_000195_1, 0x0199_00019B_1, 0x019E_00019E_1, 0x01A1_0001A5_2,
  0x01A8_0001A8_1, 0x01AD_0001AD_1, 0x01B0_0001B0_1, 0x01B4_0001B4_1, 0x01B6_0001B6_1,
  0x01B9_0001B9_1, 0x01BD_0001BD_1, 0x01BF_0001BF_1, 0x01C5_0001C6_1, 0x01C8_0001C9_1,
  0x01CB_0001CC_1, 0x01CE_0001DA_2, 0x01DC_0001DD_1, 0x01DF_0001ED_2, 0x01EF_0001F0_1,
  0x01F2_0001F3_1, 0x01F5_0001F5_1, 0x01F9_00021F_2, 0x0223_000233_2, 0x023C_00023C_1,
  0x023F_000240_1, 0x0242_000242_1, 0x0247_00024D_2, 0x024F_000254_1, 0x0256_000257_1,
  0x0259_000259_1, 0x025B_00025C_1, 0x0260_000261_1, 0x0263_000266_1, 0x0268_00026C_1,
  0x026F_00026F_1, 0x0271_000272_1, 0x0275_000275_1, 0x027D_00027D_1, 0x0280_000280_1,
  0x0282_000283_1, 0x0287_00028C_1, 0x0292_000292_1, 0x029D_00029E_1, 0x0345_000345_1,
  0x0371_000371_1, 0x0373_000373_1, 0x0377_000377_1, 0x037B_00037D_1, 0x0390_000390_1,
  0x03AC_0003CE_1, 0x03D0_0003D1_1, 0x03D5_0003D7_1, 0x03D9_0003ED_2, 0x03EF_0003F3_1,
  0x03F5_0003FB_3, 0x0430_00045F_1, 0x0461_000481_2, 0x048B_0004BF_2, 0x04C2_0004CC_2,
  0x04CE_0004CF_1, 0x04D1_00052F_2, 0x0561_000587_1, 0x10D0_0010FA_1, 0x10FD_0010FF_1,
  0x13F8_0013FD_1, 0x1C80_001C88_1, 0x1C8A_001C8A_1, 0x1D79_001D79_1, 0x1D7D_001D7D_1,
  0x1D8E_001D8E_1, 0x1E01_001E93_2, 0x1E95_001E9B_1, 0x1EA1_001EFD_2, 0x1EFF_001F07_1,
  0x1F10_001F15_1, 0x1F20_001F27_1, 0x1F30_001F37_1, 0x1F40_001F45_1, 0x1F50_001F57_1,
  0x1F60_001F67_1, 0x1F70_001F7D_1, 0x1F80_001FB4_1, 0x1FB6_001FB7_1, 0x1FBC_001FBC_1,
  0x1FBE_001FBE_1, 0x1FC2_001FC4_1, 0x1FC6_001FC7_1, 0x1FCC_001FCC_1, 0x1FD0_001FD3_1,
  0x1FD6_001FD7_1, 0x1FE0_001FE7_1, 0x1FF2_001FF4_1, 0x1FF6_001FF7_1, 0x1FFC_001FFC_1,
  0x214E_00214E_1, 0x2170_00217F_1, 0x2184_002184_1, 0x24D0_0024E9_1, 0x2C30_002C5F_1,
  0x2C61_002C61_1, 0x2C65_002C66_1, 0x2C68_002C6C_2, 0x2C73_002C73_1, 0x2C76_002C76_1,
  0x2C81_002CE3_2, 0x2CEC_002CEC_1, 0x2CEE_002CEE_1, 0x2CF3_002CF3_1, 0x2D00_002D25_1,
  0x2D27_002D27_1, 0x2D2D_002D2D_1, 0xA641_00A66D_2, 0xA681_00A69B_2, 0xA723_00A72F_2,
  0xA733_00A76F_2, 0xA77A_00A77A_1, 0xA77C_00A77C_1, 0xA77F_00A787_2, 0xA78C_00A78C_1,
  0xA791_00A791_1, 0xA793_00A794_1, 0xA797_00A7A9_2, 0xA7B5_00A7C3_2, 0xA7C8_00A7C8_1,
  0xA7CA_00A7CA_1, 0xA7CD_00A7CD_1, 0xA7D1_00A7DB_2, 0xA7F6_00A7F6_1, 0xAB53_00AB53_1,
  0xAB70_00ABBF_1, 0xFB00_00FB06_1, 0xFB13_00FB17_1, 0xFF41_00FF5A_1, 0x10428_01044F_1,
  0x104D8_0104FB_1, 0x10597_0105A1_1, 0x105A3_0105B1_1, 0x105B3_0105B9_1, 0x105BB_0105BC_1,
  0x10CC0_010CF2_1, 0x10D70_010D85_1, 0x118C0_0118DF_1, 0x16E60_016E7F_1, 0x1E922_01E943_1]

/-- Dashes. -/
def dash : List Run := Run.ofCodes [
  0x002D_00002D_1, 0x058A_00058A_1, 0x05BE_0005BE_1, 0x1400_001400_1, 0x1806_001806_1,
  0x2010_002015_1, 0x2053_002053_1, 0x207B_00207B_1, 0x208B_00208B_1, 0x2212_002212_1,
  0x2E17_002E17_1, 0x2E1A_002E1A_1, 0x2E3A_002E3B_1, 0x2E40_002E40_1, 0x2E5D_002E5D_1,
  0x301C_00301C_1, 0x3030_003030_1, 0x30A0_0030A0_1, 0xFE31_00FE32_1, 0xFE58_00FE58_1,
  0xFE63_00FE63_1, 0xFF0D_00FF0D_1, 0x10D6E_010D6E_1, 0x10EAD_010EAD_1]

/-- Deprecated characters. -/
def deprecated : List Run := Run.ofCodes [
  0x0149_000149_1, 0x0673_000673_1, 0x0F77_000F77_1, 0x0F79_000F79_1, 0x17A3_0017A4_1,
  0x206A_00206F_1, 0x2329_00232A_1, 0xE0001_0E0001_1]

/-- Diacritics. -/
def diacritic : List Run := Run.ofCodes [
  0x005E_00005E_1, 0x0060_000060_1, 0x00A8_0000A8_1, 0x00AF_0000AF_1, 0x00B4_0000B4_1,
  0x00B7_0000B8_1, 0x02B0_00034E_1, 0x0350_000357_1, 0x035D_000362_1, 0x0374_000375_1,
  0x037A_00037A_1, 0x0384_000385_1, 0x0483_000487_1, 0x0559_000559_1, 0x0591_0005BD_1,
  0x05BF_0005BF_1, 0x05C1_0005C2_1, 0x05C4_0005C5_1, 0x05C7_0005C7_1, 0x064B_000652_1,
  0x0657_000658_1, 0x06DF_0006E0_1, 0x06E5_0006E6_1, 0x06EA_0006EC_1, 0x0730_00074A_1,
  0x07A6_0007B0_1, 0x07EB_0007F5_1, 0x0818_000819_1, 0x0898_00089F_1, 0x08C9_0008D2_1,
  0x08E3_0008FE_1, 0x093C_00093C_1, 0x094D_00094D_1, 0x0951_000954_1, 0x0971_000971_1,
  0x09BC_0009BC_1, 0x09CD_0009CD_1, 0x0A3C_000A3C_1, 0x0A4D_000A4D_1, 0x0ABC_000ABC_1,
  0x0ACD_000ACD_1, 0x0AFD_000AFF_1, 0x0B3C_000B3C_1, 0x0B4D_000B4D_1, 0x0B55_000B55_1,
  0x0BCD_000BCD_1, 0x0C3C_000C3C_1, 0x0C4D_000C4D_1, 0x0CBC_000CBC_1, 0x0CCD_000CCD_1,
  0x0D3B_000D3C_1, 0x0D4D_000D4D_1, 0x0DCA_000DCA_1, 0x0E3A_000E3A_1, 0x0E47_000E4C_1,
  0x0E4E_000E4E_1, 0x0EBA_000EBA_1, 0x0EC8_000ECC_1, 0x0F18_000F19_1, 0x0F35_000F39_2,
  0x0F3E_000F3F_1, 0x0F82_000F84_1, 0x0F86_000F87_1, 0x0FC6_000FC6_1, 0x1037_001037_1,
  0x1039_00103A_1, 0x1063_001064_1, 0x1069_00106D_1, 0x1087_00108D_1, 0x108F_00108F_1,
  0x109A_00109B_1, 0x135D_00135F_1, 0x1714_001715_1, 0x1734_001734_1, 0x17C9_0017D3_1,
  0x17DD_0017DD_1, 0x1939_00193B_1, 0x1A60_001A60_1, 0x1A75_001A7C_1, 0x1A7F_001A7F_1,
  0x1AB0_001ABE_1, 0x1AC1_001ACB_1, 0x1B34_001B34_1, 0x1B44_001B44_1, 0x1B6B_001B73_1,
  0x1BAA_001BAB_1, 0x1BE6_001BE6_1, 0x1BF2_001BF3_1, 0x1C36_001C37_1, 0x1C78_001C7D_1,
  0x1CD0_001CE8_1, 0x1CED_001CED_1, 0x1CF4_001CF4_1, 0x1CF7_001CF9_1, 0x1D2C_001D6A_1,
  0x1D9B_001DBE_1, 0x1DC4_001DCF_1, 0x1DF5_001DFF_1, 0x1FBD_001FBD_1, 0x1FBF_001FC1_1,
  0x1FCD_001FCF_1, 0x1FDD_001FDF_1, 0x1FED_001FEF_1, 0x1FFD_001FFE_1, 0x2CEF_002CF1_1,
  0x2E2F_002E2F_1, 0x302A_00302F_1, 0x3099_00309C_1, 0x30FC_0030FC_1, 0xA66F_00A66F_1,
  0xA67C_00A67D_1, 0xA67F_00A67F_1, 0xA69C_00A69D_1, 0xA6F0_00A6F1_1, 0xA700_00A721_1,
  0xA788_00A78A_1, 0xA7F8_00A7F9_1, 0xA806_00A806_1, 0xA82C_00A82C_1, 0xA8C4_00A8C4_1,
  0xA8E0_00A8F1_1, 0xA92B_00A92E_1, 0xA953_00A953_1, 0xA9B3_00A9B3_1, 0xA9C0_00A9C0_1,
  0xA9E5_00A9E5_1, 0xAA7B_00AA7D_1, 0xAABF_00AAC2_1, 0xAAF6_00AAF6_1, 0xAB5B_00AB5F_1,
  0xAB69_00AB6B_1, 0xABEC_00ABED_1, 0xFB1E_00FB1E_1, 0xFE20_00FE2F_1, 0xFF3E_00FF3E_1,
  0xFF40_00FF40_1, 0xFF70_00FF70_1, 0xFF9E_00FF9F_1, 0xFFE3_00FFE3_1, 0x102E0_0102E0_1,
  0x10780_010785_1, 0x10787_0107B0_1, 0x107B2_0107BA_1, 0x10A38_010A3A_1, 0x10A3F_010A3F_1,
  0x10AE5_010AE6_1, 0x10D22_010D27_1, 0x10D4E_010D4E_1, 0x10D69_010D6D_1, 0x10EFD_010EFF_1,
  0x10F46_010F50_1, 0x10F82_010F85_1, 0x11046_011046_1, 0x11070_011070_1, 0x110B9_0110BA_1,
  0x11133_011134_1, 0x11173_011173_1, 0x111C0_0111C0_1, 0x111CA_0111CC_1, 0x11235_011236_1,
  0x112E9_0112EA_1, 0x1133B_01133C_1, 0x1134D_01134D_1, 0x11366_01136C_1, 0x11370_011374_1,
  0x113CE_0113D0_1, 0x113D2_0113D3_1, 0x113E1_0113E2_1, 0x11442_011442_1, 0x11446_011446_1,
  0x114C2_0114C3_1, 0x115BF_0115C0_1, 0x1163F_01163F_1, 0x116B6_0116B7_1, 0x1172B_01172B_1,
  0x11839_01183A_1, 0x1193D_01193E_1, 0x11943_011943_1, 0x119E0_0119E0_1, 0x11A34_011A34_1,
  0x11A47_011A47_1, 0x11A99_011A99_1, 0x11C3F_011C3F_1, 0x11D42_011D42_1, 0x11D44_011D45_1,
  0x11D97_011D97_1, 0x11F41_011F42_1, 0x11F5A_011F5A_1, 0x13447_013455_1, 0x1612F_01612F_1,
  0x16AF0_016AF4_1, 0x16B30_016B36_1, 0x16D6B_016D6C_1, 0x16F8F_016F9F_1, 0x16FF0_016FF1_1,
  0x1AFF0_01AFF3_1, 0x1AFF5_01AFFB_1, 0x1AFFD_01AFFE_1, 0x1CF00_01CF2D_1, 0x1CF30_01CF46_1,
  0x1D167_01D169_1, 0x1D16D_01D172_1, 0x1D17B_01D182_1, 0x1D185_01D18B_1, 0x1D1AA_01D1AD_1,
  0x1E030_01E06D_1, 0x1E130_01E136_1, 0x1E2AE_01E2AE_1, 0x1E2EC_01E2EF_1, 0x1E5EE_01E5EF_1,
  0x1E8D0_01E8D6_1, 0x1E944_01E946_1, 0x1E948_01E94A_1]

/-- Emoji. -/
def emoji : List Run := Run.ofCodes [
  0x0023_000023_1, 0x002A_00002A_1, 0x0030_000039_1, 0x00A9_0000A9_1, 0x00AE_0000AE_1,
  0x203C_00203C_1, 0x2049_002049_1, 0x2122_002122_1, 0x2139_002139_1, 0x2194_002199_1,
  0x21A9_0021AA_1, 0x231A_00231B_1, 0x2328_002328_1, 0x23CF_0023CF_1, 0x23E9_0023F3_1,
  0x23F8_0023FA_1, 0x24C2_0024C2_1, 0x25AA_0025AB_1, 0x25B6_0025B6_1, 0x25C0_0025C0_1,
  0x25FB_0025FE_1, 0x2600_002604_1, 0x260E_00260E_1, 0x2611_002611_1, 0x2614_002615_1,
  0x2618_002618_1, 0x261D_00261D_1, 0x2620_002620_1, 0x2622_002623_1, 0x2626_002626_1,
  0x262A_00262A_1, 0x262E_00262F_1, 0x2638_00263A_1, 0x2640_002640_1, 0x2642_002642_1,
  0x2648_002653_1, 0x265F_002660_1, 0x2663_002663_1, 0x2665_002666_1, 0x2668_002668_1,
  0x267B_00267B_1, 0x267E_00267F_1, 0x2692_002697_1, 0x2699_002699_1, 0x269B_00269C_1,
  0x26A0_0026A1_1, 0x26A7_0026A7_1, 0x26AA_0026AB_1, 0x26B0_0026B1_1, 0x26BD_0026BE_1,
  0x26C4_0026C5_1, 0x26C8_0026C8_1, 0x26CE_0026CF_1, 0x26D1_0026D1_1, 0x26D3_0026D4_1,
  0x26E9_0026EA_1, 0x26F0_0026F5_1, 0x26F7_0026FA_1, 0x26FD_0026FD_1, 0x2702_002702_1,
  0x2705_002705_1, 0x2708_00270D_1, 0x270F_00270F_1, 0x2712_002716_2, 0x271D_00271D_1,
  0x2721_002721_1, 0x2728_002728_1, 0x2733_002734_1, 0x2744_002744_1, 0x2747_002747_1,
  0x274C_00274C_1, 0x274E_00274E_1, 0x2753_002755_1, 0x2757_002757_1, 0x2763_002764_1,
  0x2795_002797_1, 0x27A1_0027BF_F, 0x2934_002935_1, 0x2B05_002B07_1, 0x2B1B_002B1C_1,
  0x2B50_002B50_1, 0x2B55_002B55_1, 0x3030_003030_1, 0x303D_00303D_1, 0x3297_003297_1,
  0x3299_003299_1, 0x1F004_01F004_1, 0x1F0CF_01F0CF_1, 0x1F170_01F171_1, 0x1F17E_01F17F_1,
  0x1F18E_01F18E_1, 0x1F191_01F19A_1, 0x1F1E6_01F1FF_1, 0x1F201_01F202_1, 0x1F21A_01F21A_1,
  0x1F22F_01F22F_1, 0x1F232_01F23A_1, 0x1F250_01F251_1, 0x1F300_01F321_1, 0x1F324_01F393_1,
  0x1F396_01F397_1, 0x1F399_01F39B_1, 0x1F39E_01F3F0_1, 0x1F3F3_01F3F5_1, 0x1F3F7_01F4FD_1,
  0x1F4FF_01F53D_1, 0x1F549_01F54E_1, 0x1F550_01F567_1, 0x1F56F_01F570_1, 0x1F573_01F57A_1,
  0x1F587_01F587_1, 0x1F58A_01F58D_1, 0x1F590_01F590_1, 0x1F595_01F596_1, 0x1F5A4_01F5A5_1,
  0x1F5A8_01F5A8_1, 0x1F5B1_01F5B2_1, 0x1F5BC_01F5BC_1, 0x1F5C2_01F5C4_1, 0x1F5D1_01F5D3_1,
  0x1F5DC_01F5DE_1, 0x1F5E1_01F5E1_1, 0x1F5E3_01F5E3_1, 0x1F5E8_01F5E8_1, 0x1F5EF_01F5EF_1,
  0x1F5F3_01F5F3_1, 0x1F5FA_01F64F_1, 0x1F680_01F6C5_1, 0x1F6CB_01F6D2_1, 0x1F6D5_01F6D7_1,
  0x1F6DC_01F6E5_1, 0x1F6E9_01F6E9_1, 0x1F6EB_01F6EC_1, 0x1F6F0_01F6F0_1, 0x1F6F3_01F6FC_1,
  0x1F7E0_01F7EB_1, 0x1F7F0_01F7F0_1, 0x1F90C_01F93A_1, 0x1F93C_01F945_1, 0x1F947_01F9FF_1,
  0x1FA70_01FA7C_1, 0x1FA80_01FA89_1, 0x1FA8F_01FAC6_1, 0x1FACE_01FADC_1, 0x1FADF_01FAE9_1,
  0x1FAF0_01FAF8_1]

/-- Parts of emoji sequences. -/
def emojiComponent : List Run := Run.ofCodes [
  0x0023_000023_1, 0x002A_00002A_1, 0x0030_000039_1, 0x200D_00200D_1, 0x20E3_0020E3_1,
  0xFE0F_00FE0F_1, 0x1F1E6_01F1FF_1, 0x1F3FB_01F3FF_1, 0x1F9B0_01F9B3_1, 0xE0020_0E007F_1]

/-- Emoji that take a skin tone. -/
def emojiModifierBase : List Run := Run.ofCodes [
  0x261D_00261D_1, 0x26F9_0026F9_1, 0x270A_00270D_1, 0x1F385_01F385_1, 0x1F3C2_01F3C4_1,
  0x1F3C7_01F3C7_1, 0x1F3CA_01F3CC_1, 0x1F442_01F443_1, 0x1F446_01F450_1, 0x1F466_01F478_1,
  0x1F47C_01F47C_1, 0x1F481_01F483_1, 0x1F485_01F487_1, 0x1F48F_01F48F_1, 0x1F491_01F491_1,
  0x1F4AA_01F4AA_1, 0x1F574_01F575_1, 0x1F57A_01F57A_1, 0x1F590_01F590_1, 0x1F595_01F596_1,
  0x1F645_01F647_1, 0x1F64B_01F64F_1, 0x1F6A3_01F6A3_1, 0x1F6B4_01F6B6_1, 0x1F6C0_01F6C0_1,
  0x1F6CC_01F6CC_1, 0x1F90C_01F90C_1, 0x1F90F_01F90F_1, 0x1F918_01F91F_1, 0x1F926_01F926_1,
  0x1F930_01F939_1, 0x1F93C_01F93E_1, 0x1F977_01F977_1, 0x1F9B5_01F9B6_1, 0x1F9B8_01F9B9_1,
  0x1F9BB_01F9BB_1, 0x1F9CD_01F9CF_1, 0x1F9D1_01F9DD_1, 0x1FAC3_01FAC5_1, 0x1FAF0_01FAF8_1]

/-- Characters shown as emoji by default. -/
def emojiPresentation : List Run := Run.ofCodes [
  0x231A_00231B_1, 0x23E9_0023EC_1, 0x23F0_0023F0_1, 0x23F3_0023F3_1, 0x25FD_0025FE_1,
  0x2614_002615_1, 0x2648_002653_1, 0x267F_00267F_1, 0x2693_002693_1, 0x26A1_0026A1_1,
  0x26AA_0026AB_1, 0x26BD_0026BE_1, 0x26C4_0026C5_1, 0x26CE_0026CE_1, 0x26D4_0026D4_1,
  0x26EA_0026EA_1, 0x26F2_0026F3_1, 0x26F5_0026F5_1, 0x26FA_0026FA_1, 0x26FD_0026FD_1,
  0x2705_002705_1, 0x270A_00270B_1, 0x2728_002728_1, 0x274C_00274C_1, 0x274E_00274E_1,
  0x2753_002755_1, 0x2757_002757_1, 0x2795_002797_1, 0x27B0_0027B0_1, 0x27BF_0027BF_1,
  0x2B1B_002B1C_1, 0x2B50_002B50_1, 0x2B55_002B55_1, 0x1F004_01F004_1, 0x1F0CF_01F0CF_1,
  0x1F18E_01F18E_1, 0x1F191_01F19A_1, 0x1F1E6_01F1FF_1, 0x1F201_01F201_1, 0x1F21A_01F21A_1,
  0x1F22F_01F22F_1, 0x1F232_01F236_1, 0x1F238_01F23A_1, 0x1F250_01F251_1, 0x1F300_01F320_1,
  0x1F32D_01F335_1, 0x1F337_01F37C_1, 0x1F37E_01F393_1, 0x1F3A0_01F3CA_1, 0x1F3CF_01F3D3_1,
  0x1F3E0_01F3F0_1, 0x1F3F4_01F3F4_1, 0x1F3F8_01F43E_1, 0x1F440_01F440_1, 0x1F442_01F4FC_1,
  0x1F4FF_01F53D_1, 0x1F54B_01F54E_1, 0x1F550_01F567_1, 0x1F57A_01F57A_1, 0x1F595_01F596_1,
  0x1F5A4_01F5A4_1, 0x1F5FB_01F64F_1, 0x1F680_01F6C5_1, 0x1F6CC_01F6CC_1, 0x1F6D0_01F6D2_1,
  0x1F6D5_01F6D7_1, 0x1F6DC_01F6DF_1, 0x1F6EB_01F6EC_1, 0x1F6F4_01F6FC_1, 0x1F7E0_01F7EB_1,
  0x1F7F0_01F7F0_1, 0x1F90C_01F93A_1, 0x1F93C_01F945_1, 0x1F947_01F9FF_1, 0x1FA70_01FA7C_1,
  0x1FA80_01FA89_1, 0x1FA8F_01FAC6_1, 0x1FACE_01FADC_1, 0x1FADF_01FAE9_1, 0x1FAF0_01FAF8_1]

/-- Pictographs, and code points kept for them. -/
def extendedPictographic : List Run := Run.ofCodes [
  0x00A9_0000A9_1, 0x00AE_0000AE_1, 0x203C_00203C_1, 0x2049_002049_1, 0x2122_002122_1,
  0x2139_002139_1, 0x2194_002199_1, 0x21A9_0021AA_1, 0x231A_00231B_1, 0x2328_002328_1,
  0x23CF_0023CF_1, 0x23E9_0023F3_1, 0x23F8_0023FA_1, 0x24C2_0024C2_1, 0x25AA_0025AB_1,
  0x25B6_0025B6_1, 0x25C0_0025C0_1, 0x25FB_0025FE_1, 0x2600_002604_1, 0x260E_00260E_1,
  0x2611_002611_1, 0x2614_002615_1, 0x2618_002618_1, 0x261D_00261D_1, 0x2620_002620_1,
  0x2622_002623_1, 0x2626_002626_1, 0x262A_00262A_1, 0x262E_00262F_1, 0x2638_00263A_1,
  0x2640_002640_1, 0x2642_002642_1, 0x2648_002653_1, 0x265F_002660_1, 0x2663_002663_1,
  0x2665_002666_1, 0x2668_002668_1, 0x267B_00267B_1, 0x267E_00267F_1, 0x2692_002697_1,
  0x2699_002699_1, 0x269B_00269C_1, 0x26A0_0026A1_1, 0x26A7_0026A7_1, 0x26AA_0026AB_1,
  0x26B0_0026B1_1, 0x26BD_0026BE_1, 0x26C4_0026C5_1, 0x26C8_0026C8_1, 0x26CE_0026CF_1,
  0x26D1_0026D1_1, 0x26D3_0026D4_1, 0x26E9_0026EA_1, 0x26F0_0026F5_1, 0x26F7_0026FA_1,
  0x26FD_0026FD_1, 0x2702_002702_1, 0x2705_002705_1, 0x2708_00270D_1, 0x270F_00270F_1,
  0x2712_002716_2, 0x271D_00271D_1, 0x2721_002721_1, 0x2728_002728_1, 0x2733_002734_1,
  0x2744_002744_1, 0x2747_002747_1, 0x274C_00274C_1, 0x274E_00274E_1, 0x2753_002755_1,
  0x2757_002757_1, 0x2763_002764_1, 0x2795_002797_1, 0x27A1_0027BF_F, 0x2934_002935_1,
  0x2B05_002B07_1, 0x2B1B_002B1C_1, 0x2B50_002B50_1, 0x2B55_002B55_1, 0x3030_003030_1,
  0x303D_00303D_1, 0x3297_003297_1, 0x3299_003299_1, 0x1F004_01F004_1, 0x1F02C_01F02F_1,
  0x1F094_01F09F_1, 0x1F0AF_01F0B0_1, 0x1F0C0_01F0C0_1, 0x1F0CF_01F0D0_1, 0x1F0F6_01F0FF_1,
  0x1F170_01F171_1, 0x1F17E_01F17F_1, 0x1F18E_01F18E_1, 0x1F191_01F19A_1, 0x1F1AE_01F1E5_1,
  0x1F201_01F20F_1, 0x1F21A_01F21A_1, 0x1F22F_01F22F_1, 0x1F232_01F23A_1, 0x1F23C_01F23F_1,
  0x1F249_01F25F_1, 0x1F266_01F321_1, 0x1F324_01F393_1, 0x1F396_01F397_1, 0x1F399_01F39B_1,
  0x1F39E_01F3F0_1, 0x1F3F3_01F3F5_1, 0x1F3F7_01F3FA_1, 0x1F400_01F4FD_1, 0x1F4FF_01F53D_1,
  0x1F549_01F54E_1, 0x1F550_01F567_1, 0x1F56F_01F570_1, 0x1F573_01F57A_1, 0x1F587_01F587_1,
  0x1F58A_01F58D_1, 0x1F590_01F590_1, 0x1F595_01F596_1, 0x1F5A4_01F5A5_1, 0x1F5A8_01F5A8_1,
  0x1F5B1_01F5B2_1, 0x1F5BC_01F5BC_1, 0x1F5C2_01F5C4_1, 0x1F5D1_01F5D3_1, 0x1F5DC_01F5DE_1,
  0x1F5E1_01F5E1_1, 0x1F5E3_01F5E3_1, 0x1F5E8_01F5E8_1, 0x1F5EF_01F5EF_1, 0x1F5F3_01F5F3_1,
  0x1F5FA_01F64F_1, 0x1F680_01F6C5_1, 0x1F6CB_01F6D2_1, 0x1F6D5_01F6E5_1, 0x1F6E9_01F6E9_1,
  0x1F6EB_01F6F0_1, 0x1F6F3_01F6FF_1, 0x1F7DA_01F7FF_1, 0x1F80C_01F80F_1, 0x1F848_01F84F_1,
  0x1F85A_01F85F_1, 0x1F888_01F88F_1, 0x1F8AE_01F8AF_1, 0x1F8BC_01F8BF_1, 0x1F8C2_01F8CF_1,
  0x1F8D9_01F8FF_1, 0x1F90C_01F93A_1, 0x1F93C_01F945_1, 0x1F947_01F9FF_1, 0x1FA58_01FA5F_1,
  0x1FA6E_01FAFF_1, 0x1FC00_01FFFD_1]

/-- Characters that lengthen the one before them. -/
def extender : List Run := Run.ofCodes [
  0x00B7_0000B7_1, 0x02D0_0002D1_1, 0x0640_000640_1, 0x07FA_0007FA_1, 0x0A71_000A71_1,
  0x0AFB_000AFB_1, 0x0B55_000B55_1, 0x0E46_000E46_1, 0x0EC6_000EC6_1, 0x180A_00180A_1,
  0x1843_001843_1, 0x1AA7_001AA7_1, 0x1C36_001C36_1, 0x1C7B_001C7B_1, 0x3005_003005_1,
  0x3031_003035_1, 0x309D_00309E_1, 0x30FC_0030FE_1, 0xA015_00A015_1, 0xA60C_00A60C_1,
  0xA9CF_00A9CF_1, 0xA9E6_00A9E6_1, 0xAA70_00AA70_1, 0xAADD_00AADD_1, 0xAAF3_00AAF4_1,
  0xFF70_00FF70_1, 0x10781_010782_1, 0x10D4E_010D4E_1, 0x10D6A_010D6A_1, 0x10D6F_010D6F_1,
  0x11237_011237_1, 0x1135D_01135D_1, 0x113D2_0113D3_1, 0x115C6_0115C8_1, 0x11A98_011A98_1,
  0x16B42_016B43_1, 0x16FE0_016FE1_1, 0x16FE3_016FE3_1, 0x1E13C_01E13D_1, 0x1E5EF_01E5EF_1,
  0x1E944_01E946_1]

/-- Hyphens. -/
def hyphen : List Run := Run.ofCodes [
  0x002D_00002D_1, 0x00AD_0000AD_1, 0x058A_00058A_1, 0x1806_001806_1, 0x2010_002011_1,
  0x2E17_002E17_1, 0x30FB_0030FB_1, 0xFE63_00FE63_1, 0xFF0D_00FF0D_1, 0xFF65_00FF65_1]

/-- Operators of ideographic description with two operands. -/
def idsBinaryOperator : List Run := Run.ofCodes [
  0x2FF0_002FF1_1, 0x2FF4_002FFD_1, 0x31EF_0031EF_1]

/-- Mathematical characters that a compatible identifier may start with. -/
def idCompatMathStart : List Run := Run.ofCodes [
  0x2202_002202_1, 0x2207_002207_1, 0x221E_00221E_1, 0x1D6C1_01D6C1_1, 0x1D6DB_01D6DB_1,
  0x1D6FB_01D6FB_1, 0x1D715_01D715_1, 0x1D735_01D735_1, 0x1D74F_01D74F_1, 0x1D76F_01D76F_1,
  0x1D789_01D789_1, 0x1D7A9_01D7A9_1, 0x1D7C3_01D7C3_1]

/-- Mathematical characters that may only continue a compatible identifier. -/
def idCompatMathContinue : List Run := Run.ofCodes [
  0x00B2_0000B3_1, 0x00B9_0000B9_1, 0x2070_002070_1, 0x2074_00207E_1, 0x2080_00208E_1]

/-- Ideographs. -/
def ideographic : List Run := Run.ofCodes [
  0x3006_003007_1, 0x3021_003029_1, 0x3038_00303A_1, 0x3400_004DBF_1, 0x4E00_009FFF_1,
  0xF900_00FA6D_1, 0xFA70_00FAD9_1, 0x16FE4_016FE4_1, 0x17000_0187F7_1, 0x18800_018CD5_1,
  0x18CFF_018D08_1, 0x1B170_01B2FB_1, 0x20000_02A6DF_1, 0x2A700_02B739_1, 0x2B740_02B81D_1,
  0x2B820_02CEA1_1, 0x2CEB0_02EBE0_1, 0x2EBF0_02EE5D_1, 0x2F800_02FA1D_1, 0x30000_03134A_1,
  0x31350_0323AF_1]

/-- Vowels written before the consonant they follow. -/
def logicalOrderException : List Run := Run.ofCodes [
  0x0E40_000E44_1, 0x0EC0_000EC4_1, 0x19B5_0019B7_1, 0x19BA_0019BA_1, 0xAAB5_00AAB6_1,
  0xAAB9_00AAB9_1, 0xAABB_00AABC_1]

/-- Combining marks that change the letter under them. -/
def modifierCombiningMark : List Run := Run.ofCodes [
  0x0654_000655_1, 0x0658_000658_1, 0x06DC_0006DC_1, 0x06E3_0006E3_1, 0x06E7_0006E8_1,
  0x08CA_0008CB_1, 0x08CD_0008CF_1, 0x08D3_0008D3_1, 0x08F3_0008F3_1]

/-- Characters kept for the use of pattern languages. -/
def patternSyntax : List Run := Run.ofCodes [
  0x0021_00002F_1, 0x003A_000040_1, 0x005B_00005E_1, 0x0060_000060_1, 0x007B_00007E_1,
  0x00A1_0000A7_1, 0x00A9_0000A9_1, 0x00AB_0000AC_1, 0x00AE_0000AE_1, 0x00B0_0000B1_1,
  0x00B6_0000B6_1, 0x00BB_0000BB_1, 0x00BF_0000BF_1, 0x00D7_0000D7_1, 0x00F7_0000F7_1,
  0x2010_002027_1, 0x2030_00203E_1, 0x2041_002053_1, 0x2055_00205E_1, 0x2190_00245F_1,
  0x2500_002775_1, 0x2794_002BFF_1, 0x2E00_002E7F_1, 0x3001_003003_1, 0x3008_003020_1,
  0x3030_003030_1, 0xFD3E_00FD3F_1, 0xFE45_00FE46_1]

/-- White space of pattern languages. -/
def patternWhiteSpace : List Run := Run.ofCodes [
  0x0009_00000D_1, 0x0020_000020_1, 0x0085_000085_1, 0x200E_00200F_1, 0x2028_002029_1]

/-- Marks that enclose what follows them. -/
def prependedConcatenationMark : List Run := Run.ofCodes [
  0x0600_000605_1, 0x06DD_0006DD_1, 0x070F_00070F_1, 0x0890_000891_1, 0x08E2_0008E2_1,
  0x110BD_0110BD_1, 0x110CD_0110CD_1]

/-- Quotation marks. -/
def quotationMark : List Run := Run.ofCodes [
  0x0022_000022_1, 0x0027_000027_1, 0x00AB_0000AB_1, 0x00BB_0000BB_1, 0x2018_00201F_1,
  0x2039_00203A_1, 0x2E42_002E42_1, 0x300C_00300F_1, 0x301D_00301F_1, 0xFE41_00FE44_1,
  0xFF02_00FF02_1, 0xFF07_00FF07_1, 0xFF62_00FF63_1]

/-- Radicals of ideographs. -/
def radical : List Run := Run.ofCodes [
  0x2E80_002E99_1, 0x2E9B_002EF3_1, 0x2F00_002FD5_1]

/-- Characters that end a sentence. -/
def sentenceTerminal : List Run := Run.ofCodes [
  0x0021_000021_1, 0x002E_00002E_1, 0x003F_00003F_1, 0x0589_000589_1, 0x061D_00061F_1,
  0x06D4_0006D4_1, 0x0700_000702_1, 0x07F9_0007F9_1, 0x0837_000837_1, 0x0839_000839_1,
  0x083D_00083E_1, 0x0964_000965_1, 0x104A_00104B_1, 0x1362_001362_1, 0x1367_001368_1,
  0x166E_00166E_1, 0x1735_001736_1, 0x17D4_0017D5_1, 0x1803_001803_1, 0x1809_001809_1,
  0x1944_001945_1, 0x1AA8_001AAB_1, 0x1B4E_001B4F_1, 0x1B5A_001B5B_1, 0x1B5E_001B5F_1,
  0x1B7D_001B7F_1, 0x1C3B_001C3C_1, 0x1C7E_001C7F_1, 0x2024_002024_1, 0x203C_00203D_1,
  0x2047_002049_1, 0x2CF9_002CFB_1, 0x2E2E_002E2E_1, 0x2E3C_002E3C_1, 0x2E53_002E54_1,
  0x3002_003002_1, 0xA4FF_00A4FF_1, 0xA60E_00A60F_1, 0xA6F3_00A6F3_1, 0xA6F7_00A6F7_1,
  0xA876_00A877_1, 0xA8CE_00A8CF_1, 0xA92F_00A92F_1, 0xA9C8_00A9C9_1, 0xAA5D_00AA5F_1,
  0xAAF0_00AAF1_1, 0xABEB_00ABEB_1, 0xFE12_00FE12_1, 0xFE15_00FE16_1, 0xFE52_00FE52_1,
  0xFE56_00FE57_1, 0xFF01_00FF01_1, 0xFF0E_00FF0E_1, 0xFF1F_00FF1F_1, 0xFF61_00FF61_1,
  0x10A56_010A57_1, 0x10F55_010F59_1, 0x10F86_010F89_1, 0x11047_011048_1, 0x110BE_0110C1_1,
  0x11141_011143_1, 0x111C5_0111C6_1, 0x111CD_0111CD_1, 0x111DE_0111DF_1, 0x11238_011239_1,
  0x1123B_01123C_1, 0x112A9_0112A9_1, 0x113D4_0113D5_1, 0x1144B_01144C_1, 0x115C2_0115C3_1,
  0x115C9_0115D7_1, 0x11641_011642_1, 0x1173C_01173E_1, 0x11944_011944_1, 0x11946_011946_1,
  0x11A42_011A43_1, 0x11A9B_011A9C_1, 0x11C41_011C42_1, 0x11EF7_011EF8_1, 0x11F43_011F44_1,
  0x16A6E_016A6F_1, 0x16AF5_016AF5_1, 0x16B37_016B38_1, 0x16B44_016B44_1, 0x16D6E_016D6F_1,
  0x16E98_016E98_1, 0x1BC9F_01BC9F_1, 0x1DA88_01DA88_1]

/-- Letters whose dot goes away under an accent. -/
def softDotted : List Run := Run.ofCodes [
  0x0069_00006A_1, 0x012F_00012F_1, 0x0249_000249_1, 0x0268_000268_1, 0x029D_00029D_1,
  0x02B2_0002B2_1, 0x03F3_0003F3_1, 0x0456_000456_1, 0x0458_000458_1, 0x1D62_001D62_1,
  0x1D96_001D96_1, 0x1DA4_001DA4_1, 0x1DA8_001DA8_1, 0x1E2D_001E2D_1, 0x1ECB_001ECB_1,
  0x2071_002071_1, 0x2148_002149_1, 0x2C7C_002C7C_1, 0x1D422_01D423_1, 0x1D456_01D457_1,
  0x1D48A_01D48B_1, 0x1D4BE_01D4BF_1, 0x1D4F2_01D4F3_1, 0x1D526_01D527_1, 0x1D55A_01D55B_1,
  0x1D58E_01D58F_1, 0x1D5C2_01D5C3_1, 0x1D5F6_01D5F7_1, 0x1D62A_01D62B_1, 0x1D65E_01D65F_1,
  0x1D692_01D693_1, 0x1DF1A_01DF1A_1, 0x1E04C_01E04D_1, 0x1E068_01E068_1]

/-- Punctuation at the end of a phrase. -/
def terminalPunctuation : List Run := Run.ofCodes [
  0x0021_000021_1, 0x002C_00002C_1, 0x002E_00002E_1, 0x003A_00003B_1, 0x003F_00003F_1,
  0x037E_00037E_1, 0x0387_000387_1, 0x0589_000589_1, 0x05C3_0005C3_1, 0x060C_00060C_1,
  0x061B_00061B_1, 0x061D_00061F_1, 0x06D4_0006D4_1, 0x0700_00070A_1, 0x070C_00070C_1,
  0x07F8_0007F9_1, 0x0830_000835_1, 0x0837_00083E_1, 0x085E_00085E_1, 0x0964_000965_1,
  0x0E5A_000E5B_1, 0x0F08_000F08_1, 0x0F0D_000F12_1, 0x104A_00104B_1, 0x1361_001368_1,
  0x166E_00166E_1, 0x16EB_0016ED_1, 0x1735_001736_1, 0x17D4_0017D6_1, 0x17DA_0017DA_1,
  0x1802_001805_1, 0x1808_001809_1, 0x1944_001945_1, 0x1AA8_001AAB_1, 0x1B4E_001B4F_1,
  0x1B5A_001B5B_1, 0x1B5D_001B5F_1, 0x1B7D_001B7F_1, 0x1C3B_001C3F_1, 0x1C7E_001C7F_1,
  0x2024_002024_1, 0x203C_00203D_1, 0x2047_002049_1, 0x2CF9_002CFB_1, 0x2E2E_002E2E_1,
  0x2E3C_002E3C_1, 0x2E41_002E41_1, 0x2E4C_002E4C_1, 0x2E4E_002E4F_1, 0x2E53_002E54_1,
  0x3001_003002_1, 0xA4FE_00A4FF_1, 0xA60D_00A60F_1, 0xA6F3_00A6F7_1, 0xA876_00A877_1,
  0xA8CE_00A8CF_1, 0xA92F_00A92F_1, 0xA9C7_00A9C9_1, 0xAA5D_00AA5F_1, 0xAADF_00AADF_1,
  0xAAF0_00AAF1_1, 0xABEB_00ABEB_1, 0xFE12_00FE12_1, 0xFE15_00FE16_1, 0xFE50_00FE52_1,
  0xFE54_00FE57_1, 0xFF01_00FF01_1, 0xFF0C_00FF0C_1, 0xFF0E_00FF0E_1, 0xFF1A_00FF1B_1,
  0xFF1F_00FF1F_1, 0xFF61_00FF61_1, 0xFF64_00FF64_1, 0x1039F_01039F_1, 0x103D0_0103D0_1,
  0x10857_010857_1, 0x1091F_01091F_1, 0x10A56_010A57_1, 0x10AF0_010AF5_1, 0x10B3A_010B3F_1,
  0x10B99_010B9C_1, 0x10F55_010F59_1, 0x10F86_010F89_1, 0x11047_01104D_1, 0x110BE_0110C1_1,
  0x11141_011143_1, 0x111C5_0111C6_1, 0x111CD_0111CD_1, 0x111DE_0111DF_1, 0x11238_01123C_1,
  0x112A9_0112A9_1, 0x113D4_0113D5_1, 0x1144B_01144D_1, 0x1145A_01145B_1, 0x115C2_0115C5_1,
  0x115C9_0115D7_1, 0x11641_011642_1, 0x1173C_01173E_1, 0x11944_011944_1, 0x11946_011946_1,
  0x11A42_011A43_1, 0x11A9B_011A9C_1, 0x11AA1_011AA2_1, 0x11C41_011C43_1, 0x11C71_011C71_1,
  0x11EF7_011EF8_1, 0x11F43_011F44_1, 0x12470_012474_1, 0x16A6E_016A6F_1, 0x16AF5_016AF5_1,
  0x16B37_016B39_1, 0x16B44_016B44_1, 0x16D6E_016D6F_1, 0x16E97_016E98_1, 0x1BC9F_01BC9F_1,
  0x1DA87_01DA8A_1]

/-- Unified ideographs. -/
def unifiedIdeograph : List Run := Run.ofCodes [
  0x3400_004DBF_1, 0x4E00_009FFF_1, 0xFA0E_00FA0F_1, 0xFA11_00FA11_1, 0xFA13_00FA14_1,
  0xFA1F_00FA1F_1, 0xFA21_00FA21_1, 0xFA23_00FA24_1, 0xFA27_00FA29_1, 0x20000_02A6DF_1,
  0x2A700_02B739_1, 0x2B740_02B81D_1, 0x2B820_02CEA1_1, 0x2CEB0_02EBE0_1, 0x2EBF0_02EE5D_1,
  0x30000_03134A_1, 0x31350_0323AF_1]

/-- Variation selectors. -/
def variationSelector : List Run := Run.ofCodes [
  0x180B_00180D_1, 0x180F_00180F_1, 0xFE00_00FE0F_1, 0xE0100_0E01EF_1]

end AdFilter.Text.PropertyTable
