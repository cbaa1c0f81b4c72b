import CallLint.Text.Ranges

/-!
# Printable characters

A character is printable when a quoted text shows it as it is: letters, marks, numbers, punctuation, symbols and the
plain space. Control, format, private and unassigned code points, separators and surrogates are not. The table is
that of Unicode 14.0.
-/

namespace CallLint.Text

/-- Printable ranges above ASCII, part 1 of 3. -/
def printableRangesA : List (Nat × Nat) := [
  (0xA1, 12), (0xAE, 714), (0x37A, 6), (0x384, 7), (0x38C, 1), (0x38E, 20), (0x3A3, 397), (0x531, 38), (0x559, 50), (0x58D, 3),
  (0x591, 55), (0x5D0, 27), (0x5EF, 6), (0x606, 22), (0x61D, 192), (0x6DE, 48), (0x710, 59), (0x74D, 101), (0x7C0, 59),
  (0x7FD, 49), (0x830, 15), (0x840, 28), (0x85E, 1), (0x860, 11), (0x870, 31), (0x898, 74), (0x8E3, 161), (0x985, 8),
  (0x98F, 2), (0x993, 22), (0x9AA, 7), (0x9B2, 1), (0x9B6, 4), (0x9BC, 9), (0x9C7, 2), (0x9CB, 4), (0x9D7, 1), (0x9DC, 2),
  (0x9DF, 5), (0x9E6, 25), (0xA01, 3), (0xA05, 6), (0xA0F, 2), (0xA13, 22), (0xA2A, 7), (0xA32, 2), (0xA35, 2), (0xA38, 2),
  (0xA3C, 1), (0xA3E, 5), (0xA47, 2), (0xA4B, 3), (0xA51, 1), (0xA59, 4), (0xA5E, 1), (0xA66, 17), (0xA81, 3), (0xA85, 9),
  (0xA8F, 3), (0xA93, 22), (0xAAA, 7), (0xAB2, 2), (0xAB5, 5), (0xABC, 10), (0xAC7, 3), (0xACB, 3), (0xAD0, 1), (0xAE0, 4),
  (0xAE6, 12), (0xAF9, 7), (0xB01, 3), (0xB05, 8), (0xB0F, 2), (0xB13, 22), (0xB2A, 7), (0xB32, 2), (0xB35, 5), (0xB3C, 9),
  (0xB47, 2), (0xB4B, 3), (0xB55, 3), (0xB5C, 2), (0xB5F, 5), (0xB66, 18), (0xB82, 2), (0xB85, 6), (0xB8E, 3), (0xB92, 4),
  (0xB99, 2), (0xB9C, 1), (0xB9E, 2), (0xBA3, 2), (0xBA8, 3), (0xBAE, 12), (0xBBE, 5), (0xBC6, 3), (0xBCA, 4), (0xBD0, 1),
  (0xBD7, 1), (0xBE6, 21), (0xC00, 13), (0xC0E, 3), (0xC12, 23), (0xC2A, 16), (0xC3C, 9), (0xC46, 3), (0xC4A, 4), (0xC55, 2),
  (0xC58, 3), (0xC5D, 1), (0xC60, 4), (0xC66, 10), (0xC77, 22), (0xC8E, 3), (0xC92, 23), (0xCAA, 10), (0xCB5, 5), (0xCBC, 9),
  (0xCC6, 3), (0xCCA, 4), (0xCD5, 2), (0xCDD, 2), (0xCE0, 4), (0xCE6, 10), (0xCF1, 2), (0xD00, 13), (0xD0E, 3), (0xD12, 51),
  (0xD46, 3), (0xD4A, 6), (0xD54, 16), (0xD66, 26), (0xD81, 3), (0xD85, 18), (0xD9A, 24), (0xDB3, 9), (0xDBD, 1), (0xDC0, 7),
  (0xDCA, 1), (0xDCF, 6), (0xDD6, 1), (0xDD8, 8), (0xDE6, 10), (0xDF2, 3), (0xE01, 58), (0xE3F, 29), (0xE81, 2), (0xE84, 1),
  (0xE86, 5), (0xE8C, 24), (0xEA5, 1), (0xEA7, 23), (0xEC0, 5), (0xEC6, 1), (0xEC8, 6), (0xED0, 10), (0xEDC, 4), (0xF00, 72),
  (0xF49, 36), (0xF71, 39), (0xF99, 36), (0xFBE, 15), (0xFCE, 13), (0x1000, 198), (0x10C7, 1), (0x10CD, 1), (0x10D0, 377),
  (0x124A, 4), (0x1250, 7), (0x1258, 1), (0x125A, 4), (0x1260, 41), (0x128A, 4), (0x1290, 33), (0x12B2, 4), (0x12B8, 7),
  (0x12C0, 1), (0x12C2, 4), (0x12C8, 15), (0x12D8, 57), (0x1312, 4), (0x1318, 67), (0x135D, 32), (0x1380, 26), (0x13A0, 86),
  (0x13F8, 6), (0x1400, 640), (0x1681, 28), (0x16A0, 89), (0x1700, 22), (0x171F, 24), (0x1740, 20), (0x1760, 13), (0x176E, 3),
  (0x1772, 2), (0x1780, 94), (0x17E0, 10), (0x17F0, 10), (0x1800, 14), (0x180F, 11), (0x1820, 89), (0x1880, 43), (0x18B0, 70),
  (0x1900, 31), (0x1920, 12), (0x1930, 12), (0x1940, 1), (0x1944, 42), (0x1970, 5), (0x1980, 44), (0x19B0, 26), (0x19D0, 11),
  (0x19DE, 62), (0x1A1E, 65), (0x1A60, 29), (0x1A7F, 11), (0x1A90, 10), (0x1AA0, 14), (0x1AB0, 31), (0x1B00, 77), (0x1B50, 47),
  (0x1B80, 116), (0x1BFC, 60), (0x1C3B, 15), (0x1C4D, 60), (0x1C90, 43), (0x1CBD, 11), (0x1CD0, 43), (0x1D00, 534), (0x1F18, 6),
  (0x1F20, 38), (0x1F48, 6), (0x1F50, 8), (0x1F59, 1), (0x1F5B, 1), (0x1F5D, 1), (0x1F5F, 31), (0x1F80, 53), (0x1FB6, 15),
  (0x1FC6, 14), (0x1FD6, 6), (0x1FDD, 19), (0x1FF2, 3), (0x1FF6, 9), (0x2010, 24), (0x2030, 47), (0x2070, 2), (0x2074, 27),
  (0x2090, 13), (0x20A0, 33)]

/-- Printable ranges above ASCII, part 2 of 3. -/
def printableRangesB : List (Nat × Nat) := [
  (0x20D0, 33), (0x2100, 140), (0x2190, 663), (0x2440, 11), (0x2460, 1812), (0x2B76, 32), (0x2B97, 349), (0x2CF9, 45),
  (0x2D27, 1), (0x2D2D, 1), (0x2D30, 56), (0x2D6F, 2), (0x2D7F, 24), (0x2DA0, 7), (0x2DA8, 7), (0x2DB0, 7), (0x2DB8, 7),
  (0x2DC0, 7), (0x2DC8, 7), (0x2DD0, 7), (0x2DD8, 7), (0x2DE0, 126), (0x2E80, 26), (0x2E9B, 89), (0x2F00, 214), (0x2FF0, 12),
  (0x3001, 63), (0x3041, 86), (0x3099, 103), (0x3105, 43), (0x3131, 94), (0x3190, 84), (0x31F0, 47), (0x3220, 29293),
  (0xA490, 55), (0xA4D0, 348), (0xA640, 184), (0xA700, 203), (0xA7D0, 2), (0xA7D3, 1), (0xA7D5, 5), (0xA7F2, 59), (0xA830, 10),
  (0xA840, 56), (0xA880, 70), (0xA8CE, 12), (0xA8E0, 116), (0xA95F, 30), (0xA980, 78), (0xA9CF, 11), (0xA9DE, 33), (0xAA00, 55),
  (0xAA40, 14), (0xAA50, 10), (0xAA5C, 103), (0xAADB, 28), (0xAB01, 6), (0xAB09, 6), (0xAB11, 6), (0xAB20, 7), (0xAB28, 7),
  (0xAB30, 60), (0xAB70, 126), (0xABF0, 10), (0xAC00, 11172), (0xD7B0, 23), (0xD7CB, 49), (0xF900, 366), (0xFA70, 106),
  (0xFB00, 7), (0xFB13, 5), (0xFB1D, 26), (0xFB38, 5), (0xFB3E, 1), (0xFB40, 2), (0xFB43, 2), (0xFB46, 125), (0xFBD3, 445),
  (0xFD92, 54), (0xFDCF, 1), (0xFDF0, 42), (0xFE20, 51), (0xFE54, 19), (0xFE68, 4), (0xFE70, 5), (0xFE76, 135), (0xFF01, 190),
  (0xFFC2, 6), (0xFFCA, 6), (0xFFD2, 6), (0xFFDA, 3), (0xFFE0, 7), (0xFFE8, 7), (0xFFFC, 2), (0x10000, 12), (0x1000D, 26),
  (0x10028, 19), (0x1003C, 2), (0x1003F, 15), (0x10050, 14), (0x10080, 123), (0x10100, 3), (0x10107, 45), (0x10137, 88),
  (0x10190, 13), (0x101A0, 1), (0x101D0, 46), (0x10280, 29), (0x102A0, 49), (0x102E0, 28), (0x10300, 36), (0x1032D, 30),
  (0x10350, 43), (0x10380, 30), (0x1039F, 37), (0x103C8, 14), (0x10400, 158), (0x104A0, 10), (0x104B0, 36), (0x104D8, 36),
  (0x10500, 40), (0x10530, 52), (0x1056F, 12), (0x1057C, 15), (0x1058C, 7), (0x10594, 2), (0x10597, 11), (0x105A3, 15),
  (0x105B3, 7), (0x105BB, 2), (0x10600, 311), (0x10740, 22), (0x10760, 8), (0x10780, 6), (0x10787, 42), (0x107B2, 9),
  (0x10800, 6), (0x10808, 1), (0x1080A, 44), (0x10837, 2), (0x1083C, 1), (0x1083F, 23), (0x10857, 72), (0x108A7, 9),
  (0x108E0, 19), (0x108F4, 2), (0x108FB, 33), (0x1091F, 27), (0x1093F, 1), (0x10980, 56), (0x109BC, 20), (0x109D2, 50),
  (0x10A05, 2), (0x10A0C, 8), (0x10A15, 3), (0x10A19, 29), (0x10A38, 3), (0x10A3F, 10), (0x10A50, 9), (0x10A60, 64),
  (0x10AC0, 39), (0x10AEB, 12), (0x10B00, 54), (0x10B39, 29), (0x10B58, 27), (0x10B78, 26), (0x10B99, 4), (0x10BA9, 7),
  (0x10C00, 73), (0x10C80, 51), (0x10CC0, 51), (0x10CFA, 46), (0x10D30, 10), (0x10E60, 31), (0x10E80, 42), (0x10EAB, 3),
  (0x10EB0, 2), (0x10F00, 40), (0x10F30, 42), (0x10F70, 26), (0x10FB0, 28), (0x10FE0, 23), (0x11000, 78), (0x11052, 36),
  (0x1107F, 62), (0x110BE, 5), (0x110D0, 25), (0x110F0, 10), (0x11100, 53), (0x11136, 18), (0x11150, 39), (0x11180, 96),
  (0x111E1, 20), (0x11200, 18), (0x11213, 44), (0x11280, 7), (0x11288, 1), (0x1128A, 4), (0x1128F, 15), (0x1129F, 11),
  (0x112B0, 59), (0x112F0, 10), (0x11300, 4), (0x11305, 8), (0x1130F, 2), (0x11313, 22), (0x1132A, 7), (0x11332, 2),
  (0x11335, 5), (0x1133B, 10), (0x11347, 2), (0x1134B, 3), (0x11350, 1), (0x11357, 1), (0x1135D, 7), (0x11366, 7), (0x11370, 5),
  (0x11400, 92), (0x1145D, 5), (0x11480, 72), (0x114D0, 10), (0x11580, 54), (0x115B8, 38), (0x11600, 69), (0x11650, 10),
  (0x11660, 13), (0x11680, 58), (0x116C0, 10), (0x11700, 27), (0x1171D, 15), (0x11730, 23), (0x11800, 60), (0x118A0, 83),
  (0x118FF, 8), (0x11909, 1), (0x1190C, 8), (0x11915, 2), (0x11918, 30), (0x11937, 2), (0x1193B, 12), (0x11950, 10),
  (0x119A0, 8), (0x119AA, 46), (0x119DA, 11), (0x11A00, 72), (0x11A50, 83), (0x11AB0, 73), (0x11C00, 9), (0x11C0A, 45),
  (0x11C38, 14)]

/-- Printable ranges above ASCII, part 3 of 3. -/
def printableRangesC : List (Nat × Nat) := [
  (0x11C50, 29), (0x11C70, 32), (0x11C92, 22), (0x11CA9, 14), (0x11D00, 7), (0x11D08, 2), (0x11D0B, 44), (0x11D3A, 1),
  (0x11D3C, 2), (0x11D3F, 9), (0x11D50, 10), (0x11D60, 6), (0x11D67, 2), (0x11D6A, 37), (0x11D90, 2), (0x11D93, 6),
  (0x11DA0, 10), (0x11EE0, 25), (0x11FB0, 1), (0x11FC0, 50), (0x11FFF, 923), (0x12400, 111), (0x12470, 5), (0x12480, 196),
  (0x12F90, 99), (0x13000, 1071), (0x14400, 583), (0x16800, 569), (0x16A40, 31), (0x16A60, 10), (0x16A6E, 81), (0x16AC0, 10),
  (0x16AD0, 30), (0x16AF0, 6), (0x16B00, 70), (0x16B50, 10), (0x16B5B, 7), (0x16B63, 21), (0x16B7D, 19), (0x16E40, 91),
  (0x16F00, 75), (0x16F4F, 57), (0x16F8F, 17), (0x16FE0, 5), (0x16FF0, 2), (0x17000, 6136), (0x18800, 1238), (0x18D00, 9),
  (0x1AFF0, 4), (0x1AFF5, 7), (0x1AFFD, 2), (0x1B000, 291), (0x1B150, 3), (0x1B164, 4), (0x1B170, 396), (0x1BC00, 107),
  (0x1BC70, 13), (0x1BC80, 9), (0x1BC90, 10), (0x1BC9C, 4), (0x1CF00, 46), (0x1CF30, 23), (0x1CF50, 116), (0x1D000, 246),
  (0x1D100, 39), (0x1D129, 74), (0x1D17B, 112), (0x1D200, 70), (0x1D2E0, 20), (0x1D300, 87), (0x1D360, 25), (0x1D400, 85),
  (0x1D456, 71), (0x1D49E, 2), (0x1D4A2, 1), (0x1D4A5, 2), (0x1D4A9, 4), (0x1D4AE, 12), (0x1D4BB, 1), (0x1D4BD, 7),
  (0x1D4C5, 65), (0x1D507, 4), (0x1D50D, 8), (0x1D516, 7), (0x1D51E, 28), (0x1D53B, 4), (0x1D540, 5), (0x1D546, 1),
  (0x1D54A, 7), (0x1D552, 340), (0x1D6A8, 292), (0x1D7CE, 702), (0x1DA9B, 5), (0x1DAA1, 15), (0x1DF00, 31), (0x1E000, 7),
  (0x1E008, 17), (0x1E01B, 7), (0x1E023, 2), (0x1E026, 5), (0x1E100, 45), (0x1E130, 14), (0x1E140, 10), (0x1E14E, 2),
  (0x1E290, 31), (0x1E2C0, 58), (0x1E2FF, 1), (0x1E7E0, 7), (0x1E7E8, 4), (0x1E7ED, 2), (0x1E7F0, 15), (0x1E800, 197),
  (0x1E8C7, 16), (0x1E900, 76), (0x1E950, 10), (0x1E95E, 2), (0x1EC71, 68), (0x1ED01, 61), (0x1EE00, 4), (0x1EE05, 27),
  (0x1EE21, 2), (0x1EE24, 1), (0x1EE27, 1), (0x1EE29, 10), (0x1EE34, 4), (0x1EE39, 1), (0x1EE3B, 1), (0x1EE42, 1), (0x1EE47, 1),
  (0x1EE49, 1), (0x1EE4B, 1), (0x1EE4D, 3), (0x1EE51, 2), (0x1EE54, 1), (0x1EE57, 1), (0x1EE59, 1), (0x1EE5B, 1), (0x1EE5D, 1),
  (0x1EE5F, 1), (0x1EE61, 2), (0x1EE64, 1), (0x1EE67, 4), (0x1EE6C, 7), (0x1EE74, 4), (0x1EE79, 4), (0x1EE7E, 1), (0x1EE80, 10),
  (0x1EE8B, 17), (0x1EEA1, 3), (0x1EEA5, 5), (0x1EEAB, 17), (0x1EEF0, 2), (0x1F000, 44), (0x1F030, 100), (0x1F0A0, 15),
  (0x1F0B1, 15), (0x1F0C1, 15), (0x1F0D1, 37), (0x1F100, 174), (0x1F1E6, 29), (0x1F210, 44), (0x1F240, 9), (0x1F250, 2),
  (0x1F260, 6), (0x1F300, 984), (0x1F6DD, 16), (0x1F6F0, 13), (0x1F700, 116), (0x1F780, 89), (0x1F7E0, 12), (0x1F7F0, 1),
  (0x1F800, 12), (0x1F810, 56), (0x1F850, 10), (0x1F860, 40), (0x1F890, 30), (0x1F8B0, 2), (0x1F900, 340), (0x1FA60, 14),
  (0x1FA70, 5), (0x1FA78, 5), (0x1FA80, 7), (0x1FA90, 29), (0x1FAB0, 11), (0x1FAC0, 6), (0x1FAD0, 10), (0x1FAE0, 8),
  (0x1FAF0, 7), (0x1FB00, 147), (0x1FB94, 55), (0x1FBF0, 10), (0x20000, 42720), (0x2A700, 4153), (0x2B740, 222),
  (0x2B820, 5762), (0x2CEB0, 7473), (0x2F800, 542), (0x30000, 4939), (0xE0100, 240)]

/-- Whether a quoted text shows the code point as it is. -/
def isPrintable (c : CodePoint) : Bool :=
  let n := c.toNat
  if n < 128 then 0x20 ≤ n && n < 0x7F
  else inRanges printableRangesA n || inRanges printableRangesB n || inRanges printableRangesC n

end CallLint.Text
