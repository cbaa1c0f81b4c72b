/-!
# Combining classes and compositions

The canonical combining classes of marks and the pairs that compose to an identifier character, of Unicode 14.0, Hangul syllables apart.
-/

namespace CallLint.Text.Normal

/-- Ranges of marks with their combining class: first, count, class. -/
def combiningRanges : List (Nat × Nat × Nat) := [
  (0x300, 21, 230), (0x315, 1, 232), (0x316, 4, 220), (0x31A, 1, 232), (0x31B, 1, 216), (0x31C, 5, 220), (0x321, 2, 202),
  (0x323, 4, 220), (0x327, 2, 202), (0x329, 11, 220), (0x334, 5, 1), (0x339, 4, 220), (0x33D, 8, 230), (0x345, 1, 240),
  (0x346, 1, 230), (0x347, 3, 220), (0x34A, 3, 230), (0x34D, 2, 220), (0x350, 3, 230), (0x353, 4, 220), (0x357, 1, 230),
  (0x358, 1, 232), (0x359, 2, 220), (0x35B, 1, 230), (0x35C, 1, 233), (0x35D, 2, 234), (0x35F, 1, 233), (0x360, 2, 234),
  (0x362, 1, 233), (0x363, 13, 230), (0x483, 5, 230), (0x591, 1, 220), (0x592, 4, 230), (0x596, 1, 220), (0x597, 3, 230),
  (0x59A, 1, 222), (0x59B, 1, 220), (0x59C, 6, 230), (0x5A2, 6, 220), (0x5A8, 2, 230), (0x5AA, 1, 220), (0x5AB, 2, 230),
  (0x5AD, 1, 222), (0x5AE, 1, 228), (0x5AF, 1, 230), (0x5B0, 1, 10), (0x5B1, 1, 11), (0x5B2, 1, 12), (0x5B3, 1, 13),
  (0x5B4, 1, 14), (0x5B5, 1, 15), (0x5B6, 1, 16), (0x5B7, 1, 17), (0x5B8, 1, 18), (0x5B9, 2, 19), (0x5BB, 1, 20),
  (0x5BC, 1, 21), (0x5BD, 1, 22), (0x5BF, 1, 23), (0x5C1, 1, 24), (0x5C2, 1, 25), (0x5C4, 1, 230), (0x5C5, 1, 220),
  (0x5C7, 1, 18), (0x610, 8, 230), (0x618, 1, 30), (0x619, 1, 31), (0x61A, 1, 32), (0x64B, 1, 27), (0x64C, 1, 28),
  (0x64D, 1, 29), (0x64E, 1, 30), (0x64F, 1, 31), (0x650, 1, 32), (0x651, 1, 33), (0x652, 1, 34), (0x653, 2, 230),
  (0x655, 2, 220), (0x657, 5, 230), (0x65C, 1, 220), (0x65D, 2, 230), (0x65F, 1, 220), (0x670, 1, 35), (0x6D6, 7, 230),
  (0x6DF, 4, 230), (0x6E3, 1, 220), (0x6E4, 1, 230), (0x6E7, 2, 230), (0x6EA, 1, 220), (0x6EB, 2, 230), (0x6ED, 1, 220),
  (0x711, 1, 36), (0x730, 1, 230), (0x731, 1, 220), (0x732, 2, 230), (0x734, 1, 220), (0x735, 2, 230), (0x737, 3, 220),
  (0x73A, 1, 230), (0x73B, 2, 220), (0x73D, 1, 230), (0x73E, 1, 220), (0x73F, 3, 230), (0x742, 1, 220), (0x743, 1, 230),
  (0x744, 1, 220), (0x745, 1, 230), (0x746, 1, 220), (0x747, 1, 230), (0x748, 1, 220), (0x749, 2, 230), (0x7EB, 7, 230),
  (0x7F2, 1, 220), (0x7F3, 1, 230), (0x7FD, 1, 220), (0x816, 4, 230), (0x81B, 9, 230), (0x825, 3, 230), (0x829, 5, 230),
  (0x859, 3, 220), (0x898, 1, 230), (0x899, 3, 220), (0x89C, 4, 230), (0x8CA, 5, 230), (0x8CF, 5, 220), (0x8D4, 14, 230),
  (0x8E3, 1, 220), (0x8E4, 2, 230), (0x8E6, 1, 220), (0x8E7, 2, 230), (0x8E9, 1, 220), (0x8EA, 3, 230), (0x8ED, 3, 220),
  (0x8F0, 1, 27), (0x8F1, 1, 28), (0x8F2, 1, 29), (0x8F3, 3, 230), (0x8F6, 1, 220), (0x8F7, 2, 230), (0x8F9, 2, 220),
  (0x8FB, 5, 230), (0x93C, 1, 7), (0x94D, 1, 9), (0x951, 1, 230), (0x952, 1, 220), (0x953, 2, 230), (0x9BC, 1, 7),
  (0x9CD, 1, 9), (0x9FE, 1, 230), (0xA3C, 1, 7), (0xA4D, 1, 9), (0xABC, 1, 7), (0xACD, 1, 9), (0xB3C, 1, 7), (0xB4D, 1, 9),
  (0xBCD, 1, 9), (0xC3C, 1, 7), (0xC4D, 1, 9), (0xC55, 1, 84), (0xC56, 1, 91), (0xCBC, 1, 7), (0xCCD, 1, 9), (0xD3B, 2, 9),
  (0xD4D, 1, 9), (0xDCA, 1, 9), (0xE38, 2, 103), (0xE3A, 1, 9), (0xE48, 4, 107), (0xEB8, 2, 118), (0xEBA, 1, 9),
  (0xEC8, 4, 122), (0xF18, 2, 220), (0xF35, 1, 220), (0xF37, 1, 220), (0xF39, 1, 216), (0xF71, 1, 129), (0xF72, 1, 130),
  (0xF74, 1, 132), (0xF7A, 4, 130), (0xF80, 1, 130), (0xF82, 2, 230), (0xF84, 1, 9), (0xF86, 2, 230), (0xFC6, 1, 220),
  (0x1037, 1, 7), (0x1039, 2, 9), (0x108D, 1, 220), (0x135D, 3, 230), (0x1714, 2, 9), (0x1734, 1, 9), (0x17D2, 1, 9),
  (0x17DD, 1, 230), (0x18A9, 1, 228), (0x1939, 1, 222), (0x193A, 1, 230), (0x193B, 1, 220), (0x1A17, 1, 230), (0x1A18, 1, 220),
  (0x1A60, 1, 9), (0x1A75, 8, 230), (0x1A7F, 1, 220), (0x1AB0, 5, 230), (0x1AB5, 6, 220), (0x1ABB, 2, 230), (0x1ABD, 1, 220),
  (0x1ABF, 2, 220), (0x1AC1, 2, 230), (0x1AC3, 2, 220), (0x1AC5, 5, 230), (0x1ACA, 1, 220), (0x1ACB, 4, 230), (0x1B34, 1, 7),
  (0x1B44, 1, 9), (0x1B6B, 1, 230), (0x1B6C, 1, 220), (0x1B6D, 7, 230), (0x1BAA, 2, 9), (0x1BE6, 1, 7), (0x1BF2, 2, 9),
  (0x1C37, 1, 7), (0x1CD0, 3, 230), (0x1CD4, 1, 1), (0x1CD5, 5, 220), (0x1CDA, 2, 230), (0x1CDC, 4, 220), (0x1CE0, 1, 230),
  (0x1CE2, 7, 1), (0x1CED, 1, 220), (0x1CF4, 1, 230), (0x1CF8, 2, 230), (0x1DC0, 2, 230), (0x1DC2, 1, 220), (0x1DC3, 7, 230),
  (0x1DCA, 1, 220), (0x1DCB, 2, 230), (0x1DCD, 1, 234), (0x1DCE, 1, 214), (0x1DCF, 1, 220), (0x1DD0, 1, 202), (0x1DD1, 37, 230),
  (0x1DF6, 1, 232), (0x1DF7, 2, 228), (0x1DF9, 1, 220), (0x1DFA, 1, 218), (0x1DFB, 1, 230), (0x1DFC, 1, 233), (0x1DFD, 1, 220),
  (0x1DFE, 1, 230), (0x1DFF, 1, 220), (0x20D0, 2, 230), (0x20D2, 2, 1), (0x20D4, 4, 230), (0x20D8, 3, 1), (0x20DB, 2, 230),
  (0x20E1, 1, 230), (0x20E5, 2, 1), (0x20E7, 1, 230), (0x20E8, 1, 220), (0x20E9, 1, 230), (0x20EA, 2, 1), (0x20EC, 4, 220),
  (0x20F0, 1, 230), (0x2CEF, 3, 230), (0x2D7F, 1, 9), (0x2DE0, 32, 230), (0x302A, 1, 218), (0x302B, 1, 228), (0x302C, 1, 232),
  (0x302D, 1, 222), (0x302E, 2, 224), (0x3099, 2, 8), (0xA66F, 1, 230), (0xA674, 10, 230), (0xA69E, 2, 230), (0xA6F0, 2, 230),
  (0xA806, 1, 9), (0xA82C, 1, 9), (0xA8C4, 1, 9), (0xA8E0, 18, 230), (0xA92B, 3, 220), (0xA953, 1, 9), (0xA9B3, 1, 7),
  (0xA9C0, 1, 9), (0xAAB0, 1, 230), (0xAAB2, 2, 230), (0xAAB4, 1, 220), (0xAAB7, 2, 230), (0xAABE, 2, 230), (0xAAC1, 1, 230),
  (0xAAF6, 1, 9), (0xABED, 1, 9), (0xFB1E, 1, 26), (0xFE20, 7, 230), (0xFE27, 7, 220), (0xFE2E, 2, 230), (0x101FD, 1, 220),
  (0x102E0, 1, 220), (0x10376, 5, 230), (0x10A0D, 1, 220), (0x10A0F, 1, 230), (0x10A38, 1, 230), (0x10A39, 1, 1),
  (0x10A3A, 1, 220), (0x10A3F, 1, 9), (0x10AE5, 1, 230), (0x10AE6, 1, 220), (0x10D24, 4, 230), (0x10EAB, 2, 230),
  (0x10F46, 2, 220), (0x10F48, 3, 230), (0x10F4B, 1, 220), (0x10F4C, 1, 230), (0x10F4D, 4, 220), (0x10F82, 1, 230),
  (0x10F83, 1, 220), (0x10F84, 1, 230), (0x10F85, 1, 220), (0x11046, 1, 9), (0x11070, 1, 9), (0x1107F, 1, 9), (0x110B9, 1, 9),
  (0x110BA, 1, 7), (0x11100, 3, 230), (0x11133, 2, 9), (0x11173, 1, 7), (0x111C0, 1, 9), (0x111CA, 1, 7), (0x11235, 1, 9),
  (0x11236, 1, 7), (0x112E9, 1, 7), (0x112EA, 1, 9), (0x1133B, 2, 7), (0x1134D, 1, 9), (0x11366, 7, 230), (0x11370, 5, 230),
  (0x11442, 1, 9), (0x11446, 1, 7), (0x1145E, 1, 230), (0x114C2, 1, 9), (0x114C3, 1, 7), (0x115BF, 1, 9), (0x115C0, 1, 7),
  (0x1163F, 1, 9), (0x116B6, 1, 9), (0x116B7, 1, 7), (0x1172B, 1, 9), (0x11839, 1, 9), (0x1183A, 1, 7), (0x1193D, 2, 9),
  (0x11943, 1, 7), (0x119E0, 1, 9), (0x11A34, 1, 9), (0x11A47, 1, 9), (0x11A99, 1, 9), (0x11C3F, 1, 9), (0x11D42, 1, 7),
  (0x11D44, 2, 9), (0x11D97, 1, 9), (0x16AF0, 5, 1), (0x16B30, 7, 230), (0x16FF0, 2, 6), (0x1BC9E, 1, 1), (0x1D165, 2, 216),
  (0x1D167, 3, 1), (0x1D16D, 1, 226), (0x1D16E, 5, 216), (0x1D17B, 8, 220), (0x1D185, 5, 230), (0x1D18A, 2, 220),
  (0x1D1AA, 4, 230), (0x1D242, 3, 230), (0x1E000, 7, 230), (0x1E008, 17, 230), (0x1E01B, 7, 230), (0x1E023, 2, 230),
  (0x1E026, 5, 230), (0x1E130, 7, 230), (0x1E2AE, 1, 230), (0x1E2EC, 4, 230), (0x1E8D0, 7, 220), (0x1E944, 6, 230),
  (0x1E94A, 1, 7)]

/-- Rows of pairs that compose, each with what its first pair composes to; part 1 of 3. -/
def compositionsA : List (Nat × List (Nat × Nat)) := [
  (0xC0, [(0x41, 0x300), (0x41, 0x301), (0x41, 0x302), (0x41, 0x303), (0x41, 0x308), (0x41, 0x30A)]),
  (0xC7, [(0x43, 0x327), (0x45, 0x300), (0x45, 0x301), (0x45, 0x302), (0x45, 0x308), (0x49, 0x300), (0x49, 0x301), (0x49, 0x302), (0x49, 0x308)]),
  (0xD1, [(0x4E, 0x303), (0x4F, 0x300), (0x4F, 0x301), (0x4F, 0x302), (0x4F, 0x303), (0x4F, 0x308)]),
  (0xD9, [(0x55, 0x300), (0x55, 0x301), (0x55, 0x302), (0x55, 0x308), (0x59, 0x301)]),
  (0xE0, [(0x61, 0x300), (0x61, 0x301), (0x61, 0x302), (0x61, 0x303), (0x61, 0x308), (0x61, 0x30A)]),
  (0xE7, [(0x63, 0x327), (0x65, 0x300), (0x65, 0x301), (0x65, 0x302), (0x65, 0x308), (0x69, 0x300), (0x69, 0x301), (0x69, 0x302), (0x69, 0x308)]),
  (0xF1, [(0x6E, 0x303), (0x6F, 0x300), (0x6F, 0x301), (0x6F, 0x302), (0x6F, 0x303), (0x6F, 0x308)]),
  (0xF9, [(0x75, 0x300), (0x75, 0x301), (0x75, 0x302), (0x75, 0x308), (0x79, 0x301)]),
  (0xFF, [(0x79, 0x308), (0x41, 0x304), (0x61, 0x304), (0x41, 0x306), (0x61, 0x306), (0x41, 0x328), (0x61, 0x328), (0x43, 0x301), (0x63, 0x301), (0x43, 0x302), (0x63, 0x302), (0x43, 0x307), (0x63, 0x307), (0x43, 0x30C), (0x63, 0x30C), (0x44, 0x30C), (0x64, 0x30C)]),
  (0x112, [(0x45, 0x304), (0x65, 0x304), (0x45, 0x306), (0x65, 0x306), (0x45, 0x307), (0x65, 0x307), (0x45, 0x328), (0x65, 0x328), (0x45, 0x30C), (0x65, 0x30C), (0x47, 0x302), (0x67, 0x302), (0x47, 0x306), (0x67, 0x306), (0x47, 0x307), (0x67, 0x307), (0x47, 0x327), (0x67, 0x327), (0x48, 0x302), (0x68, 0x302)]),
  (0x128, [(0x49, 0x303), (0x69, 0x303), (0x49, 0x304), (0x69, 0x304), (0x49, 0x306), (0x69, 0x306), (0x49, 0x328), (0x69, 0x328), (0x49, 0x307)]),
  (0x134, [(0x4A, 0x302), (0x6A, 0x302), (0x4B, 0x327), (0x6B, 0x327)]),
  (0x139, [(0x4C, 0x301), (0x6C, 0x301), (0x4C, 0x327), (0x6C, 0x327), (0x4C, 0x30C), (0x6C, 0x30C)]),
  (0x143, [(0x4E, 0x301), (0x6E, 0x301), (0x4E, 0x327), (0x6E, 0x327), (0x4E, 0x30C), (0x6E, 0x30C)]),
  (0x14C, [(0x4F, 0x304), (0x6F, 0x304), (0x4F, 0x306), (0x6F, 0x306), (0x4F, 0x30B), (0x6F, 0x30B)]),
  (0x154, [(0x52, 0x301), (0x72, 0x301), (0x52, 0x327), (0x72, 0x327), (0x52, 0x30C), (0x72, 0x30C), (0x53, 0x301), (0x73, 0x301), (0x53, 0x302), (0x73, 0x302), (0x53, 0x327), (0x73, 0x327), (0x53, 0x30C), (0x73, 0x30C), (0x54, 0x327), (0x74, 0x327), (0x54, 0x30C), (0x74, 0x30C)]),
  (0x168, [(0x55, 0x303), (0x75, 0x303), (0x55, 0x304), (0x75, 0x304), (0x55, 0x306), (0x75, 0x306), (0x55, 0x30A), (0x75, 0x30A), (0x55, 0x30B), (0x75, 0x30B), (0x55, 0x328), (0x75, 0x328), (0x57, 0x302), (0x77, 0x302), (0x59, 0x302), (0x79, 0x302), (0x59, 0x308), (0x5A, 0x301), (0x7A, 0x301), (0x5A, 0x307), (0x7A, 0x307), (0x5A, 0x30C), (0x7A, 0x30C)]),
  (0x1A0, [(0x4F, 0x31B), (0x6F, 0x31B)]), (0x1AF, [(0x55, 0x31B), (0x75, 0x31B)]),
  (0x1CD, [(0x41, 0x30C), (0x61, 0x30C), (0x49, 0x30C), (0x69, 0x30C), (0x4F, 0x30C), (0x6F, 0x30C), (0x55, 0x30C), (0x75, 0x30C), (0xDC, 0x304), (0xFC, 0x304), (0xDC, 0x301), (0xFC, 0x301), (0xDC, 0x30C), (0xFC, 0x30C), (0xDC, 0x300), (0xFC, 0x300)]),
  (0x1DE, [(0xC4, 0x304), (0xE4, 0x304), (0x226, 0x304), (0x227, 0x304), (0xC6, 0x304), (0xE6, 0x304)]),
  (0x1E6, [(0x47, 0x30C), (0x67, 0x30C), (0x4B, 0x30C), (0x6B, 0x30C), (0x4F, 0x328), (0x6F, 0x328), (0x1EA, 0x304), (0x1EB, 0x304), (0x1B7, 0x30C), (0x292, 0x30C), (0x6A, 0x30C)]),
  (0x1F4, [(0x47, 0x301), (0x67, 0x301)]),
  (0x1F8, [(0x4E, 0x300), (0x6E, 0x300), (0xC5, 0x301), (0xE5, 0x301), (0xC6, 0x301), (0xE6, 0x301), (0xD8, 0x301), (0xF8, 0x301), (0x41, 0x30F), (0x61, 0x30F), (0x41, 0x311), (0x61, 0x311), (0x45, 0x30F), (0x65, 0x30F), (0x45, 0x311), (0x65, 0x311), (0x49, 0x30F), (0x69, 0x30F), (0x49, 0x311), (0x69, 0x311), (0x4F, 0x30F), (0x6F, 0x30F), (0x4F, 0x311), (0x6F, 0x311), (0x52, 0x30F), (0x72, 0x30F), (0x52, 0x311), (0x72, 0x311), (0x55, 0x30F), (0x75, 0x30F), (0x55, 0x311), (0x75, 0x311), (0x53, 0x326), (0x73, 0x326), (0x54, 0x326), (0x74, 0x326)]),
  (0x21E, [(0x48, 0x30C), (0x68, 0x30C)]),
  (0x226, [(0x41, 0x307), (0x61, 0x307), (0x45, 0x327), (0x65, 0x327), (0xD6, 0x304), (0xF6, 0x304), (0xD5, 0x304), (0xF5, 0x304), (0x4F, 0x307), (0x6F, 0x307), (0x22E, 0x304), (0x22F, 0x304), (0x59, 0x304), (0x79, 0x304)]),
  (0x386, [(0x391, 0x301)]), (0x388, [(0x395, 0x301), (0x397, 0x301), (0x399, 0x301)]), (0x38C, [(0x39F, 0x301)]),
  (0x38E, [(0x3A5, 0x301), (0x3A9, 0x301), (0x3CA, 0x301)]),
  (0x3AA, [(0x399, 0x308), (0x3A5, 0x308), (0x3B1, 0x301), (0x3B5, 0x301), (0x3B7, 0x301), (0x3B9, 0x301), (0x3CB, 0x301)]),
  (0x3CA, [(0x3B9, 0x308), (0x3C5, 0x308), (0x3BF, 0x301), (0x3C5, 0x301), (0x3C9, 0x301)]),
  (0x3D3, [(0x3D2, 0x301), (0x3D2, 0x308)]), (0x400, [(0x415, 0x300), (0x415, 0x308)]), (0x403, [(0x413, 0x301)]),
  (0x407, [(0x406, 0x308)]), (0x40C, [(0x41A, 0x301), (0x418, 0x300), (0x423, 0x306)]), (0x419, [(0x418, 0x306)]),
  (0x439, [(0x438, 0x306)]), (0x450, [(0x435, 0x300), (0x435, 0x308)]), (0x453, [(0x433, 0x301)]), (0x457, [(0x456, 0x308)]),
  (0x45C, [(0x43A, 0x301), (0x438, 0x300), (0x443, 0x306)]), (0x476, [(0x474, 0x30F), (0x475, 0x30F)]),
  (0x4C1, [(0x416, 0x306), (0x436, 0x306)]), (0x4D0, [(0x410, 0x306), (0x430, 0x306), (0x410, 0x308), (0x430, 0x308)])]

/-- Rows of pairs that compose, each with what its first pair composes to; part 2 of 3. -/
def compositionsB : List (Nat × List (Nat × Nat)) := [
  (0x4D6, [(0x415, 0x306), (0x435, 0x306)]),
  (0x4DA, [(0x4D8, 0x308), (0x4D9, 0x308), (0x416, 0x308), (0x436, 0x308), (0x417, 0x308), (0x437, 0x308)]),
  (0x4E2, [(0x418, 0x304), (0x438, 0x304), (0x418, 0x308), (0x438, 0x308), (0x41E, 0x308), (0x43E, 0x308)]),
  (0x4EA, [(0x4E8, 0x308), (0x4E9, 0x308), (0x42D, 0x308), (0x44D, 0x308), (0x423, 0x304), (0x443, 0x304), (0x423, 0x308), (0x443, 0x308), (0x423, 0x30B), (0x443, 0x30B), (0x427, 0x308), (0x447, 0x308)]),
  (0x4F8, [(0x42B, 0x308), (0x44B, 0x308)]),
  (0x622, [(0x627, 0x653), (0x627, 0x654), (0x648, 0x654), (0x627, 0x655), (0x64A, 0x654)]), (0x6C0, [(0x6D5, 0x654)]),
  (0x6C2, [(0x6C1, 0x654)]), (0x6D3, [(0x6D2, 0x654)]), (0x929, [(0x928, 0x93C)]), (0x931, [(0x930, 0x93C)]),
  (0x934, [(0x933, 0x93C)]), (0x9CB, [(0x9C7, 0x9BE), (0x9C7, 0x9D7)]), (0xB48, [(0xB47, 0xB56)]),
  (0xB4B, [(0xB47, 0xB3E), (0xB47, 0xB57)]), (0xB94, [(0xB92, 0xBD7)]),
  (0xBCA, [(0xBC6, 0xBBE), (0xBC7, 0xBBE), (0xBC6, 0xBD7)]), (0xC48, [(0xC46, 0xC56)]), (0xCC0, [(0xCBF, 0xCD5)]),
  (0xCC7, [(0xCC6, 0xCD5), (0xCC6, 0xCD6)]), (0xCCA, [(0xCC6, 0xCC2), (0xCCA, 0xCD5)]),
  (0xD4A, [(0xD46, 0xD3E), (0xD47, 0xD3E), (0xD46, 0xD57)]), (0xDDA, [(0xDD9, 0xDCA)]),
  (0xDDC, [(0xDD9, 0xDCF), (0xDDC, 0xDCA), (0xDD9, 0xDDF)]), (0x1026, [(0x1025, 0x102E)]), (0x1B06, [(0x1B05, 0x1B35)]),
  (0x1B08, [(0x1B07, 0x1B35)]), (0x1B0A, [(0x1B09, 0x1B35)]), (0x1B0C, [(0x1B0B, 0x1B35)]), (0x1B0E, [(0x1B0D, 0x1B35)]),
  (0x1B12, [(0x1B11, 0x1B35)]), (0x1B3B, [(0x1B3A, 0x1B35)]), (0x1B3D, [(0x1B3C, 0x1B35)]),
  (0x1B40, [(0x1B3E, 0x1B35), (0x1B3F, 0x1B35)]), (0x1B43, [(0x1B42, 0x1B35)]),
  (0x1E00, [(0x41, 0x325), (0x61, 0x325), (0x42, 0x307), (0x62, 0x307), (0x42, 0x323), (0x62, 0x323), (0x42, 0x331), (0x62, 0x331), (0xC7, 0x301), (0xE7, 0x301), (0x44, 0x307), (0x64, 0x307), (0x44, 0x323), (0x64, 0x323), (0x44, 0x331), (0x64, 0x331), (0x44, 0x327), (0x64, 0x327), (0x44, 0x32D), (0x64, 0x32D), (0x112, 0x300), (0x113, 0x300), (0x112, 0x301), (0x113, 0x301), (0x45, 0x32D), (0x65, 0x32D), (0x45, 0x330), (0x65, 0x330), (0x228, 0x306), (0x229, 0x306), (0x46, 0x307), (0x66, 0x307), (0x47, 0x304), (0x67, 0x304), (0x48, 0x307), (0x68, 0x307), (0x48, 0x323), (0x68, 0x323), (0x48, 0x308), (0x68, 0x308), (0x48, 0x327), (0x68, 0x327), (0x48, 0x32E), (0x68, 0x32E), (0x49, 0x330), (0x69, 0x330), (0xCF, 0x301), (0xEF, 0x301), (0x4B, 0x301), (0x6B, 0x301), (0x4B, 0x323), (0x6B, 0x323), (0x4B, 0x331), (0x6B, 0x331), (0x4C, 0x323), (0x6C, 0x323), (0x1E36, 0x304), (0x1E37, 0x304), (0x4C, 0x331), (0x6C, 0x331), (0x4C, 0x32D), (0x6C, 0x32D), (0x4D, 0x301), (0x6D, 0x301), (0x4D, 0x307), (0x6D, 0x307), (0x4D, 0x323), (0x6D, 0x323), (0x4E, 0x307), (0x6E, 0x307), (0x4E, 0x323), (0x6E, 0x323), (0x4E, 0x331), (0x6E, 0x331), (0x4E, 0x32D), (0x6E, 0x32D), (0xD5, 0x301), (0xF5, 0x301), (0xD5, 0x308), (0xF5, 0x308), (0x14C, 0x300), (0x14D, 0x300), (0x14C, 0x301), (0x14D, 0x301), (0x50, 0x301), (0x70, 0x301), (0x50, 0x307), (0x70, 0x307), (0x52, 0x307), (0x72, 0x307), (0x52, 0x323), (0x72, 0x323), (0x1E5A, 0x304), (0x1E5B, 0x304), (0x52, 0x331), (0x72, 0x331), (0x53, 0x307), (0x73, 0x307), (0x53, 0x323), (0x73, 0x323), (0x15A, 0x307), (0x15B, 0x307), (0x160, 0x307), (0x161, 0x307), (0x1E62, 0x307), (0x1E63, 0x307), (0x54, 0x307), (0x74, 0x307), (0x54, 0x323), (0x74, 0x323), (0x54, 0x331), (0x74, 0x331), (0x54, 0x32D), (0x74, 0x32D), (0x55, 0x324), (0x75, 0x324), (0x55, 0x330), (0x75, 0x330), (0x55, 0x32D), (0x75, 0x32D), (0x168, 0x301), (0x169, 0x301), (0x16A, 0x308), (0x16B, 0x308), (0x56, 0x303), (0x76, 0x303), (0x56, 0x323), (0x76, 0x323), (0x57, 0x300), (0x77, 0x300), (0x57, 0x301), (0x77, 0x301), (0x57, 0x308), (0x77, 0x308), (0x57, 0x307), (0x77, 0x307), (0x57, 0x323), (0x77, 0x323), (0x58, 0x307), (0x78, 0x307), (0x58, 0x308), (0x78, 0x308), (0x59, 0x307), (0x79, 0x307), (0x5A, 0x302), (0x7A, 0x302), (0x5A, 0x323), (0x7A, 0x323), (0x5A, 0x331), (0x7A, 0x331), (0x68, 0x331), (0x74, 0x308), (0x77, 0x30A), (0x79, 0x30A)]),
  (0x1E9B, [(0x17F, 0x307)]),
  (0x1EA0, [(0x41, 0x323), (0x61, 0x323), (0x41, 0x309), (0x61, 0x309), (0xC2, 0x301), (0xE2, 0x301), (0xC2, 0x300), (0xE2, 0x300), (0xC2, 0x309), (0xE2, 0x309), (0xC2, 0x303), (0xE2, 0x303), (0x1EA0, 0x302), (0x1EA1, 0x302), (0x102, 0x301), (0x103, 0x301), (0x102, 0x300), (0x103, 0x300), (0x102, 0x309), (0x103, 0x309), (0x102, 0x303), (0x103, 0x303), (0x1EA0, 0x306), (0x1EA1, 0x306), (0x45, 0x323), (0x65, 0x323), (0x45, 0x309), (0x65, 0x309), (0x45, 0x303), (0x65, 0x303), (0xCA, 0x301), (0xEA, 0x301), (0xCA, 0x300), (0xEA, 0x300), (0xCA, 0x309), (0xEA, 0x309), (0xCA, 0x303), (0xEA, 0x303), (0x1EB8, 0x302), (0x1EB9, 0x302), (0x49, 0x309), (0x69, 0x309), (0x49, 0x323), (0x69, 0x323), (0x4F, 0x323), (0x6F, 0x323), (0x4F, 0x309), (0x6F, 0x309), (0xD4, 0x301), (0xF4, 0x301), (0xD4, 0x300), (0xF4, 0x300), (0xD4, 0x309), (0xF4, 0x309), (0xD4, 0x303), (0xF4, 0x303), (0x1ECC, 0x302), (0x1ECD, 0x302), (0x1A0, 0x301), (0x1A1, 0x301), (0x1A0, 0x300), (0x1A1, 0x300), (0x1A0, 0x309), (0x1A1, 0x309), (0x1A0, 0x303), (0x1A1, 0x303), (0x1A0, 0x323), (0x1A1, 0x323), (0x55, 0x323), (0x75, 0x323), (0x55, 0x309), (0x75, 0x309), (0x1AF, 0x301), (0x1B0, 0x301), (0x1AF, 0x300), (0x1B0, 0x300), (0x1AF, 0x309), (0x1B0, 0x309), (0x1AF, 0x303), (0x1B0, 0x303), (0x1AF, 0x323), (0x1B0, 0x323), (0x59, 0x300), (0x79, 0x300), (0x59, 0x323), (0x79, 0x323), (0x59, 0x309), (0x79, 0x309), (0x59, 0x303), (0x79, 0x303)])]

/-- Rows of pairs that compose, each with what its first pair composes to; part 3 of 3. -/
def compositionsC : List (Nat × List (Nat × Nat)) := [
  (0x1F00, [(0x3B1, 0x313), (0x3B1, 0x314), (0x1F00, 0x300), (0x1F01, 0x300), (0x1F00, 0x301), (0x1F01, 0x301), (0x1F00, 0x342), (0x1F01, 0x342), (0x391, 0x313), (0x391, 0x314), (0x1F08, 0x300), (0x1F09, 0x300), (0x1F08, 0x301), (0x1F09, 0x301), (0x1F08, 0x342), (0x1F09, 0x342), (0x3B5, 0x313), (0x3B5, 0x314), (0x1F10, 0x300), (0x1F11, 0x300), (0x1F10, 0x301), (0x1F11, 0x301)]),
  (0x1F18, [(0x395, 0x313), (0x395, 0x314), (0x1F18, 0x300), (0x1F19, 0x300), (0x1F18, 0x301), (0x1F19, 0x301)]),
  (0x1F20, [(0x3B7, 0x313), (0x3B7, 0x314), (0x1F20, 0x300), (0x1F21, 0x300), (0x1F20, 0x301), (0x1F21, 0x301), (0x1F20, 0x342), (0x1F21, 0x342), (0x397, 0x313), (0x397, 0x314), (0x1F28, 0x300), (0x1F29, 0x300), (0x1F28, 0x301), (0x1F29, 0x301), (0x1F28, 0x342), (0x1F29, 0x342), (0x3B9, 0x313), (0x3B9, 0x314), (0x1F30, 0x300), (0x1F31, 0x300), (0x1F30, 0x301), (0x1F31, 0x301), (0x1F30, 0x342), (0x1F31, 0x342), (0x399, 0x313), (0x399, 0x314), (0x1F38, 0x300), (0x1F39, 0x300), (0x1F38, 0x301), (0x1F39, 0x301), (0x1F38, 0x342), (0x1F39, 0x342), (0x3BF, 0x313), (0x3BF, 0x314), (0x1F40, 0x300), (0x1F41, 0x300), (0x1F40, 0x301), (0x1F41, 0x301)]),
  (0x1F48, [(0x39F, 0x313), (0x39F, 0x314), (0x1F48, 0x300), (0x1F49, 0x300), (0x1F48, 0x301), (0x1F49, 0x301)]),
  (0x1F50, [(0x3C5, 0x313), (0x3C5, 0x314), (0x1F50, 0x300), (0x1F51, 0x300), (0x1F50, 0x301), (0x1F51, 0x301), (0x1F50, 0x342), (0x1F51, 0x342)]),
  (0x1F59, [(0x3A5, 0x314)]), (0x1F5B, [(0x1F59, 0x300)]), (0x1F5D, [(0x1F59, 0x301)]),
  (0x1F5F, [(0x1F59, 0x342), (0x3C9, 0x313), (0x3C9, 0x314), (0x1F60, 0x300), (0x1F61, 0x300), (0x1F60, 0x301), (0x1F61, 0x301), (0x1F60, 0x342), (0x1F61, 0x342), (0x3A9, 0x313), (0x3A9, 0x314), (0x1F68, 0x300), (0x1F69, 0x300), (0x1F68, 0x301), (0x1F69, 0x301), (0x1F68, 0x342), (0x1F69, 0x342), (0x3B1, 0x300)]),
  (0x1F72, [(0x3B5, 0x300)]), (0x1F74, [(0x3B7, 0x300)]), (0x1F76, [(0x3B9, 0x300)]), (0x1F78, [(0x3BF, 0x300)]),
  (0x1F7A, [(0x3C5, 0x300)]), (0x1F7C, [(0x3C9, 0x300)]),
  (0x1F80, [(0x1F00, 0x345), (0x1F01, 0x345), (0x1F02, 0x345), (0x1F03, 0x345), (0x1F04, 0x345), (0x1F05, 0x345), (0x1F06, 0x345), (0x1F07, 0x345), (0x1F08, 0x345), (0x1F09, 0x345), (0x1F0A, 0x345), (0x1F0B, 0x345), (0x1F0C, 0x345), (0x1F0D, 0x345), (0x1F0E, 0x345), (0x1F0F, 0x345), (0x1F20, 0x345), (0x1F21, 0x345), (0x1F22, 0x345), (0x1F23, 0x345), (0x1F24, 0x345), (0x1F25, 0x345), (0x1F26, 0x345), (0x1F27, 0x345), (0x1F28, 0x345), (0x1F29, 0x345), (0x1F2A, 0x345), (0x1F2B, 0x345), (0x1F2C, 0x345), (0x1F2D, 0x345), (0x1F2E, 0x345), (0x1F2F, 0x345), (0x1F60, 0x345), (0x1F61, 0x345), (0x1F62, 0x345), (0x1F63, 0x345), (0x1F64, 0x345), (0x1F65, 0x345), (0x1F66, 0x345), (0x1F67, 0x345), (0x1F68, 0x345), (0x1F69, 0x345), (0x1F6A, 0x345), (0x1F6B, 0x345), (0x1F6C, 0x345), (0x1F6D, 0x345), (0x1F6E, 0x345), (0x1F6F, 0x345), (0x3B1, 0x306), (0x3B1, 0x304), (0x1F70, 0x345), (0x3B1, 0x345), (0x3AC, 0x345)]),
  (0x1FB6, [(0x3B1, 0x342), (0x1FB6, 0x345), (0x391, 0x306), (0x391, 0x304), (0x391, 0x300)]), (0x1FBC, [(0x391, 0x345)]),
  (0x1FC2, [(0x1F74, 0x345), (0x3B7, 0x345), (0x3AE, 0x345)]), (0x1FC6, [(0x3B7, 0x342), (0x1FC6, 0x345), (0x395, 0x300)]),
  (0x1FCA, [(0x397, 0x300)]), (0x1FCC, [(0x397, 0x345)]), (0x1FD0, [(0x3B9, 0x306), (0x3B9, 0x304), (0x3CA, 0x300)]),
  (0x1FD6, [(0x3B9, 0x342), (0x3CA, 0x342), (0x399, 0x306), (0x399, 0x304), (0x399, 0x300)]),
  (0x1FE0, [(0x3C5, 0x306), (0x3C5, 0x304), (0x3CB, 0x300)]),
  (0x1FE4, [(0x3C1, 0x313), (0x3C1, 0x314), (0x3C5, 0x342), (0x3CB, 0x342), (0x3A5, 0x306), (0x3A5, 0x304), (0x3A5, 0x300)]),
  (0x1FEC, [(0x3A1, 0x314)]), (0x1FF2, [(0x1F7C, 0x345), (0x3C9, 0x345), (0x3CE, 0x345)]),
  (0x1FF6, [(0x3C9, 0x342), (0x1FF6, 0x345), (0x39F, 0x300)]), (0x1FFA, [(0x3A9, 0x300)]), (0x1FFC, [(0x3A9, 0x345)]),
  (0x304C, [(0x304B, 0x3099)]), (0x304E, [(0x304D, 0x3099)]), (0x3050, [(0x304F, 0x3099)]), (0x3052, [(0x3051, 0x3099)]),
  (0x3054, [(0x3053, 0x3099)]), (0x3056, [(0x3055, 0x3099)]), (0x3058, [(0x3057, 0x3099)]), (0x305A, [(0x3059, 0x3099)]),
  (0x305C, [(0x305B, 0x3099)]), (0x305E, [(0x305D, 0x3099)]), (0x3060, [(0x305F, 0x3099)]), (0x3062, [(0x3061, 0x3099)]),
  (0x3065, [(0x3064, 0x3099)]), (0x3067, [(0x3066, 0x3099)]), (0x3069, [(0x3068, 0x3099)]),
  (0x3070, [(0x306F, 0x3099), (0x306F, 0x309A)]), (0x3073, [(0x3072, 0x3099), (0x3072, 0x309A)]),
  (0x3076, [(0x3075, 0x3099), (0x3075, 0x309A)]), (0x3079, [(0x3078, 0x3099), (0x3078, 0x309A)]),
  (0x307C, [(0x307B, 0x3099), (0x307B, 0x309A)]), (0x3094, [(0x3046, 0x3099)]), (0x309E, [(0x309D, 0x3099)]),
  (0x30AC, [(0x30AB, 0x3099)]), (0x30AE, [(0x30AD, 0x3099)]), (0x30B0, [(0x30AF, 0x3099)]), (0x30B2, [(0x30B1, 0x3099)]),
  (0x30B4, [(0x30B3, 0x3099)]), (0x30B6, [(0x30B5, 0x3099)]), (0x30B8, [(0x30B7, 0x3099)]), (0x30BA, [(0x30B9, 0x3099)]),
  (0x30BC, [(0x30BB, 0x3099)]), (0x30BE, [(0x30BD, 0x3099)]), (0x30C0, [(0x30BF, 0x3099)]), (0x30C2, [(0x30C1, 0x3099)]),
  (0x30C5, [(0x30C4, 0x3099)]), (0x30C7, [(0x30C6, 0x3099)]), (0x30C9, [(0x30C8, 0x3099)]),
  (0x30D0, [(0x30CF, 0x3099), (0x30CF, 0x309A)]), (0x30D3, [(0x30D2, 0x3099), (0x30D2, 0x309A)]),
  (0x30D6, [(0x30D5, 0x3099), (0x30D5, 0x309A)]), (0x30D9, [(0x30D8, 0x3099), (0x30D8, 0x309A)]),
  (0x30DC, [(0x30DB, 0x3099), (0x30DB, 0x309A)]), (0x30F4, [(0x30A6, 0x3099)]),
  (0x30F7, [(0x30EF, 0x3099), (0x30F0, 0x3099), (0x30F1, 0x3099), (0x30F2, 0x3099)]), (0x30FE, [(0x30FD, 0x3099)]),
  (0x1109A, [(0x11099, 0x110BA)]), (0x1109C, [(0x1109B, 0x110BA)]), (0x110AB, [(0x110A5, 0x110BA)]),
  (0x1112E, [(0x11131, 0x11127), (0x11132, 0x11127)]), (0x1134B, [(0x11347, 0x1133E), (0x11347, 0x11357)]),
  (0x114BB, [(0x114B9, 0x114BA), (0x114B9, 0x114B0)]), (0x114BE, [(0x114B9, 0x114BD)]),
  (0x115BA, [(0x115B8, 0x115AF), (0x115B9, 0x115AF)]), (0x11938, [(0x11935, 0x11930)])]

/-- The pairs of a row with what they compose to. -/
def pairsOfRow (row : Nat × List (Nat × Nat)) : List (Nat × Nat × Nat) :=
  row.2.zipIdx.map fun p => (p.1.1, p.1.2, row.1 + p.2)

/-- All pairs that compose: first, second, whole. -/
def pairs : List (List (Nat × Nat × Nat)) := (compositionsA ++ compositionsB ++ compositionsC).map pairsOfRow

end CallLint.Text.Normal
