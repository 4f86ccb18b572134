/-!
# Folded characters

The form in which characters stand in a domain: capital letters become small, and letters in a
special shape (full width, mathematical, raised) become plain ones. Runs of characters fold to runs
of characters; some single characters fold to a text.
-/

namespace StatsBoard.Text

/-- Runs of characters that fold to one character each: the first, how many there are, the distance
from one to the next, and the character to which the first folds; the others fold to characters at
the same distance from it. -/
def foldedRuns : List (Nat × Nat × Nat × Nat) :=
  [(0xa0, 1, 1, 0x20), (0xaa, 1, 1, 0x61), (0xb2, 2, 1, 0x32), (0xb5, 1, 1, 0x3bc),
    (0xb9, 1, 1, 0x31), (0xba, 1, 1, 0x6f), (0xc0, 23, 1, 0xe0), (0xd8, 7, 1, 0xf8),
    (0x100, 24, 2, 0x101), (0x134, 2, 2, 0x135), (0x139, 3, 2, 0x13a), (0x141, 4, 2, 0x142),
    (0x14a, 23, 2, 0x14b), (0x178, 1, 1, 0xff), (0x179, 3, 2, 0x17a), (0x17f, 1, 1, 0x73),
    (0x181, 1, 1, 0x253), (0x182, 2, 2, 0x183), (0x186, 1, 1, 0x254), (0x187, 1, 1, 0x188),
    (0x189, 2, 1, 0x256), (0x18b, 1, 1, 0x18c), (0x18e, 1, 1, 0x1dd), (0x18f, 1, 1, 0x259),
    (0x190, 1, 1, 0x25b), (0x191, 1, 1, 0x192), (0x193, 1, 1, 0x260), (0x194, 1, 1, 0x263),
    (0x196, 1, 1, 0x269), (0x197, 1, 1, 0x268), (0x198, 1, 1, 0x199), (0x19c, 1, 1, 0x26f),
    (0x19d, 1, 1, 0x272), (0x19f, 1, 1, 0x275), (0x1a0, 3, 2, 0x1a1), (0x1a6, 1, 1, 0x280),
    (0x1a7, 1, 1, 0x1a8), (0x1a9, 1, 1, 0x283), (0x1ac, 1, 1, 0x1ad), (0x1ae, 1, 1, 0x288),
    (0x1af, 1, 1, 0x1b0), (0x1b1, 2, 1, 0x28a), (0x1b3, 2, 2, 0x1b4), (0x1b7, 1, 1, 0x292),
    (0x1b8, 1, 1, 0x1b9), (0x1bc, 1, 1, 0x1bd), (0x1cd, 8, 2, 0x1ce), (0x1de, 9, 2, 0x1df),
    (0x1f4, 1, 1, 0x1f5), (0x1f6, 1, 1, 0x195), (0x1f7, 1, 1, 0x1bf), (0x1f8, 20, 2, 0x1f9),
    (0x220, 1, 1, 0x19e), (0x222, 9, 2, 0x223), (0x23a, 1, 1, 0x2c65), (0x23b, 1, 1, 0x23c),
    (0x23d, 1, 1, 0x19a), (0x23e, 1, 1, 0x2c66), (0x241, 1, 1, 0x242), (0x243, 1, 1, 0x180),
    (0x244, 1, 1, 0x289), (0x245, 1, 1, 0x28c), (0x246, 5, 2, 0x247), (0x2b0, 2, 2, 0x68),
    (0x2b1, 1, 1, 0x266), (0x2b3, 1, 1, 0x72), (0x2b4, 1, 1, 0x279), (0x2b5, 1, 1, 0x27b),
    (0x2b6, 1, 1, 0x281), (0x2b7, 1, 1, 0x77), (0x2b8, 1, 1, 0x79), (0x2e0, 1, 1, 0x263),
    (0x2e1, 1, 1, 0x6c), (0x2e2, 1, 1, 0x73), (0x2e3, 1, 1, 0x78), (0x2e4, 1, 1, 0x295),
    (0x340, 2, 1, 0x300), (0x343, 1, 1, 0x313), (0x345, 1, 1, 0x3b9), (0x370, 2, 2, 0x371),
    (0x374, 1, 1, 0x2b9), (0x376, 1, 1, 0x377), (0x37e, 1, 1, 0x3b), (0x37f, 1, 1, 0x3f3),
    (0x386, 1, 1, 0x3ac), (0x387, 1, 1, 0xb7), (0x388, 3, 1, 0x3ad), (0x38c, 1, 1, 0x3cc),
    (0x38e, 2, 1, 0x3cd), (0x391, 17, 1, 0x3b1), (0x3a3, 9, 1, 0x3c3), (0x3cf, 1, 1, 0x3d7),
    (0x3d0, 1, 1, 0x3b2), (0x3d1, 1, 1, 0x3b8), (0x3d2, 1, 1, 0x3c5), (0x3d3, 1, 1, 0x3cd),
    (0x3d4, 1, 1, 0x3cb), (0x3d5, 1, 1, 0x3c6), (0x3d6, 1, 1, 0x3c0), (0x3d8, 12, 2, 0x3d9),
    (0x3f0, 1, 1, 0x3ba), (0x3f1, 1, 1, 0x3c1), (0x3f2, 1, 1, 0x3c3), (0x3f4, 1, 1, 0x3b8),
    (0x3f5, 1, 1, 0x3b5), (0x3f7, 1, 1, 0x3f8), (0x3f9, 1, 1, 0x3c3), (0x3fa, 1, 1, 0x3fb),
    (0x3fd, 3, 1, 0x37b), (0x400, 16, 1, 0x450), (0x410, 32, 1, 0x430), (0x460, 17, 2, 0x461),
    (0x48a, 27, 2, 0x48b), (0x4c1, 7, 2, 0x4c2), (0x4d0, 48, 2, 0x4d1), (0x531, 38, 1, 0x561),
    (0x10c7, 1, 1, 0x2d27), (0x10cd, 1, 1, 0x2d2d), (0x10fc, 1, 1, 0x10dc), (0x1c80, 1, 1, 0x432),
    (0x1c81, 1, 1, 0x434), (0x1c82, 1, 1, 0x43e), (0x1c83, 2, 1, 0x441), (0x1c85, 1, 1, 0x442),
    (0x1c86, 1, 1, 0x44a), (0x1c87, 1, 1, 0x463), (0x1c88, 1, 1, 0xa64b), (0x1c90, 43, 1, 0x10d0),
    (0x1cbd, 3, 1, 0x10fd), (0x1e00, 75, 2, 0x1e01), (0x1e9b, 1, 1, 0x1e61), (0x1e9e, 1, 1, 0xdf),
    (0x1ea0, 48, 2, 0x1ea1), (0x1f08, 8, 1, 0x1f00), (0x1f18, 6, 1, 0x1f10),
    (0x1f28, 8, 1, 0x1f20), (0x1f38, 8, 1, 0x1f30), (0x1f48, 6, 1, 0x1f40), (0x1f59, 4, 2, 0x1f51),
    (0x1f68, 8, 1, 0x1f60), (0x1f71, 1, 1, 0x3ac), (0x1f73, 1, 1, 0x3ad), (0x1f75, 1, 1, 0x3ae),
    (0x1f77, 1, 1, 0x3af), (0x1f79, 1, 1, 0x3cc), (0x1f7b, 1, 1, 0x3cd), (0x1f7d, 1, 1, 0x3ce),
    (0x1fb8, 2, 1, 0x1fb0), (0x1fba, 1, 1, 0x1f70), (0x1fbb, 1, 1, 0x3ac), (0x1fbe, 1, 1, 0x3b9),
    (0x1fc8, 2, 2, 0x1f72), (0x1fc9, 1, 1, 0x3ad), (0x1fcb, 1, 1, 0x3ae), (0x1fd3, 1, 1, 0x390),
    (0x1fd8, 2, 1, 0x1fd0), (0x1fda, 1, 1, 0x1f76), (0x1fdb, 1, 1, 0x3af), (0x1fe3, 1, 1, 0x3b0),
    (0x1fe8, 2, 1, 0x1fe0), (0x1fea, 1, 1, 0x1f7a), (0x1feb, 1, 1, 0x3cd), (0x1fec, 1, 1, 0x1fe5),
    (0x1fef, 1, 1, 0x60), (0x1ff8, 1, 1, 0x1f78), (0x1ff9, 2, 2, 0x3cc), (0x1ffa, 1, 1, 0x1f7c),
    (0x2000, 1, 1, 0x20), (0x2001, 1, 1, 0x20), (0x2002, 1, 1, 0x20), (0x2003, 1, 1, 0x20),
    (0x2004, 1, 1, 0x20), (0x2005, 1, 1, 0x20), (0x2006, 1, 1, 0x20), (0x2007, 1, 1, 0x20),
    (0x2008, 1, 1, 0x20), (0x2009, 1, 1, 0x20), (0x200a, 1, 1, 0x20), (0x2011, 1, 1, 0x2010),
    (0x202f, 1, 1, 0x20), (0x205f, 1, 1, 0x20), (0x2070, 1, 1, 0x30), (0x2071, 1, 1, 0x69),
    (0x2074, 6, 1, 0x34), (0x207a, 1, 1, 0x2b), (0x207b, 1, 1, 0x2212), (0x207c, 1, 1, 0x3d),
    (0x207d, 2, 1, 0x28), (0x207f, 1, 1, 0x6e), (0x2080, 10, 1, 0x30), (0x208a, 1, 1, 0x2b),
    (0x208b, 1, 1, 0x2212), (0x208c, 1, 1, 0x3d), (0x208d, 2, 1, 0x28), (0x2090, 1, 1, 0x61),
    (0x2091, 1, 1, 0x65), (0x2092, 1, 1, 0x6f), (0x2093, 1, 1, 0x78), (0x2094, 1, 1, 0x259),
    (0x2095, 1, 1, 0x68), (0x2096, 4, 1, 0x6b), (0x209a, 1, 1, 0x70), (0x209b, 2, 1, 0x73),
    (0x2102, 1, 1, 0x63), (0x2107, 1, 1, 0x25b), (0x210a, 2, 1, 0x67), (0x210c, 1, 1, 0x68),
    (0x210d, 1, 1, 0x68), (0x210e, 1, 1, 0x68), (0x210f, 1, 1, 0x127), (0x2110, 1, 1, 0x69),
    (0x2111, 1, 1, 0x69), (0x2112, 1, 1, 0x6c), (0x2113, 2, 2, 0x6c), (0x2119, 3, 1, 0x70),
    (0x211c, 1, 1, 0x72), (0x211d, 1, 1, 0x72), (0x2124, 1, 1, 0x7a), (0x2126, 1, 1, 0x3c9),
    (0x2128, 1, 1, 0x7a), (0x212a, 1, 1, 0x6b), (0x212b, 1, 1, 0xe5), (0x212c, 2, 1, 0x62),
    (0x212f, 1, 1, 0x65), (0x2130, 2, 1, 0x65), (0x2133, 1, 1, 0x6d), (0x2134, 1, 1, 0x6f),
    (0x2135, 4, 1, 0x5d0), (0x2139, 1, 1, 0x69), (0x213c, 1, 1, 0x3c0), (0x213d, 1, 1, 0x3b3),
    (0x213e, 1, 1, 0x3b3), (0x213f, 1, 1, 0x3c0), (0x2140, 1, 1, 0x2211), (0x2145, 1, 1, 0x64),
    (0x2146, 2, 1, 0x64), (0x2148, 2, 1, 0x69), (0x2160, 1, 1, 0x69), (0x2164, 1, 1, 0x76),
    (0x2169, 1, 1, 0x78), (0x216c, 1, 1, 0x6c), (0x216d, 2, 1, 0x63), (0x216f, 1, 1, 0x6d),
    (0x2170, 1, 1, 0x69), (0x2174, 1, 1, 0x76), (0x2179, 1, 1, 0x78), (0x217c, 1, 1, 0x6c),
    (0x217d, 2, 1, 0x63), (0x217f, 1, 1, 0x6d), (0x2329, 2, 1, 0x3008), (0x2460, 9, 1, 0x31),
    (0x24b6, 26, 1, 0x61), (0x24d0, 26, 1, 0x61), (0x24ea, 1, 1, 0x30), (0x2c00, 48, 1, 0x2c30),
    (0x2c60, 1, 1, 0x2c61), (0x2c62, 1, 1, 0x26b), (0x2c63, 1, 1, 0x1d7d), (0x2c64, 1, 1, 0x27d),
    (0x2c67, 3, 2, 0x2c68), (0x2c6d, 1, 1, 0x251), (0x2c6e, 1, 1, 0x271), (0x2c6f, 1, 1, 0x250),
    (0x2c70, 1, 1, 0x252), (0x2c72, 1, 1, 0x2c73), (0x2c75, 1, 1, 0x2c76), (0x2c7c, 1, 1, 0x6a),
    (0x2c7d, 1, 1, 0x76), (0x2c7e, 2, 1, 0x23f), (0x2c80, 50, 2, 0x2c81), (0x2ceb, 2, 2, 0x2cec),
    (0x2cf2, 1, 1, 0x2cf3), (0x2d6f, 1, 1, 0x2d61), (0x3000, 1, 1, 0x20), (0x3002, 1, 1, 0x2e),
    (0x3036, 1, 1, 0x3012), (0x3038, 1, 1, 0x5341), (0x3039, 2, 1, 0x5344), (0xff01, 32, 1, 0x21),
    (0xff21, 26, 1, 0x61), (0xff3b, 36, 1, 0x5b), (0xff5f, 2, 1, 0x2985), (0xff61, 1, 1, 0x2e),
    (0xff62, 2, 1, 0x300c), (0xff64, 1, 1, 0x3001), (0xff65, 1, 1, 0x30fb), (0xff66, 1, 1, 0x30f2),
    (0xff67, 1, 1, 0x30a1), (0xff68, 1, 1, 0x30a3), (0xff69, 1, 1, 0x30a5), (0xff6a, 1, 1, 0x30a7),
    (0xff6b, 1, 1, 0x30a9), (0xff6c, 1, 1, 0x30e3), (0xff6d, 1, 1, 0x30e5), (0xff6e, 1, 1, 0x30e7),
    (0xff6f, 1, 1, 0x30c3), (0xff70, 1, 1, 0x30fc), (0xff71, 1, 1, 0x30a2), (0xff72, 1, 1, 0x30a4),
    (0xff73, 1, 1, 0x30a6), (0xff74, 1, 1, 0x30a8), (0xff75, 2, 1, 0x30aa), (0xff77, 1, 1, 0x30ad),
    (0xff78, 1, 1, 0x30af), (0xff79, 1, 1, 0x30b1), (0xff7a, 1, 1, 0x30b3), (0xff7b, 1, 1, 0x30b5),
    (0xff7c, 1, 1, 0x30b7), (0xff7d, 1, 1, 0x30b9), (0xff7e, 1, 1, 0x30bb), (0xff7f, 1, 1, 0x30bd),
    (0xff80, 1, 1, 0x30bf), (0xff81, 1, 1, 0x30c1), (0xff82, 1, 1, 0x30c4), (0xff83, 1, 1, 0x30c6),
    (0xff84, 1, 1, 0x30c8), (0xff85, 6, 1, 0x30ca), (0xff8b, 1, 1, 0x30d2), (0xff8c, 1, 1, 0x30d5),
    (0xff8d, 1, 1, 0x30d8), (0xff8e, 1, 1, 0x30db), (0xff8f, 5, 1, 0x30de), (0xff94, 1, 1, 0x30e4),
    (0xff95, 1, 1, 0x30e6), (0xff96, 6, 1, 0x30e8), (0xff9c, 1, 1, 0x30ef), (0xff9d, 1, 1, 0x30f3),
    (0xff9e, 2, 1, 0x3099), (0xffa1, 2, 1, 0x1100), (0xffa3, 2, 2, 0x11aa), (0xffa4, 1, 1, 0x1102),
    (0xffa6, 1, 1, 0x11ad), (0xffa7, 3, 1, 0x1103), (0xffaa, 6, 1, 0x11b0), (0xffb0, 1, 1, 0x111a),
    (0xffb1, 3, 1, 0x1106), (0xffb4, 1, 1, 0x1121), (0xffb5, 10, 1, 0x1109),
    (0xffc2, 6, 1, 0x1161), (0xffca, 6, 1, 0x1167), (0xffd2, 6, 1, 0x116d), (0xffda, 3, 1, 0x1173),
    (0xffe0, 2, 1, 0xa2), (0xffe2, 1, 1, 0xac), (0xffe4, 1, 1, 0xa6), (0xffe5, 1, 1, 0xa5),
    (0xffe6, 1, 1, 0x20a9), (0xffe8, 1, 1, 0x2502), (0xffe9, 4, 1, 0x2190), (0xffed, 1, 1, 0x25a0),
    (0xffee, 1, 1, 0x25cb), (0x10400, 40, 1, 0x10428), (0x1d400, 26, 1, 0x61),
    (0x1d41a, 26, 1, 0x61), (0x1d434, 26, 1, 0x61), (0x1d44e, 13, 2, 0x61), (0x1d44f, 3, 2, 0x62),
    (0x1d457, 9, 2, 0x6a), (0x1d468, 26, 1, 0x61), (0x1d482, 26, 1, 0x61), (0x1d49c, 2, 2, 0x61),
    (0x1d49f, 1, 1, 0x64), (0x1d4a2, 1, 1, 0x67), (0x1d4a5, 2, 1, 0x6a), (0x1d4a9, 4, 1, 0x6e),
    (0x1d4ae, 8, 1, 0x73), (0x1d4b6, 4, 1, 0x61), (0x1d4bb, 11, 2, 0x66), (0x1d4be, 3, 2, 0x69),
    (0x1d4c6, 5, 2, 0x71), (0x1d4d0, 26, 1, 0x61), (0x1d4ea, 26, 1, 0x61), (0x1d504, 2, 1, 0x61),
    (0x1d507, 4, 1, 0x64), (0x1d50d, 8, 1, 0x6a), (0x1d516, 7, 1, 0x73), (0x1d51e, 26, 1, 0x61),
    (0x1d538, 2, 1, 0x61), (0x1d53b, 4, 1, 0x64), (0x1d540, 5, 1, 0x69), (0x1d546, 1, 1, 0x6f),
    (0x1d54a, 7, 1, 0x73), (0x1d552, 26, 1, 0x61), (0x1d56c, 26, 1, 0x61), (0x1d586, 26, 1, 0x61),
    (0x1d5a0, 26, 1, 0x61), (0x1d5ba, 26, 1, 0x61), (0x1d5d4, 26, 1, 0x61), (0x1d5ee, 26, 1, 0x61),
    (0x1d608, 26, 1, 0x61), (0x1d622, 26, 1, 0x61), (0x1d63c, 26, 1, 0x61), (0x1d656, 26, 1, 0x61),
    (0x1d670, 26, 1, 0x61), (0x1d68a, 26, 1, 0x61), (0x1d6a4, 1, 1, 0x131), (0x1d6a5, 1, 1, 0x237),
    (0x1d6a8, 17, 1, 0x3b1), (0x1d6b9, 1, 1, 0x3b8), (0x1d6ba, 7, 1, 0x3c3),
    (0x1d6c1, 1, 1, 0x2207), (0x1d6c2, 17, 1, 0x3b1), (0x1d6d3, 1, 1, 0x3c3),
    (0x1d6d4, 7, 1, 0x3c3), (0x1d6db, 1, 1, 0x2202), (0x1d6dc, 1, 1, 0x3b5),
    (0x1d6dd, 1, 1, 0x3b8), (0x1d6de, 1, 1, 0x3ba), (0x1d6df, 1, 1, 0x3c6), (0x1d6e0, 1, 1, 0x3c1),
    (0x1d6e1, 1, 1, 0x3c0), (0x1d6e2, 17, 1, 0x3b1), (0x1d6f3, 1, 1, 0x3b8),
    (0x1d6f4, 7, 1, 0x3c3), (0x1d6fb, 1, 1, 0x2207), (0x1d6fc, 17, 1, 0x3b1),
    (0x1d70d, 1, 1, 0x3c3), (0x1d70e, 7, 1, 0x3c3), (0x1d715, 1, 1, 0x2202),
    (0x1d716, 1, 1, 0x3b5), (0x1d717, 1, 1, 0x3b8), (0x1d718, 1, 1, 0x3ba), (0x1d719, 1, 1, 0x3c6),
    (0x1d71a, 1, 1, 0x3c1), (0x1d71b, 1, 1, 0x3c0), (0x1d71c, 17, 1, 0x3b1),
    (0x1d72d, 1, 1, 0x3b8), (0x1d72e, 7, 1, 0x3c3), (0x1d735, 1, 1, 0x2207),
    (0x1d736, 17, 1, 0x3b1), (0x1d747, 1, 1, 0x3c3), (0x1d748, 7, 1, 0x3c3),
    (0x1d74f, 1, 1, 0x2202), (0x1d750, 1, 1, 0x3b5), (0x1d751, 1, 1, 0x3b8),
    (0x1d752, 1, 1, 0x3ba), (0x1d753, 1, 1, 0x3c6), (0x1d754, 1, 1, 0x3c1), (0x1d755, 1, 1, 0x3c0),
    (0x1d756, 17, 1, 0x3b1), (0x1d767, 1, 1, 0x3b8), (0x1d768, 7, 1, 0x3c3),
    (0x1d76f, 1, 1, 0x2207), (0x1d770, 17, 1, 0x3b1), (0x1d781, 1, 1, 0x3c3),
    (0x1d782, 7, 1, 0x3c3), (0x1d789, 1, 1, 0x2202), (0x1d78a, 1, 1, 0x3b5),
    (0x1d78b, 1, 1, 0x3b8), (0x1d78c, 1, 1, 0x3ba), (0x1d78d, 1, 1, 0x3c6), (0x1d78e, 1, 1, 0x3c1),
    (0x1d78f, 1, 1, 0x3c0), (0x1d790, 17, 1, 0x3b1), (0x1d7a1, 1, 1, 0x3b8),
    (0x1d7a2, 7, 1, 0x3c3), (0x1d7a9, 1, 1, 0x2207), (0x1d7aa, 17, 1, 0x3b1),
    (0x1d7bb, 1, 1, 0x3c3), (0x1d7bc, 7, 1, 0x3c3), (0x1d7c3, 1, 1, 0x2202),
    (0x1d7c4, 1, 1, 0x3b5), (0x1d7c5, 1, 1, 0x3b8), (0x1d7c6, 1, 1, 0x3ba), (0x1d7c7, 1, 1, 0x3c6),
    (0x1d7c8, 1, 1, 0x3c1), (0x1d7c9, 1, 1, 0x3c0), (0x1d7ca, 1, 1, 0x3dd), (0x1d7cb, 1, 1, 0x3dd),
    (0x1d7ce, 10, 1, 0x30), (0x1d7d8, 10, 1, 0x30), (0x1d7e2, 10, 1, 0x30), (0x1d7ec, 10, 1, 0x30),
    (0x1d7f6, 10, 1, 0x30)]

/-- Characters that fold to a text of their own. -/
def foldedTexts : List (Nat × String) :=
  [(0xbc, "1⁄4"), (0xbd, "1⁄2"), (0xbe, "3⁄4"), (0x130, "i\u0307"), (0x132, "ij"), (0x133, "ij"),
    (0x13f, "l·"), (0x140, "l·"), (0x149, "\u02bcn"), (0x1c4, "dž"), (0x1c5, "dž"), (0x1c6, "dž"),
    (0x1c7, "lj"), (0x1c8, "lj"), (0x1c9, "lj"), (0x1ca, "nj"), (0x1cb, "nj"), (0x1cc, "nj"),
    (0x1f1, "dz"), (0x1f2, "dz"), (0x1f3, "dz"), (0x344, "\u0308\u0301"), (0x587, "եւ"),
    (0x1e9a, "a\u02be"), (0x1f80, "ἀι"), (0x1f81, "ἁι"), (0x1f82, "ἂι"), (0x1f83, "ἃι"),
    (0x1f84, "ἄι"), (0x1f85, "ἅι"), (0x1f86, "ἆι"), (0x1f87, "ἇι"), (0x1f88, "ἀι"), (0x1f89, "ἁι"),
    (0x1f8a, "ἂι"), (0x1f8b, "ἃι"), (0x1f8c, "ἄι"), (0x1f8d, "ἅι"), (0x1f8e, "ἆι"), (0x1f8f, "ἇι"),
    (0x1f90, "ἠι"), (0x1f91, "ἡι"), (0x1f92, "ἢι"), (0x1f93, "ἣι"), (0x1f94, "ἤι"), (0x1f95, "ἥι"),
    (0x1f96, "ἦι"), (0x1f97, "ἧι"), (0x1f98, "ἠι"), (0x1f99, "ἡι"), (0x1f9a, "ἢι"), (0x1f9b, "ἣι"),
    (0x1f9c, "ἤι"), (0x1f9d, "ἥι"), (0x1f9e, "ἦι"), (0x1f9f, "ἧι"), (0x1fa0, "ὠι"), (0x1fa1, "ὡι"),
    (0x1fa2, "ὢι"), (0x1fa3, "ὣι"), (0x1fa4, "ὤι"), (0x1fa5, "ὥι"), (0x1fa6, "ὦι"), (0x1fa7, "ὧι"),
    (0x1fa8, "ὠι"), (0x1fa9, "ὡι"), (0x1faa, "ὢι"), (0x1fab, "ὣι"), (0x1fac, "ὤι"), (0x1fad, "ὥι"),
    (0x1fae, "ὦι"), (0x1faf, "ὧι"), (0x1fb2, "ὰι"), (0x1fb3, "αι"), (0x1fb4, "άι"), (0x1fb7, "ᾶι"),
    (0x1fbc, "αι"), (0x1fc2, "ὴι"), (0x1fc3, "ηι"), (0x1fc4, "ήι"), (0x1fc7, "ῆι"), (0x1fcc, "ηι"),
    (0x1ff2, "ὼι"), (0x1ff3, "ωι"), (0x1ff4, "ώι"), (0x1ff7, "ῶι"), (0x1ffc, "ωι"), (0x2024, "."),
    (0x2025, ".."), (0x2026, "..."), (0x2033, "′′"), (0x2034, "′′′"), (0x2036, "‵‵"),
    (0x2037, "‵‵‵"), (0x203c, "!!"), (0x2047, "??"), (0x2048, "?!"), (0x2049, "!?"),
    (0x2057, "′′′′"), (0x20a8, "rs"), (0x2100, "a/c"), (0x2101, "a/s"), (0x2103, "°c"),
    (0x2105, "c/o"), (0x2106, "c/u"), (0x2109, "°f"), (0x2116, "no"), (0x2120, "sm"),
    (0x2121, "tel"), (0x2122, "tm"), (0x213b, "fax"), (0x2150, "1⁄7"), (0x2151, "1⁄9"),
    (0x2152, "1⁄10"), (0x2153, "1⁄3"), (0x2154, "2⁄3"), (0x2155, "1⁄5"), (0x2156, "2⁄5"),
    (0x2157, "3⁄5"), (0x2158, "4⁄5"), (0x2159, "1⁄6"), (0x215a, "5⁄6"), (0x215b, "1⁄8"),
    (0x215c, "3⁄8"), (0x215d, "5⁄8"), (0x215e, "7⁄8"), (0x215f, "1⁄"), (0x2161, "ii"),
    (0x2162, "iii"), (0x2163, "iv"), (0x2165, "vi"), (0x2166, "vii"), (0x2167, "viii"),
    (0x2168, "ix"), (0x216a, "xi"), (0x216b, "xii"), (0x2171, "ii"), (0x2172, "iii"),
    (0x2173, "iv"), (0x2175, "vi"), (0x2176, "vii"), (0x2177, "viii"), (0x2178, "ix"),
    (0x217a, "xi"), (0x217b, "xii"), (0x2189, "0⁄3"), (0x222c, "∫∫"), (0x222d, "∫∫∫"),
    (0x222f, "∮∮"), (0x2230, "∮∮∮"), (0x2469, "10"), (0x246a, "11"), (0x246b, "12"),
    (0x246c, "13"), (0x246d, "14"), (0x246e, "15"), (0x246f, "16"), (0x2470, "17"), (0x2471, "18"),
    (0x2472, "19"), (0x2473, "20"), (0x2474, "(1)"), (0x2475, "(2)"), (0x2476, "(3)"),
    (0x2477, "(4)"), (0x2478, "(5)"), (0x2479, "(6)"), (0x247a, "(7)"), (0x247b, "(8)"),
    (0x247c, "(9)"), (0x247d, "(10)"), (0x247e, "(11)"), (0x247f, "(12)"), (0x2480, "(13)"),
    (0x2481, "(14)"), (0x2482, "(15)"), (0x2483, "(16)"), (0x2484, "(17)"), (0x2485, "(18)"),
    (0x2486, "(19)"), (0x2487, "(20)"), (0x249c, "(a)"), (0x249d, "(b)"), (0x249e, "(c)"),
    (0x249f, "(d)"), (0x24a0, "(e)"), (0x24a1, "(f)"), (0x24a2, "(g)"), (0x24a3, "(h)"),
    (0x24a4, "(i)"), (0x24a5, "(j)"), (0x24a6, "(k)"), (0x24a7, "(l)"), (0x24a8, "(m)"),
    (0x24a9, "(n)"), (0x24aa, "(o)"), (0x24ab, "(p)"), (0x24ac, "(q)"), (0x24ad, "(r)"),
    (0x24ae, "(s)"), (0x24af, "(t)"), (0x24b0, "(u)"), (0x24b1, "(v)"), (0x24b2, "(w)"),
    (0x24b3, "(x)"), (0x24b4, "(y)"), (0x24b5, "(z)"), (0x2a0c, "∫∫∫∫"), (0x2a74, "::="),
    (0x2a75, "=="), (0x2a76, "==="), (0x2adc, "⫝\u0338"), (0x309f, "より"), (0x30ff, "コト"),
    (0xfb00, "ff"), (0xfb01, "fi"), (0xfb02, "fl"), (0xfb03, "ffi"), (0xfb04, "ffl"),
    (0xfb05, "st"), (0xfb06, "st"), (0xfb13, "մն"), (0xfb14, "մե"), (0xfb15, "մի"), (0xfb16, "վն"),
    (0xfb17, "մխ")]

/-- Characters that fold to nothing: they only guide how text is shown. -/
def vanishing : List (Nat × Nat) :=
  [(0xad, 0xad), (0x34f, 0x34f), (0x180b, 0x180d), (0x180f, 0x180f), (0x200b, 0x200b),
    (0x2060, 0x2060), (0x2064, 0x2064), (0xfe00, 0xfe0f), (0xfeff, 0xfeff), (0x1bca0, 0x1bca3),
    (0xe0100, 0xe01ef)]

/-- The character to which a run folds a character. -/
def foldInRun? (n : Nat) : Nat × Nat × Nat × Nat → Option Char
  | (first, count, step, target) =>
    if first ≤ n ∧ n < first + count * step ∧ (n - first) % step = 0 then
      some (Char.ofNat (target + (n - first)))
    else none

/-- The folded form of a character beyond ASCII. -/
def foldChar (c : Char) : List Char :=
  let n := c.toNat
  if vanishing.any fun (low, high) => low ≤ n && n ≤ high then []
  else
    match foldedRuns.findSome? (foldInRun? n) with
    | some folded => [folded]
    | none => ((foldedTexts.find? (·.1 == n)).map (·.2.toList)).getD [c]

end StatsBoard.Text
