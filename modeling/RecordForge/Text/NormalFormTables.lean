/-!
# Tables of the normal form

The characters of identifiers that are made of others (Unicode 14): the pairs that compose to one
character, the characters that fall into a pair for good, the characters that stand for others, and
the combining classes, by which the marks behind a letter are ordered.
-/

namespace RecordForge.Text

/-- The characters that compose, each with the two that it is made of, as code points. -/
def composedCodes : List (Nat × Nat × Nat) := [
  (0xc0, 0x41, 0x300), (0xc1, 0x41, 0x301), (0xc2, 0x41, 0x302), (0xc3, 0x41, 0x303),
  (0xc4, 0x41, 0x308), (0xc5, 0x41, 0x30a), (0xc7, 0x43, 0x327), (0xc8, 0x45, 0x300),
  (0xc9, 0x45, 0x301), (0xca, 0x45, 0x302), (0xcb, 0x45, 0x308), (0xcc, 0x49, 0x300),
  (0xcd, 0x49, 0x301), (0xce, 0x49, 0x302), (0xcf, 0x49, 0x308), (0xd1, 0x4e, 0x303),
  (0xd2, 0x4f, 0x300), (0xd3, 0x4f, 0x301), (0xd4, 0x4f, 0x302), (0xd5, 0x4f, 0x303),
  (0xd6, 0x4f, 0x308), (0xd9, 0x55, 0x300), (0xda, 0x55, 0x301), (0xdb, 0x55, 0x302),
  (0xdc, 0x55, 0x308), (0xdd, 0x59, 0x301), (0xe0, 0x61, 0x300), (0xe1, 0x61, 0x301),
  (0xe2, 0x61, 0x302), (0xe3, 0x61, 0x303), (0xe4, 0x61, 0x308), (0xe5, 0x61, 0x30a),
  (0xe7, 0x63, 0x327), (0xe8, 0x65, 0x300), (0xe9, 0x65, 0x301), (0xea, 0x65, 0x302),
  (0xeb, 0x65, 0x308), (0xec, 0x69, 0x300), (0xed, 0x69, 0x301), (0xee, 0x69, 0x302),
  (0xef, 0x69, 0x308), (0xf1, 0x6e, 0x303), (0xf2, 0x6f, 0x300), (0xf3, 0x6f, 0x301),
  (0xf4, 0x6f, 0x302), (0xf5, 0x6f, 0x303), (0xf6, 0x6f, 0x308), (0xf9, 0x75, 0x300),
  (0xfa, 0x75, 0x301), (0xfb, 0x75, 0x302), (0xfc, 0x75, 0x308), (0xfd, 0x79, 0x301),
  (0xff, 0x79, 0x308), (0x100, 0x41, 0x304), (0x101, 0x61, 0x304), (0x102, 0x41, 0x306),
  (0x103, 0x61, 0x306), (0x104, 0x41, 0x328), (0x105, 0x61, 0x328), (0x106, 0x43, 0x301),
  (0x107, 0x63, 0x301), (0x108, 0x43, 0x302), (0x109, 0x63, 0x302), (0x10a, 0x43, 0x307),
  (0x10b, 0x63, 0x307), (0x10c, 0x43, 0x30c), (0x10d, 0x63, 0x30c), (0x10e, 0x44, 0x30c),
  (0x10f, 0x64, 0x30c), (0x112, 0x45, 0x304), (0x113, 0x65, 0x304), (0x114, 0x45, 0x306),
  (0x115, 0x65, 0x306), (0x116, 0x45, 0x307), (0x117, 0x65, 0x307), (0x118, 0x45, 0x328),
  (0x119, 0x65, 0x328), (0x11a, 0x45, 0x30c), (0x11b, 0x65, 0x30c), (0x11c, 0x47, 0x302),
  (0x11d, 0x67, 0x302), (0x11e, 0x47, 0x306), (0x11f, 0x67, 0x306), (0x120, 0x47, 0x307),
  (0x121, 0x67, 0x307), (0x122, 0x47, 0x327), (0x123, 0x67, 0x327), (0x124, 0x48, 0x302),
  (0x125, 0x68, 0x302), (0x128, 0x49, 0x303), (0x129, 0x69, 0x303), (0x12a, 0x49, 0x304),
  (0x12b, 0x69, 0x304), (0x12c, 0x49, 0x306), (0x12d, 0x69, 0x306), (0x12e, 0x49, 0x328),
  (0x12f, 0x69, 0x328), (0x130, 0x49, 0x307), (0x134, 0x4a, 0x302), (0x135, 0x6a, 0x302),
  (0x136, 0x4b, 0x327), (0x137, 0x6b, 0x327), (0x139, 0x4c, 0x301), (0x13a, 0x6c, 0x301),
  (0x13b, 0x4c, 0x327), (0x13c, 0x6c, 0x327), (0x13d, 0x4c, 0x30c), (0x13e, 0x6c, 0x30c),
  (0x143, 0x4e, 0x301), (0x144, 0x6e, 0x301), (0x145, 0x4e, 0x327), (0x146, 0x6e, 0x327),
  (0x147, 0x4e, 0x30c), (0x148, 0x6e, 0x30c), (0x14c, 0x4f, 0x304), (0x14d, 0x6f, 0x304),
  (0x14e, 0x4f, 0x306), (0x14f, 0x6f, 0x306), (0x150, 0x4f, 0x30b), (0x151, 0x6f, 0x30b),
  (0x154, 0x52, 0x301), (0x155, 0x72, 0x301), (0x156, 0x52, 0x327), (0x157, 0x72, 0x327),
  (0x158, 0x52, 0x30c), (0x159, 0x72, 0x30c), (0x15a, 0x53, 0x301), (0x15b, 0x73, 0x301),
  (0x15c, 0x53, 0x302), (0x15d, 0x73, 0x302), (0x15e, 0x53, 0x327), (0x15f, 0x73, 0x327),
  (0x160, 0x53, 0x30c), (0x161, 0x73, 0x30c), (0x162, 0x54, 0x327), (0x163, 0x74, 0x327),
  (0x164, 0x54, 0x30c), (0x165, 0x74, 0x30c), (0x168, 0x55, 0x303), (0x169, 0x75, 0x303),
  (0x16a, 0x55, 0x304), (0x16b, 0x75, 0x304), (0x16c, 0x55, 0x306), (0x16d, 0x75, 0x306),
  (0x16e, 0x55, 0x30a), (0x16f, 0x75, 0x30a), (0x170, 0x55, 0x30b), (0x171, 0x75, 0x30b),
  (0x172, 0x55, 0x328), (0x173, 0x75, 0x328), (0x174, 0x57, 0x302), (0x175, 0x77, 0x302),
  (0x176, 0x59, 0x302), (0x177, 0x79, 0x302), (0x178, 0x59, 0x308), (0x179, 0x5a, 0x301),
  (0x17a, 0x7a, 0x301), (0x17b, 0x5a, 0x307), (0x17c, 0x7a, 0x307), (0x17d, 0x5a, 0x30c),
  (0x17e, 0x7a, 0x30c), (0x1a0, 0x4f, 0x31b), (0x1a1, 0x6f, 0x31b), (0x1af, 0x55, 0x31b),
  (0x1b0, 0x75, 0x31b), (0x1cd, 0x41, 0x30c), (0x1ce, 0x61, 0x30c), (0x1cf, 0x49, 0x30c),
  (0x1d0, 0x69, 0x30c), (0x1d1, 0x4f, 0x30c), (0x1d2, 0x6f, 0x30c), (0x1d3, 0x55, 0x30c),
  (0x1d4, 0x75, 0x30c), (0x1d5, 0xdc, 0x304), (0x1d6, 0xfc, 0x304), (0x1d7, 0xdc, 0x301),
  (0x1d8, 0xfc, 0x301), (0x1d9, 0xdc, 0x30c), (0x1da, 0xfc, 0x30c), (0x1db, 0xdc, 0x300),
  (0x1dc, 0xfc, 0x300), (0x1de, 0xc4, 0x304), (0x1df, 0xe4, 0x304), (0x1e0, 0x226, 0x304),
  (0x1e1, 0x227, 0x304), (0x1e2, 0xc6, 0x304), (0x1e3, 0xe6, 0x304), (0x1e6, 0x47, 0x30c),
  (0x1e7, 0x67, 0x30c), (0x1e8, 0x4b, 0x30c), (0x1e9, 0x6b, 0x30c), (0x1ea, 0x4f, 0x328),
  (0x1eb, 0x6f, 0x328), (0x1ec, 0x1ea, 0x304), (0x1ed, 0x1eb, 0x304), (0x1ee, 0x1b7, 0x30c),
  (0x1ef, 0x292, 0x30c), (0x1f0, 0x6a, 0x30c), (0x1f4, 0x47, 0x301), (0x1f5, 0x67, 0x301),
  (0x1f8, 0x4e, 0x300), (0x1f9, 0x6e, 0x300), (0x1fa, 0xc5, 0x301), (0x1fb, 0xe5, 0x301),
  (0x1fc, 0xc6, 0x301), (0x1fd, 0xe6, 0x301), (0x1fe, 0xd8, 0x301), (0x1ff, 0xf8, 0x301),
  (0x200, 0x41, 0x30f), (0x201, 0x61, 0x30f), (0x202, 0x41, 0x311), (0x203, 0x61, 0x311),
  (0x204, 0x45, 0x30f), (0x205, 0x65, 0x30f), (0x206, 0x45, 0x311), (0x207, 0x65, 0x311),
  (0x208, 0x49, 0x30f), (0x209, 0x69, 0x30f), (0x20a, 0x49, 0x311), (0x20b, 0x69, 0x311),
  (0x20c, 0x4f, 0x30f), (0x20d, 0x6f, 0x30f), (0x20e, 0x4f, 0x311), (0x20f, 0x6f, 0x311),
  (0x210, 0x52, 0x30f), (0x211, 0x72, 0x30f), (0x212, 0x52, 0x311), (0x213, 0x72, 0x311),
  (0x214, 0x55, 0x30f), (0x215, 0x75, 0x30f), (0x216, 0x55, 0x311), (0x217, 0x75, 0x311),
  (0x218, 0x53, 0x326), (0x219, 0x73, 0x326), (0x21a, 0x54, 0x326), (0x21b, 0x74, 0x326),
  (0x21e, 0x48, 0x30c), (0x21f, 0x68, 0x30c), (0x226, 0x41, 0x307), (0x227, 0x61, 0x307),
  (0x228, 0x45, 0x327), (0x229, 0x65, 0x327), (0x22a, 0xd6, 0x304), (0x22b, 0xf6, 0x304),
  (0x22c, 0xd5, 0x304), (0x22d, 0xf5, 0x304), (0x22e, 0x4f, 0x307), (0x22f, 0x6f, 0x307),
  (0x230, 0x22e, 0x304), (0x231, 0x22f, 0x304), (0x232, 0x59, 0x304), (0x233, 0x79, 0x304),
  (0x386, 0x391, 0x301), (0x388, 0x395, 0x301), (0x389, 0x397, 0x301), (0x38a, 0x399, 0x301),
  (0x38c, 0x39f, 0x301), (0x38e, 0x3a5, 0x301), (0x38f, 0x3a9, 0x301), (0x390, 0x3ca, 0x301),
  (0x3aa, 0x399, 0x308), (0x3ab, 0x3a5, 0x308), (0x3ac, 0x3b1, 0x301), (0x3ad, 0x3b5, 0x301),
  (0x3ae, 0x3b7, 0x301), (0x3af, 0x3b9, 0x301), (0x3b0, 0x3cb, 0x301), (0x3ca, 0x3b9, 0x308),
  (0x3cb, 0x3c5, 0x308), (0x3cc, 0x3bf, 0x301), (0x3cd, 0x3c5, 0x301), (0x3ce, 0x3c9, 0x301),
  (0x3d3, 0x3d2, 0x301), (0x3d4, 0x3d2, 0x308), (0x400, 0x415, 0x300), (0x401, 0x415, 0x308),
  (0x403, 0x413, 0x301), (0x407, 0x406, 0x308), (0x40c, 0x41a, 0x301), (0x40d, 0x418, 0x300),
  (0x40e, 0x423, 0x306), (0x419, 0x418, 0x306), (0x439, 0x438, 0x306), (0x450, 0x435, 0x300),
  (0x451, 0x435, 0x308), (0x453, 0x433, 0x301), (0x457, 0x456, 0x308), (0x45c, 0x43a, 0x301),
  (0x45d, 0x438, 0x300), (0x45e, 0x443, 0x306), (0x476, 0x474, 0x30f), (0x477, 0x475, 0x30f),
  (0x4c1, 0x416, 0x306), (0x4c2, 0x436, 0x306), (0x4d0, 0x410, 0x306), (0x4d1, 0x430, 0x306),
  (0x4d2, 0x410, 0x308), (0x4d3, 0x430, 0x308), (0x4d6, 0x415, 0x306), (0x4d7, 0x435, 0x306),
  (0x4da, 0x4d8, 0x308), (0x4db, 0x4d9, 0x308), (0x4dc, 0x416, 0x308), (0x4dd, 0x436, 0x308),
  (0x4de, 0x417, 0x308), (0x4df, 0x437, 0x308), (0x4e2, 0x418, 0x304), (0x4e3, 0x438, 0x304),
  (0x4e4, 0x418, 0x308), (0x4e5, 0x438, 0x308), (0x4e6, 0x41e, 0x308), (0x4e7, 0x43e, 0x308),
  (0x4ea, 0x4e8, 0x308), (0x4eb, 0x4e9, 0x308), (0x4ec, 0x42d, 0x308), (0x4ed, 0x44d, 0x308),
  (0x4ee, 0x423, 0x304), (0x4ef, 0x443, 0x304), (0x4f0, 0x423, 0x308), (0x4f1, 0x443, 0x308),
  (0x4f2, 0x423, 0x30b), (0x4f3, 0x443, 0x30b), (0x4f4, 0x427, 0x308), (0x4f5, 0x447, 0x308),
  (0x4f8, 0x42b, 0x308), (0x4f9, 0x44b, 0x308), (0x622, 0x627, 0x653), (0x623, 0x627, 0x654),
  (0x624, 0x648, 0x654), (0x625, 0x627, 0x655), (0x626, 0x64a, 0x654), (0x6c0, 0x6d5, 0x654),
  (0x6c2, 0x6c1, 0x654), (0x6d3, 0x6d2, 0x654), (0x929, 0x928, 0x93c), (0x931, 0x930, 0x93c),
  (0x934, 0x933, 0x93c), (0x9cb, 0x9c7, 0x9be), (0x9cc, 0x9c7, 0x9d7), (0xb48, 0xb47, 0xb56),
  (0xb4b, 0xb47, 0xb3e), (0xb4c, 0xb47, 0xb57), (0xb94, 0xb92, 0xbd7), (0xbca, 0xbc6, 0xbbe),
  (0xbcb, 0xbc7, 0xbbe), (0xbcc, 0xbc6, 0xbd7), (0xc48, 0xc46, 0xc56), (0xcc0, 0xcbf, 0xcd5),
  (0xcc7, 0xcc6, 0xcd5), (0xcc8, 0xcc6, 0xcd6), (0xcca, 0xcc6, 0xcc2), (0xccb, 0xcca, 0xcd5),
  (0xd4a, 0xd46, 0xd3e), (0xd4b, 0xd47, 0xd3e), (0xd4c, 0xd46, 0xd57), (0xdda, 0xdd9, 0xdca),
  (0xddc, 0xdd9, 0xdcf), (0xddd, 0xddc, 0xdca), (0xdde, 0xdd9, 0xddf), (0x1026, 0x1025, 0x102e),
  (0x1b06, 0x1b05, 0x1b35), (0x1b08, 0x1b07, 0x1b35), (0x1b0a, 0x1b09, 0x1b35),
  (0x1b0c, 0x1b0b, 0x1b35), (0x1b0e, 0x1b0d, 0x1b35), (0x1b12, 0x1b11, 0x1b35),
  (0x1b3b, 0x1b3a, 0x1b35), (0x1b3d, 0x1b3c, 0x1b35), (0x1b40, 0x1b3e, 0x1b35),
  (0x1b41, 0x1b3f, 0x1b35), (0x1b43, 0x1b42, 0x1b35), (0x1e00, 0x41, 0x325), (0x1e01, 0x61, 0x325),
  (0x1e02, 0x42, 0x307), (0x1e03, 0x62, 0x307), (0x1e04, 0x42, 0x323), (0x1e05, 0x62, 0x323),
  (0x1e06, 0x42, 0x331), (0x1e07, 0x62, 0x331), (0x1e08, 0xc7, 0x301), (0x1e09, 0xe7, 0x301),
  (0x1e0a, 0x44, 0x307), (0x1e0b, 0x64, 0x307), (0x1e0c, 0x44, 0x323), (0x1e0d, 0x64, 0x323),
  (0x1e0e, 0x44, 0x331), (0x1e0f, 0x64, 0x331), (0x1e10, 0x44, 0x327), (0x1e11, 0x64, 0x327),
  (0x1e12, 0x44, 0x32d), (0x1e13, 0x64, 0x32d), (0x1e14, 0x112, 0x300), (0x1e15, 0x113, 0x300),
  (0x1e16, 0x112, 0x301), (0x1e17, 0x113, 0x301), (0x1e18, 0x45, 0x32d), (0x1e19, 0x65, 0x32d),
  (0x1e1a, 0x45, 0x330), (0x1e1b, 0x65, 0x330), (0x1e1c, 0x228, 0x306), (0x1e1d, 0x229, 0x306),
  (0x1e1e, 0x46, 0x307), (0x1e1f, 0x66, 0x307), (0x1e20, 0x47, 0x304), (0x1e21, 0x67, 0x304),
  (0x1e22, 0x48, 0x307), (0x1e23, 0x68, 0x307), (0x1e24, 0x48, 0x323), (0x1e25, 0x68, 0x323),
  (0x1e26, 0x48, 0x308), (0x1e27, 0x68, 0x308), (0x1e28, 0x48, 0x327), (0x1e29, 0x68, 0x327),
  (0x1e2a, 0x48, 0x32e), (0x1e2b, 0x68, 0x32e), (0x1e2c, 0x49, 0x330), (0x1e2d, 0x69, 0x330),
  (0x1e2e, 0xcf, 0x301), (0x1e2f, 0xef, 0x301), (0x1e30, 0x4b, 0x301), (0x1e31, 0x6b, 0x301),
  (0x1e32, 0x4b, 0x323), (0x1e33, 0x6b, 0x323), (0x1e34, 0x4b, 0x331), (0x1e35, 0x6b, 0x331),
  (0x1e36, 0x4c, 0x323), (0x1e37, 0x6c, 0x323), (0x1e38, 0x1e36, 0x304), (0x1e39, 0x1e37, 0x304),
  (0x1e3a, 0x4c, 0x331), (0x1e3b, 0x6c, 0x331), (0x1e3c, 0x4c, 0x32d), (0x1e3d, 0x6c, 0x32d),
  (0x1e3e, 0x4d, 0x301), (0x1e3f, 0x6d, 0x301), (0x1e40, 0x4d, 0x307), (0x1e41, 0x6d, 0x307),
  (0x1e42, 0x4d, 0x323), (0x1e43, 0x6d, 0x323), (0x1e44, 0x4e, 0x307), (0x1e45, 0x6e, 0x307),
  (0x1e46, 0x4e, 0x323), (0x1e47, 0x6e, 0x323), (0x1e48, 0x4e, 0x331), (0x1e49, 0x6e, 0x331),
  (0x1e4a, 0x4e, 0x32d), (0x1e4b, 0x6e, 0x32d), (0x1e4c, 0xd5, 0x301), (0x1e4d, 0xf5, 0x301),
  (0x1e4e, 0xd5, 0x308), (0x1e4f, 0xf5, 0x308), (0x1e50, 0x14c, 0x300), (0x1e51, 0x14d, 0x300),
  (0x1e52, 0x14c, 0x301), (0x1e53, 0x14d, 0x301), (0x1e54, 0x50, 0x301), (0x1e55, 0x70, 0x301),
  (0x1e56, 0x50, 0x307), (0x1e57, 0x70, 0x307), (0x1e58, 0x52, 0x307), (0x1e59, 0x72, 0x307),
  (0x1e5a, 0x52, 0x323), (0x1e5b, 0x72, 0x323), (0x1e5c, 0x1e5a, 0x304), (0x1e5d, 0x1e5b, 0x304),
  (0x1e5e, 0x52, 0x331), (0x1e5f, 0x72, 0x331), (0x1e60, 0x53, 0x307), (0x1e61, 0x73, 0x307),
  (0x1e62, 0x53, 0x323), (0x1e63, 0x73, 0x323), (0x1e64, 0x15a, 0x307), (0x1e65, 0x15b, 0x307),
  (0x1e66, 0x160, 0x307), (0x1e67, 0x161, 0x307), (0x1e68, 0x1e62, 0x307), (0x1e69, 0x1e63, 0x307),
  (0x1e6a, 0x54, 0x307), (0x1e6b, 0x74, 0x307), (0x1e6c, 0x54, 0x323), (0x1e6d, 0x74, 0x323),
  (0x1e6e, 0x54, 0x331), (0x1e6f, 0x74, 0x331), (0x1e70, 0x54, 0x32d), (0x1e71, 0x74, 0x32d),
  (0x1e72, 0x55, 0x324), (0x1e73, 0x75, 0x324), (0x1e74, 0x55, 0x330), (0x1e75, 0x75, 0x330),
  (0x1e76, 0x55, 0x32d), (0x1e77, 0x75, 0x32d), (0x1e78, 0x168, 0x301), (0x1e79, 0x169, 0x301),
  (0x1e7a, 0x16a, 0x308), (0x1e7b, 0x16b, 0x308), (0x1e7c, 0x56, 0x303), (0x1e7d, 0x76, 0x303),
  (0x1e7e, 0x56, 0x323), (0x1e7f, 0x76, 0x323), (0x1e80, 0x57, 0x300), (0x1e81, 0x77, 0x300),
  (0x1e82, 0x57, 0x301), (0x1e83, 0x77, 0x301), (0x1e84, 0x57, 0x308), (0x1e85, 0x77, 0x308),
  (0x1e86, 0x57, 0x307), (0x1e87, 0x77, 0x307), (0x1e88, 0x57, 0x323), (0x1e89, 0x77, 0x323),
  (0x1e8a, 0x58, 0x307), (0x1e8b, 0x78, 0x307), (0x1e8c, 0x58, 0x308), (0x1e8d, 0x78, 0x308),
  (0x1e8e, 0x59, 0x307), (0x1e8f, 0x79, 0x307), (0x1e90, 0x5a, 0x302), (0x1e91, 0x7a, 0x302),
  (0x1e92, 0x5a, 0x323), (0x1e93, 0x7a, 0x323), (0x1e94, 0x5a, 0x331), (0x1e95, 0x7a, 0x331),
  (0x1e96, 0x68, 0x331), (0x1e97, 0x74, 0x308), (0x1e98, 0x77, 0x30a), (0x1e99, 0x79, 0x30a),
  (0x1e9b, 0x17f, 0x307), (0x1ea0, 0x41, 0x323), (0x1ea1, 0x61, 0x323), (0x1ea2, 0x41, 0x309),
  (0x1ea3, 0x61, 0x309), (0x1ea4, 0xc2, 0x301), (0x1ea5, 0xe2, 0x301), (0x1ea6, 0xc2, 0x300),
  (0x1ea7, 0xe2, 0x300), (0x1ea8, 0xc2, 0x309), (0x1ea9, 0xe2, 0x309), (0x1eaa, 0xc2, 0x303),
  (0x1eab, 0xe2, 0x303), (0x1eac, 0x1ea0, 0x302), (0x1ead, 0x1ea1, 0x302), (0x1eae, 0x102, 0x301),
  (0x1eaf, 0x103, 0x301), (0x1eb0, 0x102, 0x300), (0x1eb1, 0x103, 0x300), (0x1eb2, 0x102, 0x309),
  (0x1eb3, 0x103, 0x309), (0x1eb4, 0x102, 0x303), (0x1eb5, 0x103, 0x303), (0x1eb6, 0x1ea0, 0x306),
  (0x1eb7, 0x1ea1, 0x306), (0x1eb8, 0x45, 0x323), (0x1eb9, 0x65, 0x323), (0x1eba, 0x45, 0x309),
  (0x1ebb, 0x65, 0x309), (0x1ebc, 0x45, 0x303), (0x1ebd, 0x65, 0x303), (0x1ebe, 0xca, 0x301),
  (0x1ebf, 0xea, 0x301), (0x1ec0, 0xca, 0x300), (0x1ec1, 0xea, 0x300), (0x1ec2, 0xca, 0x309),
  (0x1ec3, 0xea, 0x309), (0x1ec4, 0xca, 0x303), (0x1ec5, 0xea, 0x303), (0x1ec6, 0x1eb8, 0x302),
  (0x1ec7, 0x1eb9, 0x302), (0x1ec8, 0x49, 0x309), (0x1ec9, 0x69, 0x309), (0x1eca, 0x49, 0x323),
  (0x1ecb, 0x69, 0x323), (0x1ecc, 0x4f, 0x323), (0x1ecd, 0x6f, 0x323), (0x1ece, 0x4f, 0x309),
  (0x1ecf, 0x6f, 0x309), (0x1ed0, 0xd4, 0x301), (0x1ed1, 0xf4, 0x301), (0x1ed2, 0xd4, 0x300),
  (0x1ed3, 0xf4, 0x300), (0x1ed4, 0xd4, 0x309), (0x1ed5, 0xf4, 0x309), (0x1ed6, 0xd4, 0x303),
  (0x1ed7, 0xf4, 0x303), (0x1ed8, 0x1ecc, 0x302), (0x1ed9, 0x1ecd, 0x302), (0x1eda, 0x1a0, 0x301),
  (0x1edb, 0x1a1, 0x301), (0x1edc, 0x1a0, 0x300), (0x1edd, 0x1a1, 0x300), (0x1ede, 0x1a0, 0x309),
  (0x1edf, 0x1a1, 0x309), (0x1ee0, 0x1a0, 0x303), (0x1ee1, 0x1a1, 0x303), (0x1ee2, 0x1a0, 0x323),
  (0x1ee3, 0x1a1, 0x323), (0x1ee4, 0x55, 0x323), (0x1ee5, 0x75, 0x323), (0x1ee6, 0x55, 0x309),
  (0x1ee7, 0x75, 0x309), (0x1ee8, 0x1af, 0x301), (0x1ee9, 0x1b0, 0x301), (0x1eea, 0x1af, 0x300),
  (0x1eeb, 0x1b0, 0x300), (0x1eec, 0x1af, 0x309), (0x1eed, 0x1b0, 0x309), (0x1eee, 0x1af, 0x303),
  (0x1eef, 0x1b0, 0x303), (0x1ef0, 0x1af, 0x323), (0x1ef1, 0x1b0, 0x323), (0x1ef2, 0x59, 0x300),
  (0x1ef3, 0x79, 0x300), (0x1ef4, 0x59, 0x323), (0x1ef5, 0x79, 0x323), (0x1ef6, 0x59, 0x309),
  (0x1ef7, 0x79, 0x309), (0x1ef8, 0x59, 0x303), (0x1ef9, 0x79, 0x303), (0x1f00, 0x3b1, 0x313),
  (0x1f01, 0x3b1, 0x314), (0x1f02, 0x1f00, 0x300), (0x1f03, 0x1f01, 0x300), (0x1f04, 0x1f00, 0x301),
  (0x1f05, 0x1f01, 0x301), (0x1f06, 0x1f00, 0x342), (0x1f07, 0x1f01, 0x342), (0x1f08, 0x391, 0x313),
  (0x1f09, 0x391, 0x314), (0x1f0a, 0x1f08, 0x300), (0x1f0b, 0x1f09, 0x300), (0x1f0c, 0x1f08, 0x301),
  (0x1f0d, 0x1f09, 0x301), (0x1f0e, 0x1f08, 0x342), (0x1f0f, 0x1f09, 0x342), (0x1f10, 0x3b5, 0x313),
  (0x1f11, 0x3b5, 0x314), (0x1f12, 0x1f10, 0x300), (0x1f13, 0x1f11, 0x300), (0x1f14, 0x1f10, 0x301),
  (0x1f15, 0x1f11, 0x301), (0x1f18, 0x395, 0x313), (0x1f19, 0x395, 0x314), (0x1f1a, 0x1f18, 0x300),
  (0x1f1b, 0x1f19, 0x300), (0x1f1c, 0x1f18, 0x301), (0x1f1d, 0x1f19, 0x301), (0x1f20, 0x3b7, 0x313),
  (0x1f21, 0x3b7, 0x314), (0x1f22, 0x1f20, 0x300), (0x1f23, 0x1f21, 0x300), (0x1f24, 0x1f20, 0x301),
  (0x1f25, 0x1f21, 0x301), (0x1f26, 0x1f20, 0x342), (0x1f27, 0x1f21, 0x342), (0x1f28, 0x397, 0x313),
  (0x1f29, 0x397, 0x314), (0x1f2a, 0x1f28, 0x300), (0x1f2b, 0x1f29, 0x300), (0x1f2c, 0x1f28, 0x301),
  (0x1f2d, 0x1f29, 0x301), (0x1f2e, 0x1f28, 0x342), (0x1f2f, 0x1f29, 0x342), (0x1f30, 0x3b9, 0x313),
  (0x1f31, 0x3b9, 0x314), (0x1f32, 0x1f30, 0x300), (0x1f33, 0x1f31, 0x300), (0x1f34, 0x1f30, 0x301),
  (0x1f35, 0x1f31, 0x301), (0x1f36, 0x1f30, 0x342), (0x1f37, 0x1f31, 0x342), (0x1f38, 0x399, 0x313),
  (0x1f39, 0x399, 0x314), (0x1f3a, 0x1f38, 0x300), (0x1f3b, 0x1f39, 0x300), (0x1f3c, 0x1f38, 0x301),
  (0x1f3d, 0x1f39, 0x301), (0x1f3e, 0x1f38, 0x342), (0x1f3f, 0x1f39, 0x342), (0x1f40, 0x3bf, 0x313),
  (0x1f41, 0x3bf, 0x314), (0x1f42, 0x1f40, 0x300), (0x1f43, 0x1f41, 0x300), (0x1f44, 0x1f40, 0x301),
  (0x1f45, 0x1f41, 0x301), (0x1f48, 0x39f, 0x313), (0x1f49, 0x39f, 0x314), (0x1f4a, 0x1f48, 0x300),
  (0x1f4b, 0x1f49, 0x300), (0x1f4c, 0x1f48, 0x301), (0x1f4d, 0x1f49, 0x301), (0x1f50, 0x3c5, 0x313),
  (0x1f51, 0x3c5, 0x314), (0x1f52, 0x1f50, 0x300), (0x1f53, 0x1f51, 0x300), (0x1f54, 0x1f50, 0x301),
  (0x1f55, 0x1f51, 0x301), (0x1f56, 0x1f50, 0x342), (0x1f57, 0x1f51, 0x342), (0x1f59, 0x3a5, 0x314),
  (0x1f5b, 0x1f59, 0x300), (0x1f5d, 0x1f59, 0x301), (0x1f5f, 0x1f59, 0x342), (0x1f60, 0x3c9, 0x313),
  (0x1f61, 0x3c9, 0x314), (0x1f62, 0x1f60, 0x300), (0x1f63, 0x1f61, 0x300), (0x1f64, 0x1f60, 0x301),
  (0x1f65, 0x1f61, 0x301), (0x1f66, 0x1f60, 0x342), (0x1f67, 0x1f61, 0x342), (0x1f68, 0x3a9, 0x313),
  (0x1f69, 0x3a9, 0x314), (0x1f6a, 0x1f68, 0x300), (0x1f6b, 0x1f69, 0x300), (0x1f6c, 0x1f68, 0x301),
  (0x1f6d, 0x1f69, 0x301), (0x1f6e, 0x1f68, 0x342), (0x1f6f, 0x1f69, 0x342), (0x1f70, 0x3b1, 0x300),
  (0x1f72, 0x3b5, 0x300), (0x1f74, 0x3b7, 0x300), (0x1f76, 0x3b9, 0x300), (0x1f78, 0x3bf, 0x300),
  (0x1f7a, 0x3c5, 0x300), (0x1f7c, 0x3c9, 0x300), (0x1f80, 0x1f00, 0x345), (0x1f81, 0x1f01, 0x345),
  (0x1f82, 0x1f02, 0x345), (0x1f83, 0x1f03, 0x345), (0x1f84, 0x1f04, 0x345),
  (0x1f85, 0x1f05, 0x345), (0x1f86, 0x1f06, 0x345), (0x1f87, 0x1f07, 0x345),
  (0x1f88, 0x1f08, 0x345), (0x1f89, 0x1f09, 0x345), (0x1f8a, 0x1f0a, 0x345),
  (0x1f8b, 0x1f0b, 0x345), (0x1f8c, 0x1f0c, 0x345), (0x1f8d, 0x1f0d, 0x345),
  (0x1f8e, 0x1f0e, 0x345), (0x1f8f, 0x1f0f, 0x345), (0x1f90, 0x1f20, 0x345),
  (0x1f91, 0x1f21, 0x345), (0x1f92, 0x1f22, 0x345), (0x1f93, 0x1f23, 0x345),
  (0x1f94, 0x1f24, 0x345), (0x1f95, 0x1f25, 0x345), (0x1f96, 0x1f26, 0x345),
  (0x1f97, 0x1f27, 0x345), (0x1f98, 0x1f28, 0x345), (0x1f99, 0x1f29, 0x345),
  (0x1f9a, 0x1f2a, 0x345), (0x1f9b, 0x1f2b, 0x345), (0x1f9c, 0x1f2c, 0x345),
  (0x1f9d, 0x1f2d, 0x345), (0x1f9e, 0x1f2e, 0x345), (0x1f9f, 0x1f2f, 0x345),
  (0x1fa0, 0x1f60, 0x345), (0x1fa1, 0x1f61, 0x345), (0x1fa2, 0x1f62, 0x345),
  (0x1fa3, 0x1f63, 0x345), (0x1fa4, 0x1f64, 0x345), (0x1fa5, 0x1f65, 0x345),
  (0x1fa6, 0x1f66, 0x345), (0x1fa7, 0x1f67, 0x345), (0x1fa8, 0x1f68, 0x345),
  (0x1fa9, 0x1f69, 0x345), (0x1faa, 0x1f6a, 0x345), (0x1fab, 0x1f6b, 0x345),
  (0x1fac, 0x1f6c, 0x345), (0x1fad, 0x1f6d, 0x345), (0x1fae, 0x1f6e, 0x345),
  (0x1faf, 0x1f6f, 0x345), (0x1fb0, 0x3b1, 0x306), (0x1fb1, 0x3b1, 0x304), (0x1fb2, 0x1f70, 0x345),
  (0x1fb3, 0x3b1, 0x345), (0x1fb4, 0x3ac, 0x345), (0x1fb6, 0x3b1, 0x342), (0x1fb7, 0x1fb6, 0x345),
  (0x1fb8, 0x391, 0x306), (0x1fb9, 0x391, 0x304), (0x1fba, 0x391, 0x300), (0x1fbc, 0x391, 0x345),
  (0x1fc2, 0x1f74, 0x345), (0x1fc3, 0x3b7, 0x345), (0x1fc4, 0x3ae, 0x345), (0x1fc6, 0x3b7, 0x342),
  (0x1fc7, 0x1fc6, 0x345), (0x1fc8, 0x395, 0x300), (0x1fca, 0x397, 0x300), (0x1fcc, 0x397, 0x345),
  (0x1fd0, 0x3b9, 0x306), (0x1fd1, 0x3b9, 0x304), (0x1fd2, 0x3ca, 0x300), (0x1fd6, 0x3b9, 0x342),
  (0x1fd7, 0x3ca, 0x342), (0x1fd8, 0x399, 0x306), (0x1fd9, 0x399, 0x304), (0x1fda, 0x399, 0x300),
  (0x1fe0, 0x3c5, 0x306), (0x1fe1, 0x3c5, 0x304), (0x1fe2, 0x3cb, 0x300), (0x1fe4, 0x3c1, 0x313),
  (0x1fe5, 0x3c1, 0x314), (0x1fe6, 0x3c5, 0x342), (0x1fe7, 0x3cb, 0x342), (0x1fe8, 0x3a5, 0x306),
  (0x1fe9, 0x3a5, 0x304), (0x1fea, 0x3a5, 0x300), (0x1fec, 0x3a1, 0x314), (0x1ff2, 0x1f7c, 0x345),
  (0x1ff3, 0x3c9, 0x345), (0x1ff4, 0x3ce, 0x345), (0x1ff6, 0x3c9, 0x342), (0x1ff7, 0x1ff6, 0x345),
  (0x1ff8, 0x39f, 0x300), (0x1ffa, 0x3a9, 0x300), (0x1ffc, 0x3a9, 0x345), (0x304c, 0x304b, 0x3099),
  (0x304e, 0x304d, 0x3099), (0x3050, 0x304f, 0x3099), (0x3052, 0x3051, 0x3099),
  (0x3054, 0x3053, 0x3099), (0x3056, 0x3055, 0x3099), (0x3058, 0x3057, 0x3099),
  (0x305a, 0x3059, 0x3099), (0x305c, 0x305b, 0x3099), (0x305e, 0x305d, 0x3099),
  (0x3060, 0x305f, 0x3099), (0x3062, 0x3061, 0x3099), (0x3065, 0x3064, 0x3099),
  (0x3067, 0x3066, 0x3099), (0x3069, 0x3068, 0x3099), (0x3070, 0x306f, 0x3099),
  (0x3071, 0x306f, 0x309a), (0x3073, 0x3072, 0x3099), (0x3074, 0x3072, 0x309a),
  (0x3076, 0x3075, 0x3099), (0x3077, 0x3075, 0x309a), (0x3079, 0x3078, 0x3099),
  (0x307a, 0x3078, 0x309a), (0x307c, 0x307b, 0x3099), (0x307d, 0x307b, 0x309a),
  (0x3094, 0x3046, 0x3099), (0x309e, 0x309d, 0x3099), (0x30ac, 0x30ab, 0x3099),
  (0x30ae, 0x30ad, 0x3099), (0x30b0, 0x30af, 0x3099), (0x30b2, 0x30b1, 0x3099),
  (0x30b4, 0x30b3, 0x3099), (0x30b6, 0x30b5, 0x3099), (0x30b8, 0x30b7, 0x3099),
  (0x30ba, 0x30b9, 0x3099), (0x30bc, 0x30bb, 0x3099), (0x30be, 0x30bd, 0x3099),
  (0x30c0, 0x30bf, 0x3099), (0x30c2, 0x30c1, 0x3099), (0x30c5, 0x30c4, 0x3099),
  (0x30c7, 0x30c6, 0x3099), (0x30c9, 0x30c8, 0x3099), (0x30d0, 0x30cf, 0x3099),
  (0x30d1, 0x30cf, 0x309a), (0x30d3, 0x30d2, 0x3099), (0x30d4, 0x30d2, 0x309a),
  (0x30d6, 0x30d5, 0x3099), (0x30d7, 0x30d5, 0x309a), (0x30d9, 0x30d8, 0x3099),
  (0x30da, 0x30d8, 0x309a), (0x30dc, 0x30db, 0x3099), (0x30dd, 0x30db, 0x309a),
  (0x30f4, 0x30a6, 0x3099), (0x30f7, 0x30ef, 0x3099), (0x30f8, 0x30f0, 0x3099),
  (0x30f9, 0x30f1, 0x3099), (0x30fa, 0x30f2, 0x3099), (0x30fe, 0x30fd, 0x3099),
  (0x1109a, 0x11099, 0x110ba), (0x1109c, 0x1109b, 0x110ba), (0x110ab, 0x110a5, 0x110ba),
  (0x1112e, 0x11131, 0x11127), (0x1112f, 0x11132, 0x11127), (0x1134b, 0x11347, 0x1133e),
  (0x1134c, 0x11347, 0x11357), (0x114bb, 0x114b9, 0x114ba), (0x114bc, 0x114b9, 0x114b0),
  (0x114be, 0x114b9, 0x114bd), (0x115ba, 0x115b8, 0x115af), (0x115bb, 0x115b9, 0x115af),
  (0x11938, 0x11935, 0x11930)]

/-- The characters that are never composed, each with the two that it falls into, as code points. -/
def dividedCodes : List (Nat × Nat × Nat) := [
  (0x344, 0x308, 0x301), (0x958, 0x915, 0x93c), (0x959, 0x916, 0x93c), (0x95a, 0x917, 0x93c),
  (0x95b, 0x91c, 0x93c), (0x95c, 0x921, 0x93c), (0x95d, 0x922, 0x93c), (0x95e, 0x92b, 0x93c),
  (0x95f, 0x92f, 0x93c), (0x9dc, 0x9a1, 0x9bc), (0x9dd, 0x9a2, 0x9bc), (0x9df, 0x9af, 0x9bc),
  (0xa33, 0xa32, 0xa3c), (0xa36, 0xa38, 0xa3c), (0xa59, 0xa16, 0xa3c), (0xa5a, 0xa17, 0xa3c),
  (0xa5b, 0xa1c, 0xa3c), (0xa5e, 0xa2b, 0xa3c), (0xb5c, 0xb21, 0xb3c), (0xb5d, 0xb22, 0xb3c),
  (0xf43, 0xf42, 0xfb7), (0xf4d, 0xf4c, 0xfb7), (0xf52, 0xf51, 0xfb7), (0xf57, 0xf56, 0xfb7),
  (0xf5c, 0xf5b, 0xfb7), (0xf69, 0xf40, 0xfb5), (0xf73, 0xf71, 0xf72), (0xf75, 0xf71, 0xf74),
  (0xf76, 0xfb2, 0xf80), (0xf78, 0xfb3, 0xf80), (0xf81, 0xf71, 0xf80), (0xf93, 0xf92, 0xfb7),
  (0xf9d, 0xf9c, 0xfb7), (0xfa2, 0xfa1, 0xfb7), (0xfa7, 0xfa6, 0xfb7), (0xfac, 0xfab, 0xfb7),
  (0xfb9, 0xf90, 0xfb5), (0xfb1d, 0x5d9, 0x5b4), (0xfb1f, 0x5f2, 0x5b7), (0xfb2a, 0x5e9, 0x5c1),
  (0xfb2b, 0x5e9, 0x5c2), (0xfb2c, 0xfb49, 0x5c1), (0xfb2d, 0xfb49, 0x5c2), (0xfb2e, 0x5d0, 0x5b7),
  (0xfb2f, 0x5d0, 0x5b8), (0xfb30, 0x5d0, 0x5bc), (0xfb31, 0x5d1, 0x5bc), (0xfb32, 0x5d2, 0x5bc),
  (0xfb33, 0x5d3, 0x5bc), (0xfb34, 0x5d4, 0x5bc), (0xfb35, 0x5d5, 0x5bc), (0xfb36, 0x5d6, 0x5bc),
  (0xfb38, 0x5d8, 0x5bc), (0xfb39, 0x5d9, 0x5bc), (0xfb3a, 0x5da, 0x5bc), (0xfb3b, 0x5db, 0x5bc),
  (0xfb3c, 0x5dc, 0x5bc), (0xfb3e, 0x5de, 0x5bc), (0xfb40, 0x5e0, 0x5bc), (0xfb41, 0x5e1, 0x5bc),
  (0xfb43, 0x5e3, 0x5bc), (0xfb44, 0x5e4, 0x5bc), (0xfb46, 0x5e6, 0x5bc), (0xfb47, 0x5e7, 0x5bc),
  (0xfb48, 0x5e8, 0x5bc), (0xfb49, 0x5e9, 0x5bc), (0xfb4a, 0x5ea, 0x5bc), (0xfb4b, 0x5d5, 0x5b9),
  (0xfb4c, 0x5d1, 0x5bf), (0xfb4d, 0x5db, 0x5bf), (0xfb4e, 0x5e4, 0x5bf)]

/-- The characters that stand for others: the first and the last of a run of neighbours, and what
each of them stands for, with spaces between. -/
def replacedRuns : List (Nat × Nat × List String) := [
  (0xaa, 0xaa, ["a"]), (0xb5, 0xb5, ["\u03bc"]), (0xba, 0xba, ["o"]), (0x132, 0x133, ["IJ ij"]),
  (0x13f, 0x140, ["L\u00b7 l\u00b7"]), (0x149, 0x149, ["\u02bcn"]), (0x17f, 0x17f, ["s"]),
  (0x1c4, 0x1cc, ["D\u017d D\u017e d\u017e LJ Lj lj NJ Nj nj"]), (0x1f1, 0x1f3, ["DZ Dz dz"]),
  (0x2b0, 0x2b8, ["h \u0266 j r \u0279 \u027b \u0281 w y"]),
  (0x2e0, 0x2e4, ["\u0263 l s x \u0295"]), (0x340, 0x341, ["\u0300 \u0301"]),
  (0x343, 0x343, ["\u0313"]), (0x374, 0x374, ["\u02b9"]), (0x387, 0x387, ["\u00b7"]),
  (0x3d0, 0x3d2, ["\u03b2 \u03b8 \u03a5"]), (0x3d5, 0x3d6, ["\u03c6 \u03c0"]),
  (0x3f0, 0x3f2, ["\u03ba \u03c1 \u03c2"]), (0x3f4, 0x3f5, ["\u0398 \u03b5"]),
  (0x3f9, 0x3f9, ["\u03a3"]), (0x587, 0x587, ["\u0565\u0582"]),
  (0x675, 0x678, ["\u0627\u0674 \u0648\u0674 \u06c7\u0674 \u064a\u0674"]),
  (0xe33, 0xe33, ["\u0e4d\u0e32"]), (0xeb3, 0xeb3, ["\u0ecd\u0eb2"]),
  (0xedc, 0xedd, ["\u0eab\u0e99 \u0eab\u0ea1"]), (0xf77, 0xf77, ["\u0fb2\u0f81"]),
  (0xf79, 0xf79, ["\u0fb3\u0f81"]), (0x10fc, 0x10fc, ["\u10dc"]), (0x1d2c, 0x1d2e, ["A \u00c6 B"]),
  (0x1d30, 0x1d3a, ["D E \u018e G H I J K L M N"]),
  (0x1d3c, 0x1d4d, ["O \u0222 P R T U W a \u0250 \u0251 \u1d02 b d e \u0259 \u025b \u025c g"]),
  (0x1d4f, 0x1d6a, [
    "k m \u014b o \u0254 \u1d16 \u1d17 p t u \u1d1d \u026f v \u1d25 \u03b2 \u03b3 \u03b4 \u03c6",
    "\u03c7 i r u v \u03b2 \u03b3 \u03c1 \u03c6 \u03c7"]),
  (0x1d78, 0x1d78, ["\u043d"]),
  (0x1d9b, 0x1dbf, [
    "\u0252 c \u0255 \u00f0 \u025c f \u025f \u0261 \u0265 \u0268 \u0269 \u026a \u1d7b \u029d",
    "\u026d \u1d85 \u029f \u0271 \u0270 \u0272 \u0273 \u0274 \u0275 \u0278 \u0282 \u0283 \u01ab",
    "\u0289 \u028a \u1d1c \u028b \u028c z \u0290 \u0291 \u0292 \u03b8"]),
  (0x1e9a, 0x1e9a, ["a\u02be"]), (0x1f71, 0x1f71, ["\u03ac"]), (0x1f73, 0x1f73, ["\u03ad"]),
  (0x1f75, 0x1f75, ["\u03ae"]), (0x1f77, 0x1f77, ["\u03af"]), (0x1f79, 0x1f79, ["\u03cc"]),
  (0x1f7b, 0x1f7b, ["\u03cd"]), (0x1f7d, 0x1f7d, ["\u03ce"]), (0x1fbb, 0x1fbb, ["\u0386"]),
  (0x1fbe, 0x1fbe, ["\u03b9"]), (0x1fc9, 0x1fc9, ["\u0388"]), (0x1fcb, 0x1fcb, ["\u0389"]),
  (0x1fd3, 0x1fd3, ["\u0390"]), (0x1fdb, 0x1fdb, ["\u038a"]), (0x1fe3, 0x1fe3, ["\u03b0"]),
  (0x1feb, 0x1feb, ["\u038e"]), (0x1ff9, 0x1ff9, ["\u038c"]), (0x1ffb, 0x1ffb, ["\u038f"]),
  (0x2071, 0x2071, ["i"]), (0x207f, 0x207f, ["n"]),
  (0x2090, 0x209c, ["a e o x \u0259 h k l m n p s t"]), (0x2102, 0x2102, ["C"]),
  (0x2107, 0x2107, ["\u0190"]), (0x210a, 0x2113, ["g H H H h \u0127 I I L l"]),
  (0x2115, 0x2115, ["N"]), (0x2119, 0x211d, ["P Q R R R"]), (0x2124, 0x2124, ["Z"]),
  (0x2126, 0x2126, ["\u03a9"]), (0x2128, 0x2128, ["Z"]), (0x212a, 0x212d, ["K \u00c5 B C"]),
  (0x212f, 0x2131, ["e E F"]), (0x2133, 0x2139, ["M o \u05d0 \u05d1 \u05d2 \u05d3 i"]),
  (0x213c, 0x213f, ["\u03c0 \u03b3 \u0393 \u03a0"]), (0x2145, 0x2149, ["D d e i j"]),
  (0x2160, 0x217f, [
    "I II III IV V VI VII VIII IX X XI XII L C D M i ii iii iv v vi vii viii ix x xi xii l c d m"]),
  (0x2c7c, 0x2c7d, ["j V"]), (0x2d6f, 0x2d6f, ["\u2d61"]),
  (0x3038, 0x303a, ["\u5341 \u5344 \u5345"]), (0x309f, 0x309f, ["\u3088\u308a"]),
  (0x30ff, 0x30ff, ["\u30b3\u30c8"]),
  (0x3131, 0x318e, [
    "\u1100 \u1101 \u11aa \u1102 \u11ac \u11ad \u1103 \u1104 \u1105 \u11b0 \u11b1 \u11b2 \u11b3",
    "\u11b4 \u11b5 \u111a \u1106 \u1107 \u1108 \u1121 \u1109 \u110a \u110b \u110c \u110d \u110e",
    "\u110f \u1110 \u1111 \u1112 \u1161 \u1162 \u1163 \u1164 \u1165 \u1166 \u1167 \u1168 \u1169",
    "\u116a \u116b \u116c \u116d \u116e \u116f \u1170 \u1171 \u1172 \u1173 \u1174 \u1175 \u1160",
    "\u1114 \u1115 \u11c7 \u11c8 \u11cc \u11ce \u11d3 \u11d7 \u11d9 \u111c \u11dd \u11df \u111d",
    "\u111e \u1120 \u1122 \u1123 \u1127 \u1129 \u112b \u112c \u112d \u112e \u112f \u1132 \u1136",
    "\u1140 \u1147 \u114c \u11f1 \u11f2 \u1157 \u1158 \u1159 \u1184 \u1185 \u1188 \u1191 \u1192",
    "\u1194 \u119e \u11a1"]),
  (0xa69c, 0xa69d, ["\u044a \u044c"]), (0xa770, 0xa770, ["\ua76f"]), (0xa7f2, 0xa7f4, ["C F Q"]),
  (0xa7f8, 0xa7f9, ["\u0126 \u0153"]), (0xab5c, 0xab5f, ["\ua727 \uab37 \u026b \uab52"]),
  (0xab69, 0xab69, ["\u028d"]),
  (0xf900, 0xfa0d, [
    "\u8c48 \u66f4 \u8eca \u8cc8 \u6ed1 \u4e32 \u53e5 \u9f9c \u9f9c \u5951 \u91d1 \u5587 \u5948",
    "\u61f6 \u7669 \u7f85 \u863f \u87ba \u88f8 \u908f \u6a02 \u6d1b \u70d9 \u73de \u843d \u916a",
    "\u99f1 \u4e82 \u5375 \u6b04 \u721b \u862d \u9e1e \u5d50 \u6feb \u85cd \u8964 \u62c9 \u81d8",
    "\u881f \u5eca \u6717 \u6d6a \u72fc \u90ce \u4f86 \u51b7 \u52de \u64c4 \u6ad3 \u7210 \u76e7",
    "\u8001 \u8606 \u865c \u8def \u9732 \u9b6f \u9dfa \u788c \u797f \u7da0 \u83c9 \u9304 \u9e7f",
    "\u8ad6 \u58df \u5f04 \u7c60 \u807e \u7262 \u78ca \u8cc2 \u96f7 \u58d8 \u5c62 \u6a13 \u6dda",
    "\u6f0f \u7d2f \u7e37 \u964b \u52d2 \u808b \u51dc \u51cc \u7a1c \u7dbe \u83f1 \u9675 \u8b80",
    "\u62cf \u6a02 \u8afe \u4e39 \u5be7 \u6012 \u7387 \u7570 \u5317 \u78fb \u4fbf \u5fa9 \u4e0d",
    "\u6ccc \u6578 \u7d22 \u53c3 \u585e \u7701 \u8449 \u8aaa \u6bba \u8fb0 \u6c88 \u62fe \u82e5",
    "\u63a0 \u7565 \u4eae \u5169 \u51c9 \u6881 \u7ce7 \u826f \u8ad2 \u91cf \u52f5 \u5442 \u5973",
    "\u5eec \u65c5 \u6ffe \u792a \u95ad \u9a6a \u9e97 \u9ece \u529b \u66c6 \u6b77 \u8f62 \u5e74",
    "\u6190 \u6200 \u649a \u6f23 \u7149 \u7489 \u79ca \u7df4 \u806f \u8f26 \u84ee \u9023 \u934a",
    "\u5217 \u52a3 \u54bd \u70c8 \u88c2 \u8aaa \u5ec9 \u5ff5 \u637b \u6bae \u7c3e \u7375 \u4ee4",
    "\u56f9 \u5be7 \u5dba \u601c \u73b2 \u7469 \u7f9a \u8046 \u9234 \u96f6 \u9748 \u9818 \u4f8b",
    "\u79ae \u91b4 \u96b8 \u60e1 \u4e86 \u50da \u5bee \u5c3f \u6599 \u6a02 \u71ce \u7642 \u84fc",
    "\u907c \u9f8d \u6688 \u962e \u5289 \u677b \u67f3 \u6d41 \u6e9c \u7409 \u7559 \u786b \u7d10",
    "\u985e \u516d \u622e \u9678 \u502b \u5d19 \u6dea \u8f2a \u5f8b \u6144 \u6817 \u7387 \u9686",
    "\u5229 \u540f \u5c65 \u6613 \u674e \u68a8 \u6ce5 \u7406 \u75e2 \u7f79 \u88cf \u88e1 \u91cc",
    "\u96e2 \u533f \u6eba \u541d \u71d0 \u7498 \u85fa \u96a3 \u9c57 \u9e9f \u6797 \u6dcb \u81e8",
    "\u7acb \u7b20 \u7c92 \u72c0 \u7099 \u8b58 \u4ec0 \u8336 \u523a \u5207 \u5ea6 \u62d3 \u7cd6",
    "\u5b85 \u6d1e \u66b4 \u8f3b \u884c \u964d \u898b \u5ed3 \u5140 \u55c0"]),
  (0xfa10, 0xfa10, ["\u585a"]), (0xfa12, 0xfa12, ["\u6674"]),
  (0xfa15, 0xfa1e, ["\u51de \u732a \u76ca \u793c \u795e \u7965 \u798f \u9756 \u7cbe \u7fbd"]),
  (0xfa20, 0xfa20, ["\u8612"]), (0xfa22, 0xfa22, ["\u8af8"]), (0xfa25, 0xfa26, ["\u9038 \u90fd"]),
  (0xfa2a, 0xfa6d, [
    "\u98ef \u98fc \u9928 \u9db4 \u90de \u96b7 \u4fae \u50e7 \u514d \u52c9 \u52e4 \u5351 \u559d",
    "\u5606 \u5668 \u5840 \u58a8 \u5c64 \u5c6e \u6094 \u6168 \u618e \u61f2 \u654f \u65e2 \u6691",
    "\u6885 \u6d77 \u6e1a \u6f22 \u716e \u722b \u7422 \u7891 \u793e \u7949 \u7948 \u7950 \u7956",
    "\u795d \u798d \u798e \u7a40 \u7a81 \u7bc0 \u7df4 \u7e09 \u7e41 \u7f72 \u8005 \u81ed \u8279",
    "\u8279 \u8457 \u8910 \u8996 \u8b01 \u8b39 \u8cd3 \u8d08 \u8fb6 \u9038 \u96e3 \u97ff \u983b",
    "\u6075 𤋮 \u8218"]),
  (0xfa70, 0xfad9, [
    "\u4e26 \u51b5 \u5168 \u4f80 \u5145 \u5180 \u52c7 \u52fa \u559d \u5555 \u5599 \u55e2 \u585a",
    "\u58b3 \u5944 \u5954 \u5a62 \u5b28 \u5ed2 \u5ed9 \u5f69 \u5fad \u60d8 \u614e \u6108 \u618e",
    "\u6160 \u61f2 \u6234 \u63c4 \u641c \u6452 \u6556 \u6674 \u6717 \u671b \u6756 \u6b79 \u6bba",
    "\u6d41 \u6edb \u6ecb \u6f22 \u701e \u716e \u77a7 \u7235 \u72af \u732a \u7471 \u7506 \u753b",
    "\u761d \u761f \u76ca \u76db \u76f4 \u774a \u7740 \u78cc \u7ab1 \u7bc0 \u7c7b \u7d5b \u7df4",
    "\u7f3e \u8005 \u8352 \u83ef \u8779 \u8941 \u8986 \u8996 \u8abf \u8af8 \u8acb \u8b01 \u8afe",
    "\u8aed \u8b39 \u8b8a \u8d08 \u8f38 \u9072 \u9199 \u9276 \u967c \u96e3 \u9756 \u97db \u97ff",
    "\u980b \u983b \u9b12 \u9f9c 𢡊 𢡄 𣏕 \u3b9d \u4018 \u4039 𥉉 𥳐 𧻓 \u9f43 \u9f8e"]),
  (0xfb00, 0xfb06, ["ff fi fl ffi ffl st st"]),
  (0xfb13, 0xfb17, ["\u0574\u0576 \u0574\u0565 \u0574\u056b \u057e\u0576 \u0574\u056d"]),
  (0xfb20, 0xfb28, ["\u05e2 \u05d0 \u05d3 \u05d4 \u05db \u05dc \u05dd \u05e8 \u05ea"]),
  (0xfb4f, 0xfbb1, [
    "\u05d0\u05dc \u0671 \u0671 \u067b \u067b \u067b \u067b \u067e \u067e \u067e \u067e \u0680",
    "\u0680 \u0680 \u0680 \u067a \u067a \u067a \u067a \u067f \u067f \u067f \u067f \u0679 \u0679",
    "\u0679 \u0679 \u06a4 \u06a4 \u06a4 \u06a4 \u06a6 \u06a6 \u06a6 \u06a6 \u0684 \u0684 \u0684",
    "\u0684 \u0683 \u0683 \u0683 \u0683 \u0686 \u0686 \u0686 \u0686 \u0687 \u0687 \u0687 \u0687",
    "\u068d \u068d \u068c \u068c \u068e \u068e \u0688 \u0688 \u0698 \u0698 \u0691 \u0691 \u06a9",
    "\u06a9 \u06a9 \u06a9 \u06af \u06af \u06af \u06af \u06b3 \u06b3 \u06b3 \u06b3 \u06b1 \u06b1",
    "\u06b1 \u06b1 \u06ba \u06ba \u06bb \u06bb \u06bb \u06bb \u06c0 \u06c0 \u06c1 \u06c1 \u06c1",
    "\u06c1 \u06be \u06be \u06be \u06be \u06d2 \u06d2 \u06d3 \u06d3"]),
  (0xfbd3, 0xfc5d, [
    "\u06ad \u06ad \u06ad \u06ad \u06c7 \u06c7 \u06c6 \u06c6 \u06c8 \u06c8 \u06c7\u0674 \u06cb",
    "\u06cb \u06c5 \u06c5 \u06c9 \u06c9 \u06d0 \u06d0 \u06d0 \u06d0 \u0649 \u0649 \u0626\u0627",
    "\u0626\u0627 \u0626\u06d5 \u0626\u06d5 \u0626\u0648 \u0626\u0648 \u0626\u06c7 \u0626\u06c7",
    "\u0626\u06c6 \u0626\u06c6 \u0626\u06c8 \u0626\u06c8 \u0626\u06d0 \u0626\u06d0 \u0626\u06d0",
    "\u0626\u0649 \u0626\u0649 \u0626\u0649 \u06cc \u06cc \u06cc \u06cc \u0626\u062c",
    "\u0626\u062d \u0626\u0645 \u0626\u0649 \u0626\u064a \u0628\u062c \u0628\u062d \u0628\u062e",
    "\u0628\u0645 \u0628\u0649 \u0628\u064a \u062a\u062c \u062a\u062d \u062a\u062e \u062a\u0645",
    "\u062a\u0649 \u062a\u064a \u062b\u062c \u062b\u0645 \u062b\u0649 \u062b\u064a \u062c\u062d",
    "\u062c\u0645 \u062d\u062c \u062d\u0645 \u062e\u062c \u062e\u062d \u062e\u0645 \u0633\u062c",
    "\u0633\u062d \u0633\u062e \u0633\u0645 \u0635\u062d \u0635\u0645 \u0636\u062c \u0636\u062d",
    "\u0636\u062e \u0636\u0645 \u0637\u062d \u0637\u0645 \u0638\u0645 \u0639\u062c \u0639\u0645",
    "\u063a\u062c \u063a\u0645 \u0641\u062c \u0641\u062d \u0641\u062e \u0641\u0645 \u0641\u0649",
    "\u0641\u064a \u0642\u062d \u0642\u0645 \u0642\u0649 \u0642\u064a \u0643\u0627 \u0643\u062c",
    "\u0643\u062d \u0643\u062e \u0643\u0644 \u0643\u0645 \u0643\u0649 \u0643\u064a \u0644\u062c",
    "\u0644\u062d \u0644\u062e \u0644\u0645 \u0644\u0649 \u0644\u064a \u0645\u062c \u0645\u062d",
    "\u0645\u062e \u0645\u0645 \u0645\u0649 \u0645\u064a \u0646\u062c \u0646\u062d \u0646\u062e",
    "\u0646\u0645 \u0646\u0649 \u0646\u064a \u0647\u062c \u0647\u0645 \u0647\u0649 \u0647\u064a",
    "\u064a\u062c \u064a\u062d \u064a\u062e \u064a\u0645 \u064a\u0649 \u064a\u064a \u0630\u0670",
    "\u0631\u0670 \u0649\u0670"]),
  (0xfc64, 0xfd3d, [
    "\u0626\u0631 \u0626\u0632 \u0626\u0645 \u0626\u0646 \u0626\u0649 \u0626\u064a \u0628\u0631",
    "\u0628\u0632 \u0628\u0645 \u0628\u0646 \u0628\u0649 \u0628\u064a \u062a\u0631 \u062a\u0632",
    "\u062a\u0645 \u062a\u0646 \u062a\u0649 \u062a\u064a \u062b\u0631 \u062b\u0632 \u062b\u0645",
    "\u062b\u0646 \u062b\u0649 \u062b\u064a \u0641\u0649 \u0641\u064a \u0642\u0649 \u0642\u064a",
    "\u0643\u0627 \u0643\u0644 \u0643\u0645 \u0643\u0649 \u0643\u064a \u0644\u0645 \u0644\u0649",
    "\u0644\u064a \u0645\u0627 \u0645\u0645 \u0646\u0631 \u0646\u0632 \u0646\u0645 \u0646\u0646",
    "\u0646\u0649 \u0646\u064a \u0649\u0670 \u064a\u0631 \u064a\u0632 \u064a\u0645 \u064a\u0646",
    "\u064a\u0649 \u064a\u064a \u0626\u062c \u0626\u062d \u0626\u062e \u0626\u0645 \u0626\u0647",
    "\u0628\u062c \u0628\u062d \u0628\u062e \u0628\u0645 \u0628\u0647 \u062a\u062c \u062a\u062d",
    "\u062a\u062e \u062a\u0645 \u062a\u0647 \u062b\u0645 \u062c\u062d \u062c\u0645 \u062d\u062c",
    "\u062d\u0645 \u062e\u062c \u062e\u0645 \u0633\u062c \u0633\u062d \u0633\u062e \u0633\u0645",
    "\u0635\u062d \u0635\u062e \u0635\u0645 \u0636\u062c \u0636\u062d \u0636\u062e \u0636\u0645",
    "\u0637\u062d \u0638\u0645 \u0639\u062c \u0639\u0645 \u063a\u062c \u063a\u0645 \u0641\u062c",
    "\u0641\u062d \u0641\u062e \u0641\u0645 \u0642\u062d \u0642\u0645 \u0643\u062c \u0643\u062d",
    "\u0643\u062e \u0643\u0644 \u0643\u0645 \u0644\u062c \u0644\u062d \u0644\u062e \u0644\u0645",
    "\u0644\u0647 \u0645\u062c \u0645\u062d \u0645\u062e \u0645\u0645 \u0646\u062c \u0646\u062d",
    "\u0646\u062e \u0646\u0645 \u0646\u0647 \u0647\u062c \u0647\u0645 \u0647\u0670 \u064a\u062c",
    "\u064a\u062d \u064a\u062e \u064a\u0645 \u064a\u0647 \u0626\u0645 \u0626\u0647 \u0628\u0645",
    "\u0628\u0647 \u062a\u0645 \u062a\u0647 \u062b\u0645 \u062b\u0647 \u0633\u0645 \u0633\u0647",
    "\u0634\u0645 \u0634\u0647 \u0643\u0644 \u0643\u0645 \u0644\u0645 \u0646\u0645 \u0646\u0647",
    "\u064a\u0645 \u064a\u0647 \u0640\u064e\u0651 \u0640\u064f\u0651 \u0640\u0650\u0651",
    "\u0637\u0649 \u0637\u064a \u0639\u0649 \u0639\u064a \u063a\u0649 \u063a\u064a \u0633\u0649",
    "\u0633\u064a \u0634\u0649 \u0634\u064a \u062d\u0649 \u062d\u064a \u062c\u0649 \u062c\u064a",
    "\u062e\u0649 \u062e\u064a \u0635\u0649 \u0635\u064a \u0636\u0649 \u0636\u064a \u0634\u062c",
    "\u0634\u062d \u0634\u062e \u0634\u0645 \u0634\u0631 \u0633\u0631 \u0635\u0631 \u0636\u0631",
    "\u0637\u0649 \u0637\u064a \u0639\u0649 \u0639\u064a \u063a\u0649 \u063a\u064a \u0633\u0649",
    "\u0633\u064a \u0634\u0649 \u0634\u064a \u062d\u0649 \u062d\u064a \u062c\u0649 \u062c\u064a",
    "\u062e\u0649 \u062e\u064a \u0635\u0649 \u0635\u064a \u0636\u0649 \u0636\u064a \u0634\u062c",
    "\u0634\u062d \u0634\u062e \u0634\u0645 \u0634\u0631 \u0633\u0631 \u0635\u0631 \u0636\u0631",
    "\u0634\u062c \u0634\u062d \u0634\u062e \u0634\u0645 \u0633\u0647 \u0634\u0647 \u0637\u0645",
    "\u0633\u062c \u0633\u062d \u0633\u062e \u0634\u062c \u0634\u062d \u0634\u062e \u0637\u0645",
    "\u0638\u0645 \u0627\u064b \u0627\u064b"]),
  (0xfd50, 0xfd8f, [
    "\u062a\u062c\u0645 \u062a\u062d\u062c \u062a\u062d\u062c \u062a\u062d\u0645",
    "\u062a\u062e\u0645 \u062a\u0645\u062c \u062a\u0645\u062d \u062a\u0645\u062e",
    "\u062c\u0645\u062d \u062c\u0645\u062d \u062d\u0645\u064a \u062d\u0645\u0649",
    "\u0633\u062d\u062c \u0633\u062c\u062d \u0633\u062c\u0649 \u0633\u0645\u062d",
    "\u0633\u0645\u062d \u0633\u0645\u062c \u0633\u0645\u0645 \u0633\u0645\u0645",
    "\u0635\u062d\u062d \u0635\u062d\u062d \u0635\u0645\u0645 \u0634\u062d\u0645",
    "\u0634\u062d\u0645 \u0634\u062c\u064a \u0634\u0645\u062e \u0634\u0645\u062e",
    "\u0634\u0645\u0645 \u0634\u0645\u0645 \u0636\u062d\u0649 \u0636\u062e\u0645",
    "\u0636\u062e\u0645 \u0637\u0645\u062d \u0637\u0645\u062d \u0637\u0645\u0645",
    "\u0637\u0645\u064a \u0639\u062c\u0645 \u0639\u0645\u0645 \u0639\u0645\u0645",
    "\u0639\u0645\u0649 \u063a\u0645\u0645 \u063a\u0645\u064a \u063a\u0645\u0649",
    "\u0641\u062e\u0645 \u0641\u062e\u0645 \u0642\u0645\u062d \u0642\u0645\u0645",
    "\u0644\u062d\u0645 \u0644\u062d\u064a \u0644\u062d\u0649 \u0644\u062c\u062c",
    "\u0644\u062c\u062c \u0644\u062e\u0645 \u0644\u062e\u0645 \u0644\u0645\u062d",
    "\u0644\u0645\u062d \u0645\u062d\u062c \u0645\u062d\u0645 \u0645\u062d\u064a",
    "\u0645\u062c\u062d \u0645\u062c\u0645 \u0645\u062e\u062c \u0645\u062e\u0645"]),
  (0xfd92, 0xfdc7, [
    "\u0645\u062c\u062e \u0647\u0645\u062c \u0647\u0645\u0645 \u0646\u062d\u0645",
    "\u0646\u062d\u0649 \u0646\u062c\u0645 \u0646\u062c\u0645 \u0646\u062c\u0649",
    "\u0646\u0645\u064a \u0646\u0645\u0649 \u064a\u0645\u0645 \u064a\u0645\u0645",
    "\u0628\u062e\u064a \u062a\u062c\u064a \u062a\u062c\u0649 \u062a\u062e\u064a",
    "\u062a\u062e\u0649 \u062a\u0645\u064a \u062a\u0645\u0649 \u062c\u0645\u064a",
    "\u062c\u062d\u0649 \u062c\u0645\u0649 \u0633\u062e\u0649 \u0635\u062d\u064a",
    "\u0634\u062d\u064a \u0636\u062d\u064a \u0644\u062c\u064a \u0644\u0645\u064a",
    "\u064a\u062d\u064a \u064a\u062c\u064a \u064a\u0645\u064a \u0645\u0645\u064a",
    "\u0642\u0645\u064a \u0646\u062d\u064a \u0642\u0645\u062d \u0644\u062d\u0645",
    "\u0639\u0645\u064a \u0643\u0645\u064a \u0646\u062c\u062d \u0645\u062e\u064a",
    "\u0644\u062c\u0645 \u0643\u0645\u0645 \u0644\u062c\u0645 \u0646\u062c\u062d",
    "\u062c\u062d\u064a \u062d\u062c\u064a \u0645\u062c\u064a \u0641\u0645\u064a",
    "\u0628\u062d\u064a \u0643\u0645\u0645 \u0639\u062c\u0645 \u0635\u0645\u0645",
    "\u0633\u062e\u064a \u0646\u062c\u064a"]),
  (0xfdf0, 0xfdf9, [
    "\u0635\u0644\u06d2 \u0642\u0644\u06d2 \u0627\u0644\u0644\u0647 \u0627\u0643\u0628\u0631",
    "\u0645\u062d\u0645\u062f \u0635\u0644\u0639\u0645 \u0631\u0633\u0648\u0644",
    "\u0639\u0644\u064a\u0647 \u0648\u0633\u0644\u0645 \u0635\u0644\u0649"]),
  (0xfe33, 0xfe34, ["_ _"]), (0xfe4d, 0xfe4f, ["_ _ _"]), (0xfe71, 0xfe71, ["\u0640\u064b"]),
  (0xfe77, 0xfe77, ["\u0640\u064e"]), (0xfe79, 0xfe79, ["\u0640\u064f"]),
  (0xfe7b, 0xfe7b, ["\u0640\u0650"]), (0xfe7d, 0xfe7d, ["\u0640\u0651"]),
  (0xfe7f, 0xfefc, [
    "\u0640\u0652 \u0621 \u0622 \u0622 \u0623 \u0623 \u0624 \u0624 \u0625 \u0625 \u0626 \u0626",
    "\u0626 \u0626 \u0627 \u0627 \u0628 \u0628 \u0628 \u0628 \u0629 \u0629 \u062a \u062a \u062a",
    "\u062a \u062b \u062b \u062b \u062b \u062c \u062c \u062c \u062c \u062d \u062d \u062d \u062d",
    "\u062e \u062e \u062e \u062e \u062f \u062f \u0630 \u0630 \u0631 \u0631 \u0632 \u0632 \u0633",
    "\u0633 \u0633 \u0633 \u0634 \u0634 \u0634 \u0634 \u0635 \u0635 \u0635 \u0635 \u0636 \u0636",
    "\u0636 \u0636 \u0637 \u0637 \u0637 \u0637 \u0638 \u0638 \u0638 \u0638 \u0639 \u0639 \u0639",
    "\u0639 \u063a \u063a \u063a \u063a \u0641 \u0641 \u0641 \u0641 \u0642 \u0642 \u0642 \u0642",
    "\u0643 \u0643 \u0643 \u0643 \u0644 \u0644 \u0644 \u0644 \u0645 \u0645 \u0645 \u0645 \u0646",
    "\u0646 \u0646 \u0646 \u0647 \u0647 \u0647 \u0647 \u0648 \u0648 \u0649 \u0649 \u064a \u064a",
    "\u064a \u064a \u0644\u0622 \u0644\u0622 \u0644\u0623 \u0644\u0623 \u0644\u0625",
    "\u0644\u0625 \u0644\u0627 \u0644\u0627"]),
  (0xff10, 0xff19, ["0 1 2 3 4 5 6 7 8 9"]),
  (0xff21, 0xff3a, ["A B C D E F G H I J K L M N O P Q R S T U V W X Y Z"]),
  (0xff3f, 0xff3f, ["_"]),
  (0xff41, 0xff5a, ["a b c d e f g h i j k l m n o p q r s t u v w x y z"]),
  (0xff66, 0xffbe, [
    "\u30f2 \u30a1 \u30a3 \u30a5 \u30a7 \u30a9 \u30e3 \u30e5 \u30e7 \u30c3 \u30fc \u30a2 \u30a4",
    "\u30a6 \u30a8 \u30aa \u30ab \u30ad \u30af \u30b1 \u30b3 \u30b5 \u30b7 \u30b9 \u30bb \u30bd",
    "\u30bf \u30c1 \u30c4 \u30c6 \u30c8 \u30ca \u30cb \u30cc \u30cd \u30ce \u30cf \u30d2 \u30d5",
    "\u30d8 \u30db \u30de \u30df \u30e0 \u30e1 \u30e2 \u30e4 \u30e6 \u30e8 \u30e9 \u30ea \u30eb",
    "\u30ec \u30ed \u30ef \u30f3 \u3099 \u309a \u1160 \u1100 \u1101 \u11aa \u1102 \u11ac \u11ad",
    "\u1103 \u1104 \u1105 \u11b0 \u11b1 \u11b2 \u11b3 \u11b4 \u11b5 \u111a \u1106 \u1107 \u1108",
    "\u1121 \u1109 \u110a \u110b \u110c \u110d \u110e \u110f \u1110 \u1111 \u1112"]),
  (0xffc2, 0xffc7, ["\u1161 \u1162 \u1163 \u1164 \u1165 \u1166"]),
  (0xffca, 0xffcf, ["\u1167 \u1168 \u1169 \u116a \u116b \u116c"]),
  (0xffd2, 0xffd7, ["\u116d \u116e \u116f \u1170 \u1171 \u1172"]),
  (0xffda, 0xffdc, ["\u1173 \u1174 \u1175"]),
  (0x10781, 0x10785, ["\u02d0 \u02d1 \u00e6 \u0299 \u0253"]),
  (0x10787, 0x107b0, [
    "\u02a3 \uab66 \u02a5 \u02a4 \u0256 \u0257 \u1d91 \u0258 \u025e \u02a9 \u0264 \u0262 \u0260",
    "\u029b \u0127 \u029c \u0267 \u0284 \u02aa \u02ab \u026c 𝼄 \ua78e \u026e 𝼅 \u028e 𝼆 \u00f8",
    "\u0276 \u0277 q \u027a 𝼈 \u027d \u027e \u0280 \u02a8 \u02a6 \uab67 \u02a7 \u0288 \u2c71"]),
  (0x107b2, 0x107ba, ["\u028f \u02a1 \u02a2 \u0298 \u01c0 \u01c1 \u01c2 𝼊 𝼞"]),
  (0x1d400, 0x1d454, [
    "A B C D E F G H I J K L M N O P Q R S T U V W X Y Z a b c d e f g h i j k l m n o p q r s",
    "t u v w x y z A B C D E F G H I J K L M N O P Q R S T U V W X Y Z a b c d e f g"]),
  (0x1d456, 0x1d49c, [
    "i j k l m n o p q r s t u v w x y z A B C D E F G H I J K L M N O P Q R S T U V W X Y Z a",
    "b c d e f g h i j k l m n o p q r s t u v w x y z A"]),
  (0x1d49e, 0x1d49f, ["C D"]), (0x1d4a2, 0x1d4a2, ["G"]), (0x1d4a5, 0x1d4a6, ["J K"]),
  (0x1d4a9, 0x1d4ac, ["N O P Q"]), (0x1d4ae, 0x1d4b9, ["S T U V W X Y Z a b c d"]),
  (0x1d4bb, 0x1d4bb, ["f"]), (0x1d4bd, 0x1d4c3, ["h i j k l m n"]),
  (0x1d4c5, 0x1d505, [
    "p q r s t u v w x y z A B C D E F G H I J K L M N O P Q R S T U V W X Y Z a b c d e f g h",
    "i j k l m n o p q r s t u v w x y z A B"]),
  (0x1d507, 0x1d50a, ["D E F G"]), (0x1d50d, 0x1d514, ["J K L M N O P Q"]),
  (0x1d516, 0x1d51c, ["S T U V W X Y"]),
  (0x1d51e, 0x1d539, ["a b c d e f g h i j k l m n o p q r s t u v w x y z A B"]),
  (0x1d53b, 0x1d53e, ["D E F G"]), (0x1d540, 0x1d544, ["I J K L M"]), (0x1d546, 0x1d546, ["O"]),
  (0x1d54a, 0x1d550, ["S T U V W X Y"]),
  (0x1d552, 0x1d6a5, [
    "a b c d e f g h i j k l m n o p q r s t u v w x y z A B C D E F G H I J K L M N O P Q R S",
    "T U V W X Y Z a b c d e f g h i j k l m n o p q r s t u v w x y z A B C D E F G H I J K L",
    "M N O P Q R S T U V W X Y Z a b c d e f g h i j k l m n o p q r s t u v w x y z A B C D E",
    "F G H I J K L M N O P Q R S T U V W X Y Z a b c d e f g h i j k l m n o p q r s t u v w x",
    "y z A B C D E F G H I J K L M N O P Q R S T U V W X Y Z a b c d e f g h i j k l m n o p q",
    "r s t u v w x y z A B C D E F G H I J K L M N O P Q R S T U V W X Y Z a b c d e f g h i j",
    "k l m n o p q r s t u v w x y z A B C D E F G H I J K L M N O P Q R S T U V W X Y Z a b c",
    "d e f g h i j k l m n o p q r s t u v w x y z \u0131 \u0237"]),
  (0x1d6a8, 0x1d6c0, [
    "\u0391 \u0392 \u0393 \u0394 \u0395 \u0396 \u0397 \u0398 \u0399 \u039a \u039b \u039c \u039d",
    "\u039e \u039f \u03a0 \u03a1 \u0398 \u03a3 \u03a4 \u03a5 \u03a6 \u03a7 \u03a8 \u03a9"]),
  (0x1d6c2, 0x1d6da, [
    "\u03b1 \u03b2 \u03b3 \u03b4 \u03b5 \u03b6 \u03b7 \u03b8 \u03b9 \u03ba \u03bb \u03bc \u03bd",
    "\u03be \u03bf \u03c0 \u03c1 \u03c2 \u03c3 \u03c4 \u03c5 \u03c6 \u03c7 \u03c8 \u03c9"]),
  (0x1d6dc, 0x1d6fa, [
    "\u03b5 \u03b8 \u03ba \u03c6 \u03c1 \u03c0 \u0391 \u0392 \u0393 \u0394 \u0395 \u0396 \u0397",
    "\u0398 \u0399 \u039a \u039b \u039c \u039d \u039e \u039f \u03a0 \u03a1 \u0398 \u03a3 \u03a4",
    "\u03a5 \u03a6 \u03a7 \u03a8 \u03a9"]),
  (0x1d6fc, 0x1d714, [
    "\u03b1 \u03b2 \u03b3 \u03b4 \u03b5 \u03b6 \u03b7 \u03b8 \u03b9 \u03ba \u03bb \u03bc \u03bd",
    "\u03be \u03bf \u03c0 \u03c1 \u03c2 \u03c3 \u03c4 \u03c5 \u03c6 \u03c7 \u03c8 \u03c9"]),
  (0x1d716, 0x1d734, [
    "\u03b5 \u03b8 \u03ba \u03c6 \u03c1 \u03c0 \u0391 \u0392 \u0393 \u0394 \u0395 \u0396 \u0397",
    "\u0398 \u0399 \u039a \u039b \u039c \u039d \u039e \u039f \u03a0 \u03a1 \u0398 \u03a3 \u03a4",
    "\u03a5 \u03a6 \u03a7 \u03a8 \u03a9"]),
  (0x1d736, 0x1d74e, [
    "\u03b1 \u03b2 \u03b3 \u03b4 \u03b5 \u03b6 \u03b7 \u03b8 \u03b9 \u03ba \u03bb \u03bc \u03bd",
    "\u03be \u03bf \u03c0 \u03c1 \u03c2 \u03c3 \u03c4 \u03c5 \u03c6 \u03c7 \u03c8 \u03c9"]),
  (0x1d750, 0x1d76e, [
    "\u03b5 \u03b8 \u03ba \u03c6 \u03c1 \u03c0 \u0391 \u0392 \u0393 \u0394 \u0395 \u0396 \u0397",
    "\u0398 \u0399 \u039a \u039b \u039c \u039d \u039e \u039f \u03a0 \u03a1 \u0398 \u03a3 \u03a4",
    "\u03a5 \u03a6 \u03a7 \u03a8 \u03a9"]),
  (0x1d770, 0x1d788, [
    "\u03b1 \u03b2 \u03b3 \u03b4 \u03b5 \u03b6 \u03b7 \u03b8 \u03b9 \u03ba \u03bb \u03bc \u03bd",
    "\u03be \u03bf \u03c0 \u03c1 \u03c2 \u03c3 \u03c4 \u03c5 \u03c6 \u03c7 \u03c8 \u03c9"]),
  (0x1d78a, 0x1d7a8, [
    "\u03b5 \u03b8 \u03ba \u03c6 \u03c1 \u03c0 \u0391 \u0392 \u0393 \u0394 \u0395 \u0396 \u0397",
    "\u0398 \u0399 \u039a \u039b \u039c \u039d \u039e \u039f \u03a0 \u03a1 \u0398 \u03a3 \u03a4",
    "\u03a5 \u03a6 \u03a7 \u03a8 \u03a9"]),
  (0x1d7aa, 0x1d7c2, [
    "\u03b1 \u03b2 \u03b3 \u03b4 \u03b5 \u03b6 \u03b7 \u03b8 \u03b9 \u03ba \u03bb \u03bc \u03bd",
    "\u03be \u03bf \u03c0 \u03c1 \u03c2 \u03c3 \u03c4 \u03c5 \u03c6 \u03c7 \u03c8 \u03c9"]),
  (0x1d7c4, 0x1d7cb, ["\u03b5 \u03b8 \u03ba \u03c6 \u03c1 \u03c0 \u03dc \u03dd"]),
  (0x1d7ce, 0x1d7ff, [
    "0 1 2 3 4 5 6 7 8 9 0 1 2 3 4 5 6 7 8 9 0 1 2 3 4 5 6 7 8 9 0 1 2 3 4 5 6 7 8 9 0 1 2 3 4",
    "5 6 7 8 9"]),
  (0x1ee00, 0x1ee03, ["\u0627 \u0628 \u062c \u062f"]),
  (0x1ee05, 0x1ee1f, [
    "\u0648 \u0632 \u062d \u0637 \u064a \u0643 \u0644 \u0645 \u0646 \u0633 \u0639 \u0641 \u0635",
    "\u0642 \u0631 \u0634 \u062a \u062b \u062e \u0630 \u0636 \u0638 \u063a \u066e \u06ba \u06a1",
    "\u066f"]),
  (0x1ee21, 0x1ee22, ["\u0628 \u062c"]), (0x1ee24, 0x1ee24, ["\u0647"]),
  (0x1ee27, 0x1ee27, ["\u062d"]),
  (0x1ee29, 0x1ee32, ["\u064a \u0643 \u0644 \u0645 \u0646 \u0633 \u0639 \u0641 \u0635 \u0642"]),
  (0x1ee34, 0x1ee37, ["\u0634 \u062a \u062b \u062e"]), (0x1ee39, 0x1ee39, ["\u0636"]),
  (0x1ee3b, 0x1ee3b, ["\u063a"]), (0x1ee42, 0x1ee42, ["\u062c"]), (0x1ee47, 0x1ee47, ["\u062d"]),
  (0x1ee49, 0x1ee49, ["\u064a"]), (0x1ee4b, 0x1ee4b, ["\u0644"]),
  (0x1ee4d, 0x1ee4f, ["\u0646 \u0633 \u0639"]), (0x1ee51, 0x1ee52, ["\u0635 \u0642"]),
  (0x1ee54, 0x1ee54, ["\u0634"]), (0x1ee57, 0x1ee57, ["\u062e"]), (0x1ee59, 0x1ee59, ["\u0636"]),
  (0x1ee5b, 0x1ee5b, ["\u063a"]), (0x1ee5d, 0x1ee5d, ["\u06ba"]), (0x1ee5f, 0x1ee5f, ["\u066f"]),
  (0x1ee61, 0x1ee62, ["\u0628 \u062c"]), (0x1ee64, 0x1ee64, ["\u0647"]),
  (0x1ee67, 0x1ee6a, ["\u062d \u0637 \u064a \u0643"]),
  (0x1ee6c, 0x1ee72, ["\u0645 \u0646 \u0633 \u0639 \u0641 \u0635 \u0642"]),
  (0x1ee74, 0x1ee77, ["\u0634 \u062a \u062b \u062e"]),
  (0x1ee79, 0x1ee7c, ["\u0636 \u0638 \u063a \u066e"]), (0x1ee7e, 0x1ee7e, ["\u06a1"]),
  (0x1ee80, 0x1ee89, ["\u0627 \u0628 \u062c \u062f \u0647 \u0648 \u0632 \u062d \u0637 \u064a"]),
  (0x1ee8b, 0x1ee9b, [
    "\u0644 \u0645 \u0646 \u0633 \u0639 \u0641 \u0635 \u0642 \u0631 \u0634 \u062a \u062b \u062e",
    "\u0630 \u0636 \u0638 \u063a"]),
  (0x1eea1, 0x1eea3, ["\u0628 \u062c \u062f"]),
  (0x1eea5, 0x1eea9, ["\u0648 \u0632 \u062d \u0637 \u064a"]),
  (0x1eeab, 0x1eebb, [
    "\u0644 \u0645 \u0646 \u0633 \u0639 \u0641 \u0635 \u0642 \u0631 \u0634 \u062a \u062b \u062e",
    "\u0630 \u0636 \u0638 \u063a"]),
  (0x1fbf0, 0x1fbf9, ["0 1 2 3 4 5 6 7 8 9"]),
  (0x2f800, 0x2fa1d, [
    "\u4e3d \u4e38 \u4e41 𠄢 \u4f60 \u4fae \u4fbb \u5002 \u507a \u5099 \u50e7 \u50cf \u349e 𠘺",
    "\u514d \u5154 \u5164 \u5177 𠔜 \u34b9 \u5167 \u518d 𠕋 \u5197 \u51a4 \u4ecc \u51ac \u51b5 𩇟",
    "\u51f5 \u5203 \u34df \u523b \u5246 \u5272 \u5277 \u3515 \u52c7 \u52c9 \u52e4 \u52fa \u5305",
    "\u5306 \u5317 \u5349 \u5351 \u535a \u5373 \u537d \u537f \u537f \u537f 𠨬 \u7070 \u53ca",
    "\u53df 𠭣 \u53eb \u53f1 \u5406 \u549e \u5438 \u5448 \u5468 \u54a2 \u54f6 \u5510 \u5553",
    "\u5563 \u5584 \u5584 \u5599 \u55ab \u55b3 \u55c2 \u5716 \u5606 \u5717 \u5651 \u5674 \u5207",
    "\u58ee \u57ce \u57f4 \u580d \u578b \u5832 \u5831 \u58ac 𡓤 \u58f2 \u58f7 \u5906 \u591a",
    "\u5922 \u5962 𡚨 𡛪 \u59ec \u5a1b \u5a27 \u59d8 \u5a66 \u36ee \u36fc \u5b08 \u5b3e \u5b3e 𡧈",
    "\u5bc3 \u5bd8 \u5be7 \u5bf3 𡬘 \u5bff \u5c06 \u5f53 \u5c22 \u3781 \u5c60 \u5c6e \u5cc0",
    "\u5c8d 𡷤 \u5d43 𡷦 \u5d6e \u5d6b \u5d7c \u5de1 \u5de2 \u382f \u5dfd \u5e28 \u5e3d \u5e69",
    "\u3862 𢆃 \u387c \u5eb0 \u5eb3 \u5eb6 \u5eca 𪎒 \u5efe 𢌱 𢌱 \u8201 \u5f22 \u5f22 \u38c7 𣊸 𦇚",
    "\u5f62 \u5f6b \u38e3 \u5f9a \u5fcd \u5fd7 \u5ff9 \u6081 \u393a \u391c \u6094 𢛔 \u60c7",
    "\u6148 \u614c \u614e \u614c \u617a \u618e \u61b2 \u61a4 \u61af \u61de \u61f2 \u61f6 \u6210",
    "\u621b \u625d \u62b1 \u62d4 \u6350 𢬌 \u633d \u62fc \u6368 \u6383 \u63e4 𢯱 \u6422 \u63c5",
    "\u63a9 \u3a2e \u6469 \u647e \u649d \u6477 \u3a6c \u654f \u656c 𣀊 \u65e3 \u66f8 \u6649",
    "\u3b19 \u6691 \u3b08 \u3ae4 \u5192 \u5195 \u6700 \u669c \u80ad \u43d9 \u6717 \u671b \u6721",
    "\u675e \u6753 𣏃 \u3b49 \u67fa \u6785 \u6852 \u6885 𣑭 \u688e \u681f \u6914 \u3b9d \u6942",
    "\u69a3 \u69ea \u6aa8 𣚣 \u6adb \u3c18 \u6b21 𣢧 \u6b54 \u3c4e \u6b72 \u6b9f \u6bba \u6bbb 𣪍",
    "𡴋 𣫺 \u6c4e 𣲼 \u6cbf \u6ccd \u6c67 \u6d16 \u6d3e \u6d77 \u6d41 \u6d69 \u6d78 \u6d85 𣴞",
    "\u6d34 \u6e2f \u6e6e \u3d33 \u6ecb \u6ec7 𣻑 \u6df9 \u6f6e 𣽞 𣾎 \u6fc6 \u7039 \u701e \u701b",
    "\u3d96 \u704a \u707d \u7077 \u70ad 𠔥 \u7145 𤉣 \u719c 𤎫 \u7228 \u7235 \u7250 𤘈 \u7280",
    "\u7295 𤜵 𤠔 \u737a \u738b \u3eac \u73a5 \u3eb8 \u3eb8 \u7447 \u745c \u7471 \u7485 \u74ca",
    "\u3f1b \u7524 𤰶 \u753e 𤲒 \u7570 𢆟 \u7610 𤾡 𤾸 𥁄 \u3ffc \u4008 \u76f4 𥃳 𥃲 𥄙 𥄳 \u771e \u771f",
    "\u771f \u774a \u4039 \u778b \u4046 \u4096 𥐝 \u784e \u788c \u78cc \u40e3 𥘦 \u7956 𥚚 𥛅",
    "\u798f \u79eb \u412f \u7a40 \u7a4a \u7a4f 𥥼 𥪧 𥪧 \u7aee \u4202 𥮫 \u7bc6 \u7bc9 \u4227 𥲀",
    "\u7cd2 \u42a0 \u7ce8 \u7ce3 \u7d00 𥾆 \u7d63 \u4301 \u7dc7 \u7e02 \u7e45 \u4334 𦈨 𦉇 \u4359",
    "𦋙 \u7f7a 𦌾 \u7f95 \u7ffa \u8005 𦓚 𦔣 \u8060 𦖨 \u8070 𣍟 \u43d5 \u80b2 \u8103 \u440b \u813e",
    "\u5ab5 𦞧 𦞵 𣎓 𣎜 \u8201 \u8204 \u8f9e \u446b \u8291 \u828b \u829d \u52b3 \u82b1 \u82b3",
    "\u82bd \u82e6 𦬼 \u82e5 \u831d \u8363 \u83ad \u8323 \u83bd \u83e7 \u8457 \u8353 \u83ca",
    "\u83cc \u83dc 𦰶 𦵫 𦳕 \u452b \u84f1 \u84f3 \u8516 𧏊 \u8564 𦼬 \u455d \u4561 𦾱 𧃒 \u456b \u8650",
    "\u865c \u8667 \u8669 \u86a9 \u8688 \u870e \u86e2 \u8779 \u8728 \u876b \u8786 \u45d7 \u87e1",
    "\u8801 \u45f9 \u8860 \u8863 𧙧 \u88d7 \u88de \u4635 \u88fa \u34bb 𧢮 𧥦 \u46be \u46c7 \u8aa0",
    "\u8aed \u8b8a \u8c55 𧲨 \u8cab \u8cc1 \u8d1b \u8d77 𧼯 𠠄 \u8dcb \u8dbc \u8df0 𠣞 \u8ed4",
    "\u8f38 𨗒 𨗭 \u9094 \u90f1 \u9111 𨜮 \u911b \u9238 \u92d7 \u92d8 \u927c \u93f9 \u9415 𨯺",
    "\u958b \u4995 \u95b7 𨵷 \u49e6 \u96c3 \u5db2 \u9723 𩅅 𩈚 \u4a6e \u4a76 \u97e0 𩐊 \u4ab2 𩒖",
    "\u980b \u980b \u9829 𩖶 \u98e2 \u4b33 \u9929 \u99a7 \u99c2 \u99fe \u4bce 𩬰 \u9b12 \u9c40",
    "\u9cfd \u4cce \u4ced \u9d67 𪃎 \u4cf8 𪄅 𪈎 𪊑 \u9ebb \u4d56 \u9ef9 \u9efe \u9f05 \u9f0f",
    "\u9f16 \u9f3b 𪘀"])]

/-- The combining classes of ranges of code points; all other characters have class zero. -/
def combiningClasses : List (Nat × Nat × Nat) := [
  (0x300, 0x314, 230), (0x315, 0x315, 232), (0x316, 0x319, 220), (0x31a, 0x31a, 232),
  (0x31b, 0x31b, 216), (0x31c, 0x320, 220), (0x321, 0x322, 202), (0x323, 0x326, 220),
  (0x327, 0x328, 202), (0x329, 0x333, 220), (0x334, 0x338, 1), (0x339, 0x33c, 220),
  (0x33d, 0x344, 230), (0x345, 0x345, 240), (0x346, 0x346, 230), (0x347, 0x349, 220),
  (0x34a, 0x34c, 230), (0x34d, 0x34e, 220), (0x350, 0x352, 230), (0x353, 0x356, 220),
  (0x357, 0x357, 230), (0x358, 0x358, 232), (0x359, 0x35a, 220), (0x35b, 0x35b, 230),
  (0x35c, 0x35c, 233), (0x35d, 0x35e, 234), (0x35f, 0x35f, 233), (0x360, 0x361, 234),
  (0x362, 0x362, 233), (0x363, 0x36f, 230), (0x483, 0x487, 230), (0x591, 0x591, 220),
  (0x592, 0x595, 230), (0x596, 0x596, 220), (0x597, 0x599, 230), (0x59a, 0x59a, 222),
  (0x59b, 0x59b, 220), (0x59c, 0x5a1, 230), (0x5a2, 0x5a7, 220), (0x5a8, 0x5a9, 230),
  (0x5aa, 0x5aa, 220), (0x5ab, 0x5ac, 230), (0x5ad, 0x5ad, 222), (0x5ae, 0x5ae, 228),
  (0x5af, 0x5af, 230), (0x5b0, 0x5b0, 10), (0x5b1, 0x5b1, 11), (0x5b2, 0x5b2, 12),
  (0x5b3, 0x5b3, 13), (0x5b4, 0x5b4, 14), (0x5b5, 0x5b5, 15), (0x5b6, 0x5b6, 16),
  (0x5b7, 0x5b7, 17), (0x5b8, 0x5b8, 18), (0x5b9, 0x5ba, 19), (0x5bb, 0x5bb, 20),
  (0x5bc, 0x5bc, 21), (0x5bd, 0x5bd, 22), (0x5bf, 0x5bf, 23), (0x5c1, 0x5c1, 24),
  (0x5c2, 0x5c2, 25), (0x5c4, 0x5c4, 230), (0x5c5, 0x5c5, 220), (0x5c7, 0x5c7, 18),
  (0x610, 0x617, 230), (0x618, 0x618, 30), (0x619, 0x619, 31), (0x61a, 0x61a, 32),
  (0x64b, 0x64b, 27), (0x64c, 0x64c, 28), (0x64d, 0x64d, 29), (0x64e, 0x64e, 30),
  (0x64f, 0x64f, 31), (0x650, 0x650, 32), (0x651, 0x651, 33), (0x652, 0x652, 34),
  (0x653, 0x654, 230), (0x655, 0x656, 220), (0x657, 0x65b, 230), (0x65c, 0x65c, 220),
  (0x65d, 0x65e, 230), (0x65f, 0x65f, 220), (0x670, 0x670, 35), (0x6d6, 0x6dc, 230),
  (0x6df, 0x6e2, 230), (0x6e3, 0x6e3, 220), (0x6e4, 0x6e4, 230), (0x6e7, 0x6e8, 230),
  (0x6ea, 0x6ea, 220), (0x6eb, 0x6ec, 230), (0x6ed, 0x6ed, 220), (0x711, 0x711, 36),
  (0x730, 0x730, 230), (0x731, 0x731, 220), (0x732, 0x733, 230), (0x734, 0x734, 220),
  (0x735, 0x736, 230), (0x737, 0x739, 220), (0x73a, 0x73a, 230), (0x73b, 0x73c, 220),
  (0x73d, 0x73d, 230), (0x73e, 0x73e, 220), (0x73f, 0x741, 230), (0x742, 0x742, 220),
  (0x743, 0x743, 230), (0x744, 0x744, 220), (0x745, 0x745, 230), (0x746, 0x746, 220),
  (0x747, 0x747, 230), (0x748, 0x748, 220), (0x749, 0x74a, 230), (0x7eb, 0x7f1, 230),
  (0x7f2, 0x7f2, 220), (0x7f3, 0x7f3, 230), (0x7fd, 0x7fd, 220), (0x816, 0x819, 230),
  (0x81b, 0x823, 230), (0x825, 0x827, 230), (0x829, 0x82d, 230), (0x859, 0x85b, 220),
  (0x898, 0x898, 230), (0x899, 0x89b, 220), (0x89c, 0x89f, 230), (0x8ca, 0x8ce, 230),
  (0x8cf, 0x8d3, 220), (0x8d4, 0x8e1, 230), (0x8e3, 0x8e3, 220), (0x8e4, 0x8e5, 230),
  (0x8e6, 0x8e6, 220), (0x8e7, 0x8e8, 230), (0x8e9, 0x8e9, 220), (0x8ea, 0x8ec, 230),
  (0x8ed, 0x8ef, 220), (0x8f0, 0x8f0, 27), (0x8f1, 0x8f1, 28), (0x8f2, 0x8f2, 29),
  (0x8f3, 0x8f5, 230), (0x8f6, 0x8f6, 220), (0x8f7, 0x8f8, 230), (0x8f9, 0x8fa, 220),
  (0x8fb, 0x8ff, 230), (0x93c, 0x93c, 7), (0x94d, 0x94d, 9), (0x951, 0x951, 230),
  (0x952, 0x952, 220), (0x953, 0x954, 230), (0x9bc, 0x9bc, 7), (0x9cd, 0x9cd, 9),
  (0x9fe, 0x9fe, 230), (0xa3c, 0xa3c, 7), (0xa4d, 0xa4d, 9), (0xabc, 0xabc, 7), (0xacd, 0xacd, 9),
  (0xb3c, 0xb3c, 7), (0xb4d, 0xb4d, 9), (0xbcd, 0xbcd, 9), (0xc3c, 0xc3c, 7), (0xc4d, 0xc4d, 9),
  (0xc55, 0xc55, 84), (0xc56, 0xc56, 91), (0xcbc, 0xcbc, 7), (0xccd, 0xccd, 9), (0xd3b, 0xd3c, 9),
  (0xd4d, 0xd4d, 9), (0xdca, 0xdca, 9), (0xe38, 0xe39, 103), (0xe3a, 0xe3a, 9),
  (0xe48, 0xe4b, 107), (0xeb8, 0xeb9, 118), (0xeba, 0xeba, 9), (0xec8, 0xecb, 122),
  (0xf18, 0xf19, 220), (0xf35, 0xf35, 220), (0xf37, 0xf37, 220), (0xf39, 0xf39, 216),
  (0xf71, 0xf71, 129), (0xf72, 0xf72, 130), (0xf74, 0xf74, 132), (0xf7a, 0xf7d, 130),
  (0xf80, 0xf80, 130), (0xf82, 0xf83, 230), (0xf84, 0xf84, 9), (0xf86, 0xf87, 230),
  (0xfc6, 0xfc6, 220), (0x1037, 0x1037, 7), (0x1039, 0x103a, 9), (0x108d, 0x108d, 220),
  (0x135d, 0x135f, 230), (0x1714, 0x1715, 9), (0x1734, 0x1734, 9), (0x17d2, 0x17d2, 9),
  (0x17dd, 0x17dd, 230), (0x18a9, 0x18a9, 228), (0x1939, 0x1939, 222), (0x193a, 0x193a, 230),
  (0x193b, 0x193b, 220), (0x1a17, 0x1a17, 230), (0x1a18, 0x1a18, 220), (0x1a60, 0x1a60, 9),
  (0x1a75, 0x1a7c, 230), (0x1a7f, 0x1a7f, 220), (0x1ab0, 0x1ab4, 230), (0x1ab5, 0x1aba, 220),
  (0x1abb, 0x1abc, 230), (0x1abd, 0x1abd, 220), (0x1abf, 0x1ac0, 220), (0x1ac1, 0x1ac2, 230),
  (0x1ac3, 0x1ac4, 220), (0x1ac5, 0x1ac9, 230), (0x1aca, 0x1aca, 220), (0x1acb, 0x1ace, 230),
  (0x1b34, 0x1b34, 7), (0x1b44, 0x1b44, 9), (0x1b6b, 0x1b6b, 230), (0x1b6c, 0x1b6c, 220),
  (0x1b6d, 0x1b73, 230), (0x1baa, 0x1bab, 9), (0x1be6, 0x1be6, 7), (0x1bf2, 0x1bf3, 9),
  (0x1c37, 0x1c37, 7), (0x1cd0, 0x1cd2, 230), (0x1cd4, 0x1cd4, 1), (0x1cd5, 0x1cd9, 220),
  (0x1cda, 0x1cdb, 230), (0x1cdc, 0x1cdf, 220), (0x1ce0, 0x1ce0, 230), (0x1ce2, 0x1ce8, 1),
  (0x1ced, 0x1ced, 220), (0x1cf4, 0x1cf4, 230), (0x1cf8, 0x1cf9, 230), (0x1dc0, 0x1dc1, 230),
  (0x1dc2, 0x1dc2, 220), (0x1dc3, 0x1dc9, 230), (0x1dca, 0x1dca, 220), (0x1dcb, 0x1dcc, 230),
  (0x1dcd, 0x1dcd, 234), (0x1dce, 0x1dce, 214), (0x1dcf, 0x1dcf, 220), (0x1dd0, 0x1dd0, 202),
  (0x1dd1, 0x1df5, 230), (0x1df6, 0x1df6, 232), (0x1df7, 0x1df8, 228), (0x1df9, 0x1df9, 220),
  (0x1dfa, 0x1dfa, 218), (0x1dfb, 0x1dfb, 230), (0x1dfc, 0x1dfc, 233), (0x1dfd, 0x1dfd, 220),
  (0x1dfe, 0x1dfe, 230), (0x1dff, 0x1dff, 220), (0x20d0, 0x20d1, 230), (0x20d2, 0x20d3, 1),
  (0x20d4, 0x20d7, 230), (0x20d8, 0x20da, 1), (0x20db, 0x20dc, 230), (0x20e1, 0x20e1, 230),
  (0x20e5, 0x20e6, 1), (0x20e7, 0x20e7, 230), (0x20e8, 0x20e8, 220), (0x20e9, 0x20e9, 230),
  (0x20ea, 0x20eb, 1), (0x20ec, 0x20ef, 220), (0x20f0, 0x20f0, 230), (0x2cef, 0x2cf1, 230),
  (0x2d7f, 0x2d7f, 9), (0x2de0, 0x2dff, 230), (0x302a, 0x302a, 218), (0x302b, 0x302b, 228),
  (0x302c, 0x302c, 232), (0x302d, 0x302d, 222), (0x302e, 0x302f, 224), (0x3099, 0x309a, 8),
  (0xa66f, 0xa66f, 230), (0xa674, 0xa67d, 230), (0xa69e, 0xa69f, 230), (0xa6f0, 0xa6f1, 230),
  (0xa806, 0xa806, 9), (0xa82c, 0xa82c, 9), (0xa8c4, 0xa8c4, 9), (0xa8e0, 0xa8f1, 230),
  (0xa92b, 0xa92d, 220), (0xa953, 0xa953, 9), (0xa9b3, 0xa9b3, 7), (0xa9c0, 0xa9c0, 9),
  (0xaab0, 0xaab0, 230), (0xaab2, 0xaab3, 230), (0xaab4, 0xaab4, 220), (0xaab7, 0xaab8, 230),
  (0xaabe, 0xaabf, 230), (0xaac1, 0xaac1, 230), (0xaaf6, 0xaaf6, 9), (0xabed, 0xabed, 9),
  (0xfb1e, 0xfb1e, 26), (0xfe20, 0xfe26, 230), (0xfe27, 0xfe2d, 220), (0xfe2e, 0xfe2f, 230),
  (0x101fd, 0x101fd, 220), (0x102e0, 0x102e0, 220), (0x10376, 0x1037a, 230),
  (0x10a0d, 0x10a0d, 220), (0x10a0f, 0x10a0f, 230), (0x10a38, 0x10a38, 230),
  (0x10a39, 0x10a39, 1), (0x10a3a, 0x10a3a, 220), (0x10a3f, 0x10a3f, 9), (0x10ae5, 0x10ae5, 230),
  (0x10ae6, 0x10ae6, 220), (0x10d24, 0x10d27, 230), (0x10eab, 0x10eac, 230),
  (0x10f46, 0x10f47, 220), (0x10f48, 0x10f4a, 230), (0x10f4b, 0x10f4b, 220),
  (0x10f4c, 0x10f4c, 230), (0x10f4d, 0x10f50, 220), (0x10f82, 0x10f82, 230),
  (0x10f83, 0x10f83, 220), (0x10f84, 0x10f84, 230), (0x10f85, 0x10f85, 220),
  (0x11046, 0x11046, 9), (0x11070, 0x11070, 9), (0x1107f, 0x1107f, 9), (0x110b9, 0x110b9, 9),
  (0x110ba, 0x110ba, 7), (0x11100, 0x11102, 230), (0x11133, 0x11134, 9), (0x11173, 0x11173, 7),
  (0x111c0, 0x111c0, 9), (0x111ca, 0x111ca, 7), (0x11235, 0x11235, 9), (0x11236, 0x11236, 7),
  (0x112e9, 0x112e9, 7), (0x112ea, 0x112ea, 9), (0x1133b, 0x1133c, 7), (0x1134d, 0x1134d, 9),
  (0x11366, 0x1136c, 230), (0x11370, 0x11374, 230), (0x11442, 0x11442, 9), (0x11446, 0x11446, 7),
  (0x1145e, 0x1145e, 230), (0x114c2, 0x114c2, 9), (0x114c3, 0x114c3, 7), (0x115bf, 0x115bf, 9),
  (0x115c0, 0x115c0, 7), (0x1163f, 0x1163f, 9), (0x116b6, 0x116b6, 9), (0x116b7, 0x116b7, 7),
  (0x1172b, 0x1172b, 9), (0x11839, 0x11839, 9), (0x1183a, 0x1183a, 7), (0x1193d, 0x1193e, 9),
  (0x11943, 0x11943, 7), (0x119e0, 0x119e0, 9), (0x11a34, 0x11a34, 9), (0x11a47, 0x11a47, 9),
  (0x11a99, 0x11a99, 9), (0x11c3f, 0x11c3f, 9), (0x11d42, 0x11d42, 7), (0x11d44, 0x11d45, 9),
  (0x11d97, 0x11d97, 9), (0x16af0, 0x16af4, 1), (0x16b30, 0x16b36, 230), (0x16ff0, 0x16ff1, 6),
  (0x1bc9e, 0x1bc9e, 1), (0x1d165, 0x1d166, 216), (0x1d167, 0x1d169, 1), (0x1d16d, 0x1d16d, 226),
  (0x1d16e, 0x1d172, 216), (0x1d17b, 0x1d182, 220), (0x1d185, 0x1d189, 230),
  (0x1d18a, 0x1d18b, 220), (0x1d1aa, 0x1d1ad, 230), (0x1d242, 0x1d244, 230),
  (0x1e000, 0x1e006, 230), (0x1e008, 0x1e018, 230), (0x1e01b, 0x1e021, 230),
  (0x1e023, 0x1e024, 230), (0x1e026, 0x1e02a, 230), (0x1e130, 0x1e136, 230),
  (0x1e2ae, 0x1e2ae, 230), (0x1e2ec, 0x1e2ef, 230), (0x1e8d0, 0x1e8d6, 220),
  (0x1e944, 0x1e949, 230), (0x1e94a, 0x1e94a, 7)]

end RecordForge.Text
