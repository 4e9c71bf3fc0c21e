/-!
# Decomposition of characters

Many characters are variants of others, or are made of several: letters in a special font or of a
special width, ligatures, letters with accents. Tables say what they are made of. Runs
`(first, target, count)` hold those that stand for single characters in the same order, and the
others are listed. Ideographs that were encoded twice have tables of their own. Letters with accents
are found elsewhere (`composites`).

The tables cover the characters of names.
-/

namespace Splice.Text

/-- Runs of variants of single characters. -/
def variantRuns : Array (Nat × Nat × Nat) := #[
  (0xaa, 0x61, 1), (0xb5, 0x3bc, 1), (0xba, 0x6f, 1), (0x17f, 0x73, 1), (0x2b0, 0x68, 1),
  (0x2b1, 0x266, 1), (0x2b2, 0x6a, 1), (0x2b3, 0x72, 1), (0x2b4, 0x279, 1), (0x2b5, 0x27b, 1),
  (0x2b6, 0x281, 1), (0x2b7, 0x77, 1), (0x2b8, 0x79, 1), (0x2e0, 0x263, 1), (0x2e1, 0x6c, 1),
  (0x2e2, 0x73, 1), (0x2e3, 0x78, 1), (0x2e4, 0x295, 1), (0x340, 0x300, 2), (0x343, 0x313, 1),
  (0x374, 0x2b9, 1), (0x387, 0xb7, 1), (0x3d0, 0x3b2, 1), (0x3d1, 0x3b8, 1), (0x3d2, 0x3a5, 1),
  (0x3d5, 0x3c6, 1), (0x3d6, 0x3c0, 1), (0x3f0, 0x3ba, 1), (0x3f1, 0x3c1, 2), (0x3f4, 0x398, 1),
  (0x3f5, 0x3b5, 1), (0x3f9, 0x3a3, 1), (0x10fc, 0x10dc, 1), (0x1d2c, 0x41, 1), (0x1d2d, 0xc6, 1),
  (0x1d2e, 0x42, 1), (0x1d30, 0x44, 2), (0x1d32, 0x18e, 1), (0x1d33, 0x47, 8), (0x1d3c, 0x4f, 1),
  (0x1d3d, 0x222, 1), (0x1d3e, 0x50, 1), (0x1d3f, 0x52, 1), (0x1d40, 0x54, 2), (0x1d42, 0x57, 1),
  (0x1d43, 0x61, 1), (0x1d44, 0x250, 2), (0x1d46, 0x1d02, 1), (0x1d47, 0x62, 1), (0x1d48, 0x64, 2),
  (0x1d4a, 0x259, 1), (0x1d4b, 0x25b, 2), (0x1d4d, 0x67, 1), (0x1d4f, 0x6b, 1), (0x1d50, 0x6d, 1),
  (0x1d51, 0x14b, 1), (0x1d52, 0x6f, 1), (0x1d53, 0x254, 1), (0x1d54, 0x1d16, 2), (0x1d56, 0x70, 1),
  (0x1d57, 0x74, 2), (0x1d59, 0x1d1d, 1), (0x1d5a, 0x26f, 1), (0x1d5b, 0x76, 1),
  (0x1d5c, 0x1d25, 1), (0x1d5d, 0x3b2, 3), (0x1d60, 0x3c6, 2), (0x1d62, 0x69, 1), (0x1d63, 0x72, 1),
  (0x1d64, 0x75, 2), (0x1d66, 0x3b2, 2), (0x1d68, 0x3c1, 1), (0x1d69, 0x3c6, 2), (0x1d78, 0x43d, 1),
  (0x1d9b, 0x252, 1), (0x1d9c, 0x63, 1), (0x1d9d, 0x255, 1), (0x1d9e, 0xf0, 1), (0x1d9f, 0x25c, 1),
  (0x1da0, 0x66, 1), (0x1da1, 0x25f, 1), (0x1da2, 0x261, 1), (0x1da3, 0x265, 1), (0x1da4, 0x268, 3),
  (0x1da7, 0x1d7b, 1), (0x1da8, 0x29d, 1), (0x1da9, 0x26d, 1), (0x1daa, 0x1d85, 1),
  (0x1dab, 0x29f, 1), (0x1dac, 0x271, 1), (0x1dad, 0x270, 1), (0x1dae, 0x272, 4),
  (0x1db2, 0x278, 1), (0x1db3, 0x282, 2), (0x1db5, 0x1ab, 1), (0x1db6, 0x289, 2),
  (0x1db8, 0x1d1c, 1), (0x1db9, 0x28b, 2), (0x1dbb, 0x7a, 1), (0x1dbc, 0x290, 3),
  (0x1dbf, 0x3b8, 1), (0x1fbe, 0x3b9, 1), (0x2071, 0x69, 1), (0x207f, 0x6e, 1), (0x2090, 0x61, 1),
  (0x2091, 0x65, 1), (0x2092, 0x6f, 1), (0x2093, 0x78, 1), (0x2094, 0x259, 1), (0x2095, 0x68, 1),
  (0x2096, 0x6b, 4), (0x209a, 0x70, 1), (0x209b, 0x73, 2), (0x2102, 0x43, 1), (0x2107, 0x190, 1),
  (0x210a, 0x67, 1), (0x210b, 0x48, 1), (0x210c, 0x48, 1), (0x210d, 0x48, 1), (0x210e, 0x68, 1),
  (0x210f, 0x127, 1), (0x2110, 0x49, 1), (0x2111, 0x49, 1), (0x2112, 0x4c, 1), (0x2113, 0x6c, 1),
  (0x2115, 0x4e, 1), (0x2119, 0x50, 3), (0x211c, 0x52, 1), (0x211d, 0x52, 1), (0x2124, 0x5a, 1),
  (0x2126, 0x3a9, 1), (0x2128, 0x5a, 1), (0x212a, 0x4b, 1), (0x212c, 0x42, 2), (0x212f, 0x65, 1),
  (0x2130, 0x45, 2), (0x2133, 0x4d, 1), (0x2134, 0x6f, 1), (0x2135, 0x5d0, 4), (0x2139, 0x69, 1),
  (0x213c, 0x3c0, 1), (0x213d, 0x3b3, 1), (0x213e, 0x393, 1), (0x213f, 0x3a0, 1), (0x2145, 0x44, 1),
  (0x2146, 0x64, 2), (0x2148, 0x69, 2), (0x2160, 0x49, 1), (0x2164, 0x56, 1), (0x2169, 0x58, 1),
  (0x216c, 0x4c, 1), (0x216d, 0x43, 2), (0x216f, 0x4d, 1), (0x2170, 0x69, 1), (0x2174, 0x76, 1),
  (0x2179, 0x78, 1), (0x217c, 0x6c, 1), (0x217d, 0x63, 2), (0x217f, 0x6d, 1), (0x2c7c, 0x6a, 1),
  (0x2c7d, 0x56, 1), (0x2d6f, 0x2d61, 1), (0x3038, 0x5341, 1), (0x3039, 0x5344, 2),
  (0x3131, 0x1100, 2), (0x3133, 0x11aa, 1), (0x3134, 0x1102, 1), (0x3135, 0x11ac, 2),
  (0x3137, 0x1103, 3), (0x313a, 0x11b0, 6), (0x3140, 0x111a, 1), (0x3141, 0x1106, 3),
  (0x3144, 0x1121, 1), (0x3145, 0x1109, 10), (0x314f, 0x1161, 21), (0x3164, 0x1160, 1),
  (0x3165, 0x1114, 2), (0x3167, 0x11c7, 2), (0x3169, 0x11cc, 1), (0x316a, 0x11ce, 1),
  (0x316b, 0x11d3, 1), (0x316c, 0x11d7, 1), (0x316d, 0x11d9, 1), (0x316e, 0x111c, 1),
  (0x316f, 0x11dd, 1), (0x3170, 0x11df, 1), (0x3171, 0x111d, 2), (0x3173, 0x1120, 1),
  (0x3174, 0x1122, 2), (0x3176, 0x1127, 1), (0x3177, 0x1129, 1), (0x3178, 0x112b, 5),
  (0x317d, 0x1132, 1), (0x317e, 0x1136, 1), (0x317f, 0x1140, 1), (0x3180, 0x1147, 1),
  (0x3181, 0x114c, 1), (0x3182, 0x11f1, 2), (0x3184, 0x1157, 3), (0x3187, 0x1184, 2),
  (0x3189, 0x1188, 1), (0x318a, 0x1191, 2), (0x318c, 0x1194, 1), (0x318d, 0x119e, 1),
  (0x318e, 0x11a1, 1), (0xa69c, 0x44a, 1), (0xa69d, 0x44c, 1), (0xa770, 0xa76f, 1),
  (0xa7f2, 0x43, 1), (0xa7f3, 0x46, 1), (0xa7f4, 0x51, 1), (0xa7f8, 0x126, 1), (0xa7f9, 0x153, 1),
  (0xab5c, 0xa727, 1), (0xab5d, 0xab37, 1), (0xab5e, 0x26b, 1), (0xab5f, 0xab52, 1),
  (0xab69, 0x28d, 1), (0xfb20, 0x5e2, 1), (0xfb21, 0x5d0, 1), (0xfb22, 0x5d3, 2),
  (0xfb24, 0x5db, 3), (0xfb27, 0x5e8, 1), (0xfb28, 0x5ea, 1), (0xfb50, 0x671, 1),
  (0xfb51, 0x671, 1), (0xfb52, 0x67b, 1), (0xfb53, 0x67b, 1), (0xfb54, 0x67b, 1),
  (0xfb55, 0x67b, 1), (0xfb56, 0x67e, 1), (0xfb57, 0x67e, 1), (0xfb58, 0x67e, 1),
  (0xfb59, 0x67e, 1), (0xfb5a, 0x680, 1), (0xfb5b, 0x680, 1), (0xfb5c, 0x680, 1),
  (0xfb5d, 0x680, 1), (0xfb5e, 0x67a, 1), (0xfb5f, 0x67a, 1), (0xfb60, 0x67a, 1),
  (0xfb61, 0x67a, 1), (0xfb62, 0x67f, 1), (0xfb63, 0x67f, 1), (0xfb64, 0x67f, 1),
  (0xfb65, 0x67f, 1), (0xfb66, 0x679, 1), (0xfb67, 0x679, 1), (0xfb68, 0x679, 1),
  (0xfb69, 0x679, 1), (0xfb6a, 0x6a4, 1), (0xfb6b, 0x6a4, 1), (0xfb6c, 0x6a4, 1),
  (0xfb6d, 0x6a4, 1), (0xfb6e, 0x6a6, 1), (0xfb6f, 0x6a6, 1), (0xfb70, 0x6a6, 1),
  (0xfb71, 0x6a6, 1), (0xfb72, 0x684, 1), (0xfb73, 0x684, 1), (0xfb74, 0x684, 1),
  (0xfb75, 0x684, 1), (0xfb76, 0x683, 1), (0xfb77, 0x683, 1), (0xfb78, 0x683, 1),
  (0xfb79, 0x683, 1), (0xfb7a, 0x686, 1), (0xfb7b, 0x686, 1), (0xfb7c, 0x686, 1),
  (0xfb7d, 0x686, 2), (0xfb7f, 0x687, 1), (0xfb80, 0x687, 1), (0xfb81, 0x687, 1),
  (0xfb82, 0x68d, 1), (0xfb83, 0x68d, 1), (0xfb84, 0x68c, 1), (0xfb85, 0x68c, 1),
  (0xfb86, 0x68e, 1), (0xfb87, 0x68e, 1), (0xfb88, 0x688, 1), (0xfb89, 0x688, 1),
  (0xfb8a, 0x698, 1), (0xfb8b, 0x698, 1), (0xfb8c, 0x691, 1), (0xfb8d, 0x691, 1),
  (0xfb8e, 0x6a9, 1), (0xfb8f, 0x6a9, 1), (0xfb90, 0x6a9, 1), (0xfb91, 0x6a9, 1),
  (0xfb92, 0x6af, 1), (0xfb93, 0x6af, 1), (0xfb94, 0x6af, 1), (0xfb95, 0x6af, 1),
  (0xfb96, 0x6b3, 1), (0xfb97, 0x6b3, 1), (0xfb98, 0x6b3, 1), (0xfb99, 0x6b3, 1),
  (0xfb9a, 0x6b1, 1), (0xfb9b, 0x6b1, 1), (0xfb9c, 0x6b1, 1), (0xfb9d, 0x6b1, 1),
  (0xfb9e, 0x6ba, 1), (0xfb9f, 0x6ba, 2), (0xfba1, 0x6bb, 1), (0xfba2, 0x6bb, 1),
  (0xfba3, 0x6bb, 1), (0xfba6, 0x6c1, 1), (0xfba7, 0x6c1, 1), (0xfba8, 0x6c1, 1),
  (0xfba9, 0x6c1, 1), (0xfbaa, 0x6be, 1), (0xfbab, 0x6be, 1), (0xfbac, 0x6be, 1),
  (0xfbad, 0x6be, 1), (0xfbae, 0x6d2, 1), (0xfbaf, 0x6d2, 1), (0xfbd3, 0x6ad, 1),
  (0xfbd4, 0x6ad, 1), (0xfbd5, 0x6ad, 1), (0xfbd6, 0x6ad, 1), (0xfbd7, 0x6c7, 1),
  (0xfbd8, 0x6c7, 1), (0xfbd9, 0x6c6, 1), (0xfbda, 0x6c6, 1), (0xfbdb, 0x6c8, 1),
  (0xfbdc, 0x6c8, 1), (0xfbde, 0x6cb, 1), (0xfbdf, 0x6cb, 1), (0xfbe0, 0x6c5, 1),
  (0xfbe1, 0x6c5, 1), (0xfbe2, 0x6c9, 1), (0xfbe3, 0x6c9, 1), (0xfbe4, 0x6d0, 1),
  (0xfbe5, 0x6d0, 1), (0xfbe6, 0x6d0, 1), (0xfbe7, 0x6d0, 1), (0xfbe8, 0x649, 1),
  (0xfbe9, 0x649, 1), (0xfbfc, 0x6cc, 1), (0xfbfd, 0x6cc, 1), (0xfbfe, 0x6cc, 1),
  (0xfbff, 0x6cc, 1), (0xfe33, 0x5f, 1), (0xfe34, 0x5f, 1), (0xfe4d, 0x5f, 1), (0xfe4e, 0x5f, 1),
  (0xfe4f, 0x5f, 1), (0xfe80, 0x621, 1), (0xfe8d, 0x627, 1), (0xfe8e, 0x627, 2), (0xfe90, 0x628, 1),
  (0xfe91, 0x628, 1), (0xfe92, 0x628, 2), (0xfe94, 0x629, 2), (0xfe96, 0x62a, 1),
  (0xfe97, 0x62a, 1), (0xfe98, 0x62a, 2), (0xfe9a, 0x62b, 1), (0xfe9b, 0x62b, 1),
  (0xfe9c, 0x62b, 2), (0xfe9e, 0x62c, 1), (0xfe9f, 0x62c, 1), (0xfea0, 0x62c, 2),
  (0xfea2, 0x62d, 1), (0xfea3, 0x62d, 1), (0xfea4, 0x62d, 2), (0xfea6, 0x62e, 1),
  (0xfea7, 0x62e, 1), (0xfea8, 0x62e, 2), (0xfeaa, 0x62f, 2), (0xfeac, 0x630, 2),
  (0xfeae, 0x631, 2), (0xfeb0, 0x632, 2), (0xfeb2, 0x633, 1), (0xfeb3, 0x633, 1),
  (0xfeb4, 0x633, 2), (0xfeb6, 0x634, 1), (0xfeb7, 0x634, 1), (0xfeb8, 0x634, 2),
  (0xfeba, 0x635, 1), (0xfebb, 0x635, 1), (0xfebc, 0x635, 2), (0xfebe, 0x636, 1),
  (0xfebf, 0x636, 1), (0xfec0, 0x636, 2), (0xfec2, 0x637, 1), (0xfec3, 0x637, 1),
  (0xfec4, 0x637, 2), (0xfec6, 0x638, 1), (0xfec7, 0x638, 1), (0xfec8, 0x638, 2),
  (0xfeca, 0x639, 1), (0xfecb, 0x639, 1), (0xfecc, 0x639, 2), (0xfece, 0x63a, 1),
  (0xfecf, 0x63a, 1), (0xfed0, 0x63a, 1), (0xfed1, 0x641, 1), (0xfed2, 0x641, 1),
  (0xfed3, 0x641, 1), (0xfed4, 0x641, 2), (0xfed6, 0x642, 1), (0xfed7, 0x642, 1),
  (0xfed8, 0x642, 2), (0xfeda, 0x643, 1), (0xfedb, 0x643, 1), (0xfedc, 0x643, 2),
  (0xfede, 0x644, 1), (0xfedf, 0x644, 1), (0xfee0, 0x644, 2), (0xfee2, 0x645, 1),
  (0xfee3, 0x645, 1), (0xfee4, 0x645, 2), (0xfee6, 0x646, 1), (0xfee7, 0x646, 1),
  (0xfee8, 0x646, 2), (0xfeea, 0x647, 1), (0xfeeb, 0x647, 1), (0xfeec, 0x647, 2),
  (0xfeee, 0x648, 2), (0xfef0, 0x649, 2), (0xfef2, 0x64a, 1), (0xfef3, 0x64a, 1),
  (0xfef4, 0x64a, 1), (0xff10, 0x30, 10), (0xff21, 0x41, 26), (0xff3f, 0x5f, 1), (0xff41, 0x61, 26),
  (0xff66, 0x30f2, 1), (0xff67, 0x30a1, 1), (0xff68, 0x30a3, 1), (0xff69, 0x30a5, 1),
  (0xff6a, 0x30a7, 1), (0xff6b, 0x30a9, 1), (0xff6c, 0x30e3, 1), (0xff6d, 0x30e5, 1),
  (0xff6e, 0x30e7, 1), (0xff6f, 0x30c3, 1), (0xff70, 0x30fc, 1), (0xff71, 0x30a2, 1),
  (0xff72, 0x30a4, 1), (0xff73, 0x30a6, 1), (0xff74, 0x30a8, 1), (0xff75, 0x30aa, 2),
  (0xff77, 0x30ad, 1), (0xff78, 0x30af, 1), (0xff79, 0x30b1, 1), (0xff7a, 0x30b3, 1),
  (0xff7b, 0x30b5, 1), (0xff7c, 0x30b7, 1), (0xff7d, 0x30b9, 1), (0xff7e, 0x30bb, 1),
  (0xff7f, 0x30bd, 1), (0xff80, 0x30bf, 1), (0xff81, 0x30c1, 1), (0xff82, 0x30c4, 1),
  (0xff83, 0x30c6, 1), (0xff84, 0x30c8, 1), (0xff85, 0x30ca, 6), (0xff8b, 0x30d2, 1),
  (0xff8c, 0x30d5, 1), (0xff8d, 0x30d8, 1), (0xff8e, 0x30db, 1), (0xff8f, 0x30de, 5),
  (0xff94, 0x30e4, 1), (0xff95, 0x30e6, 1), (0xff96, 0x30e8, 6), (0xff9c, 0x30ef, 1),
  (0xff9d, 0x30f3, 1), (0xff9e, 0x3099, 2), (0xffa0, 0x1160, 1), (0xffa1, 0x1100, 2),
  (0xffa3, 0x11aa, 1), (0xffa4, 0x1102, 1), (0xffa5, 0x11ac, 2), (0xffa7, 0x1103, 3),
  (0xffaa, 0x11b0, 6), (0xffb0, 0x111a, 1), (0xffb1, 0x1106, 3), (0xffb4, 0x1121, 1),
  (0xffb5, 0x1109, 10), (0xffc2, 0x1161, 6), (0xffca, 0x1167, 6), (0xffd2, 0x116d, 6),
  (0xffda, 0x1173, 3), (0x10781, 0x2d0, 2), (0x10783, 0xe6, 1), (0x10784, 0x299, 1),
  (0x10785, 0x253, 1), (0x10787, 0x2a3, 1), (0x10788, 0xab66, 1), (0x10789, 0x2a5, 1),
  (0x1078a, 0x2a4, 1), (0x1078b, 0x256, 2), (0x1078d, 0x1d91, 1), (0x1078e, 0x258, 1),
  (0x1078f, 0x25e, 1), (0x10790, 0x2a9, 1), (0x10791, 0x264, 1), (0x10792, 0x262, 1),
  (0x10793, 0x260, 1), (0x10794, 0x29b, 1), (0x10795, 0x127, 1), (0x10796, 0x29c, 1),
  (0x10797, 0x267, 1), (0x10798, 0x284, 1), (0x10799, 0x2aa, 2), (0x1079b, 0x26c, 1),
  (0x1079c, 0x1df04, 1), (0x1079d, 0xa78e, 1), (0x1079e, 0x26e, 1), (0x1079f, 0x1df05, 1),
  (0x107a0, 0x28e, 1), (0x107a1, 0x1df06, 1), (0x107a2, 0xf8, 1), (0x107a3, 0x276, 2),
  (0x107a5, 0x71, 1), (0x107a6, 0x27a, 1), (0x107a7, 0x1df08, 1), (0x107a8, 0x27d, 2),
  (0x107aa, 0x280, 1), (0x107ab, 0x2a8, 1), (0x107ac, 0x2a6, 1), (0x107ad, 0xab67, 1),
  (0x107ae, 0x2a7, 1), (0x107af, 0x288, 1), (0x107b0, 0x2c71, 1), (0x107b2, 0x28f, 1),
  (0x107b3, 0x2a1, 2), (0x107b5, 0x298, 1), (0x107b6, 0x1c0, 3), (0x107b9, 0x1df0a, 1),
  (0x107ba, 0x1df1e, 1), (0x1d400, 0x41, 26), (0x1d41a, 0x61, 26), (0x1d434, 0x41, 26),
  (0x1d44e, 0x61, 7), (0x1d456, 0x69, 18), (0x1d468, 0x41, 26), (0x1d482, 0x61, 26),
  (0x1d49c, 0x41, 1), (0x1d49e, 0x43, 2), (0x1d4a2, 0x47, 1), (0x1d4a5, 0x4a, 2),
  (0x1d4a9, 0x4e, 4), (0x1d4ae, 0x53, 8), (0x1d4b6, 0x61, 4), (0x1d4bb, 0x66, 1),
  (0x1d4bd, 0x68, 7), (0x1d4c5, 0x70, 11), (0x1d4d0, 0x41, 26), (0x1d4ea, 0x61, 26),
  (0x1d504, 0x41, 2), (0x1d507, 0x44, 4), (0x1d50d, 0x4a, 8), (0x1d516, 0x53, 7),
  (0x1d51e, 0x61, 26), (0x1d538, 0x41, 2), (0x1d53b, 0x44, 4), (0x1d540, 0x49, 5),
  (0x1d546, 0x4f, 1), (0x1d54a, 0x53, 7), (0x1d552, 0x61, 26), (0x1d56c, 0x41, 26),
  (0x1d586, 0x61, 26), (0x1d5a0, 0x41, 26), (0x1d5ba, 0x61, 26), (0x1d5d4, 0x41, 26),
  (0x1d5ee, 0x61, 26), (0x1d608, 0x41, 26), (0x1d622, 0x61, 26), (0x1d63c, 0x41, 26),
  (0x1d656, 0x61, 26), (0x1d670, 0x41, 26), (0x1d68a, 0x61, 26), (0x1d6a4, 0x131, 1),
  (0x1d6a5, 0x237, 1), (0x1d6a8, 0x391, 17), (0x1d6b9, 0x398, 1), (0x1d6ba, 0x3a3, 7),
  (0x1d6c2, 0x3b1, 25), (0x1d6dc, 0x3b5, 1), (0x1d6dd, 0x3b8, 1), (0x1d6de, 0x3ba, 1),
  (0x1d6df, 0x3c6, 1), (0x1d6e0, 0x3c1, 1), (0x1d6e1, 0x3c0, 1), (0x1d6e2, 0x391, 17),
  (0x1d6f3, 0x398, 1), (0x1d6f4, 0x3a3, 7), (0x1d6fc, 0x3b1, 25), (0x1d716, 0x3b5, 1),
  (0x1d717, 0x3b8, 1), (0x1d718, 0x3ba, 1), (0x1d719, 0x3c6, 1), (0x1d71a, 0x3c1, 1),
  (0x1d71b, 0x3c0, 1), (0x1d71c, 0x391, 17), (0x1d72d, 0x398, 1), (0x1d72e, 0x3a3, 7),
  (0x1d736, 0x3b1, 25), (0x1d750, 0x3b5, 1), (0x1d751, 0x3b8, 1), (0x1d752, 0x3ba, 1),
  (0x1d753, 0x3c6, 1), (0x1d754, 0x3c1, 1), (0x1d755, 0x3c0, 1), (0x1d756, 0x391, 17),
  (0x1d767, 0x398, 1), (0x1d768, 0x3a3, 7), (0x1d770, 0x3b1, 25), (0x1d78a, 0x3b5, 1),
  (0x1d78b, 0x3b8, 1), (0x1d78c, 0x3ba, 1), (0x1d78d, 0x3c6, 1), (0x1d78e, 0x3c1, 1),
  (0x1d78f, 0x3c0, 1), (0x1d790, 0x391, 17), (0x1d7a1, 0x398, 1), (0x1d7a2, 0x3a3, 7),
  (0x1d7aa, 0x3b1, 25), (0x1d7c4, 0x3b5, 1), (0x1d7c5, 0x3b8, 1), (0x1d7c6, 0x3ba, 1),
  (0x1d7c7, 0x3c6, 1), (0x1d7c8, 0x3c1, 1), (0x1d7c9, 0x3c0, 1), (0x1d7ca, 0x3dc, 2),
  (0x1d7ce, 0x30, 10), (0x1d7d8, 0x30, 10), (0x1d7e2, 0x30, 10), (0x1d7ec, 0x30, 10),
  (0x1d7f6, 0x30, 10), (0x1ee00, 0x627, 2), (0x1ee02, 0x62c, 1), (0x1ee03, 0x62f, 1),
  (0x1ee05, 0x648, 1), (0x1ee06, 0x632, 1), (0x1ee07, 0x62d, 1), (0x1ee08, 0x637, 1),
  (0x1ee09, 0x64a, 1), (0x1ee0a, 0x643, 4), (0x1ee0e, 0x633, 1), (0x1ee0f, 0x639, 1),
  (0x1ee10, 0x641, 1), (0x1ee11, 0x635, 1), (0x1ee12, 0x642, 1), (0x1ee13, 0x631, 1),
  (0x1ee14, 0x634, 1), (0x1ee15, 0x62a, 2), (0x1ee17, 0x62e, 1), (0x1ee18, 0x630, 1),
  (0x1ee19, 0x636, 1), (0x1ee1a, 0x638, 1), (0x1ee1b, 0x63a, 1), (0x1ee1c, 0x66e, 1),
  (0x1ee1d, 0x6ba, 1), (0x1ee1e, 0x6a1, 1), (0x1ee1f, 0x66f, 1), (0x1ee21, 0x628, 1),
  (0x1ee22, 0x62c, 1), (0x1ee24, 0x647, 1), (0x1ee27, 0x62d, 1), (0x1ee29, 0x64a, 1),
  (0x1ee2a, 0x643, 4), (0x1ee2e, 0x633, 1), (0x1ee2f, 0x639, 1), (0x1ee30, 0x641, 1),
  (0x1ee31, 0x635, 1), (0x1ee32, 0x642, 1), (0x1ee34, 0x634, 1), (0x1ee35, 0x62a, 2),
  (0x1ee37, 0x62e, 1), (0x1ee39, 0x636, 1), (0x1ee3b, 0x63a, 1), (0x1ee42, 0x62c, 1),
  (0x1ee47, 0x62d, 1), (0x1ee49, 0x64a, 1), (0x1ee4b, 0x644, 1), (0x1ee4d, 0x646, 1),
  (0x1ee4e, 0x633, 1), (0x1ee4f, 0x639, 1), (0x1ee51, 0x635, 1), (0x1ee52, 0x642, 1),
  (0x1ee54, 0x634, 1), (0x1ee57, 0x62e, 1), (0x1ee59, 0x636, 1), (0x1ee5b, 0x63a, 1),
  (0x1ee5d, 0x6ba, 1), (0x1ee5f, 0x66f, 1), (0x1ee61, 0x628, 1), (0x1ee62, 0x62c, 1),
  (0x1ee64, 0x647, 1), (0x1ee67, 0x62d, 1), (0x1ee68, 0x637, 1), (0x1ee69, 0x64a, 1),
  (0x1ee6a, 0x643, 1), (0x1ee6c, 0x645, 2), (0x1ee6e, 0x633, 1), (0x1ee6f, 0x639, 1),
  (0x1ee70, 0x641, 1), (0x1ee71, 0x635, 1), (0x1ee72, 0x642, 1), (0x1ee74, 0x634, 1),
  (0x1ee75, 0x62a, 2), (0x1ee77, 0x62e, 1), (0x1ee79, 0x636, 1), (0x1ee7a, 0x638, 1),
  (0x1ee7b, 0x63a, 1), (0x1ee7c, 0x66e, 1), (0x1ee7e, 0x6a1, 1), (0x1ee80, 0x627, 2),
  (0x1ee82, 0x62c, 1), (0x1ee83, 0x62f, 1), (0x1ee84, 0x647, 2), (0x1ee86, 0x632, 1),
  (0x1ee87, 0x62d, 1), (0x1ee88, 0x637, 1), (0x1ee89, 0x64a, 1), (0x1ee8b, 0x644, 3),
  (0x1ee8e, 0x633, 1), (0x1ee8f, 0x639, 1), (0x1ee90, 0x641, 1), (0x1ee91, 0x635, 1),
  (0x1ee92, 0x642, 1), (0x1ee93, 0x631, 1), (0x1ee94, 0x634, 1), (0x1ee95, 0x62a, 2),
  (0x1ee97, 0x62e, 1), (0x1ee98, 0x630, 1), (0x1ee99, 0x636, 1), (0x1ee9a, 0x638, 1),
  (0x1ee9b, 0x63a, 1), (0x1eea1, 0x628, 1), (0x1eea2, 0x62c, 1), (0x1eea3, 0x62f, 1),
  (0x1eea5, 0x648, 1), (0x1eea6, 0x632, 1), (0x1eea7, 0x62d, 1), (0x1eea8, 0x637, 1),
  (0x1eea9, 0x64a, 1), (0x1eeab, 0x644, 3), (0x1eeae, 0x633, 1), (0x1eeaf, 0x639, 1),
  (0x1eeb0, 0x641, 1), (0x1eeb1, 0x635, 1), (0x1eeb2, 0x642, 1), (0x1eeb3, 0x631, 1),
  (0x1eeb4, 0x634, 1), (0x1eeb5, 0x62a, 2), (0x1eeb7, 0x62e, 1), (0x1eeb8, 0x630, 1),
  (0x1eeb9, 0x636, 1), (0x1eeba, 0x638, 1), (0x1eebb, 0x63a, 1), (0x1fbf0, 0x30, 10)]

/-- Characters that stand for several. -/
def expansions : Array (Nat × List Nat) := #[
  (0x132, [0x49, 0x4a]), (0x133, [0x69, 0x6a]), (0x13f, [0x4c, 0xb7]), (0x140, [0x6c, 0xb7]),
  (0x149, [0x2bc, 0x6e]), (0x1c4, [0x44, 0x5a, 0x30c]), (0x1c5, [0x44, 0x7a, 0x30c]),
  (0x1c6, [0x64, 0x7a, 0x30c]), (0x1c7, [0x4c, 0x4a]), (0x1c8, [0x4c, 0x6a]), (0x1c9, [0x6c, 0x6a]),
  (0x1ca, [0x4e, 0x4a]), (0x1cb, [0x4e, 0x6a]), (0x1cc, [0x6e, 0x6a]), (0x1f1, [0x44, 0x5a]),
  (0x1f2, [0x44, 0x7a]), (0x1f3, [0x64, 0x7a]), (0x344, [0x308, 0x301]), (0x3d3, [0x3a5, 0x301]),
  (0x3d4, [0x3a5, 0x308]), (0x587, [0x565, 0x582]), (0x675, [0x627, 0x674]),
  (0x676, [0x648, 0x674]), (0x677, [0x6c7, 0x674]), (0x678, [0x64a, 0x674]),
  (0x958, [0x915, 0x93c]), (0x959, [0x916, 0x93c]), (0x95a, [0x917, 0x93c]),
  (0x95b, [0x91c, 0x93c]), (0x95c, [0x921, 0x93c]), (0x95d, [0x922, 0x93c]),
  (0x95e, [0x92b, 0x93c]), (0x95f, [0x92f, 0x93c]), (0x9dc, [0x9a1, 0x9bc]),
  (0x9dd, [0x9a2, 0x9bc]), (0x9df, [0x9af, 0x9bc]), (0xa33, [0xa32, 0xa3c]),
  (0xa36, [0xa38, 0xa3c]), (0xa59, [0xa16, 0xa3c]), (0xa5a, [0xa17, 0xa3c]),
  (0xa5b, [0xa1c, 0xa3c]), (0xa5e, [0xa2b, 0xa3c]), (0xb5c, [0xb21, 0xb3c]),
  (0xb5d, [0xb22, 0xb3c]), (0xe33, [0xe4d, 0xe32]), (0xeb3, [0xecd, 0xeb2]),
  (0xedc, [0xeab, 0xe99]), (0xedd, [0xeab, 0xea1]), (0xf43, [0xf42, 0xfb7]),
  (0xf4d, [0xf4c, 0xfb7]), (0xf52, [0xf51, 0xfb7]), (0xf57, [0xf56, 0xfb7]),
  (0xf5c, [0xf5b, 0xfb7]), (0xf69, [0xf40, 0xfb5]), (0xf73, [0xf71, 0xf72]),
  (0xf75, [0xf71, 0xf74]), (0xf76, [0xfb2, 0xf80]), (0xf77, [0xfb2, 0xf71, 0xf80]),
  (0xf78, [0xfb3, 0xf80]), (0xf79, [0xfb3, 0xf71, 0xf80]), (0xf81, [0xf71, 0xf80]),
  (0xf93, [0xf92, 0xfb7]), (0xf9d, [0xf9c, 0xfb7]), (0xfa2, [0xfa1, 0xfb7]),
  (0xfa7, [0xfa6, 0xfb7]), (0xfac, [0xfab, 0xfb7]), (0xfb9, [0xf90, 0xfb5]),
  (0x1e9a, [0x61, 0x2be]), (0x1e9b, [0x73, 0x307]), (0x1f71, [0x3b1, 0x301]),
  (0x1f73, [0x3b5, 0x301]), (0x1f75, [0x3b7, 0x301]), (0x1f77, [0x3b9, 0x301]),
  (0x1f79, [0x3bf, 0x301]), (0x1f7b, [0x3c5, 0x301]), (0x1f7d, [0x3c9, 0x301]),
  (0x1fbb, [0x391, 0x301]), (0x1fc9, [0x395, 0x301]), (0x1fcb, [0x397, 0x301]),
  (0x1fd3, [0x3b9, 0x308, 0x301]), (0x1fdb, [0x399, 0x301]), (0x1fe3, [0x3c5, 0x308, 0x301]),
  (0x1feb, [0x3a5, 0x301]), (0x1ff9, [0x39f, 0x301]), (0x1ffb, [0x3a9, 0x301]),
  (0x212b, [0x41, 0x30a]), (0x2161, [0x49, 0x49]), (0x2162, [0x49, 0x49, 0x49]),
  (0x2163, [0x49, 0x56]), (0x2165, [0x56, 0x49]), (0x2166, [0x56, 0x49, 0x49]),
  (0x2167, [0x56, 0x49, 0x49, 0x49]), (0x2168, [0x49, 0x58]), (0x216a, [0x58, 0x49]),
  (0x216b, [0x58, 0x49, 0x49]), (0x2171, [0x69, 0x69]), (0x2172, [0x69, 0x69, 0x69]),
  (0x2173, [0x69, 0x76]), (0x2175, [0x76, 0x69]), (0x2176, [0x76, 0x69, 0x69]),
  (0x2177, [0x76, 0x69, 0x69, 0x69]), (0x2178, [0x69, 0x78]), (0x217a, [0x78, 0x69]),
  (0x217b, [0x78, 0x69, 0x69]), (0x309f, [0x3088, 0x308a]), (0x30ff, [0x30b3, 0x30c8]),
  (0xfb00, [0x66, 0x66]), (0xfb01, [0x66, 0x69]), (0xfb02, [0x66, 0x6c]),
  (0xfb03, [0x66, 0x66, 0x69]), (0xfb04, [0x66, 0x66, 0x6c]), (0xfb05, [0x73, 0x74]),
  (0xfb06, [0x73, 0x74]), (0xfb13, [0x574, 0x576]), (0xfb14, [0x574, 0x565]),
  (0xfb15, [0x574, 0x56b]), (0xfb16, [0x57e, 0x576]), (0xfb17, [0x574, 0x56d]),
  (0xfb1d, [0x5d9, 0x5b4]), (0xfb1f, [0x5f2, 0x5b7]), (0xfb2a, [0x5e9, 0x5c1]),
  (0xfb2b, [0x5e9, 0x5c2]), (0xfb2c, [0x5e9, 0x5bc, 0x5c1]), (0xfb2d, [0x5e9, 0x5bc, 0x5c2]),
  (0xfb2e, [0x5d0, 0x5b7]), (0xfb2f, [0x5d0, 0x5b8]), (0xfb30, [0x5d0, 0x5bc]),
  (0xfb31, [0x5d1, 0x5bc]), (0xfb32, [0x5d2, 0x5bc]), (0xfb33, [0x5d3, 0x5bc]),
  (0xfb34, [0x5d4, 0x5bc]), (0xfb35, [0x5d5, 0x5bc]), (0xfb36, [0x5d6, 0x5bc]),
  (0xfb38, [0x5d8, 0x5bc]), (0xfb39, [0x5d9, 0x5bc]), (0xfb3a, [0x5da, 0x5bc]),
  (0xfb3b, [0x5db, 0x5bc]), (0xfb3c, [0x5dc, 0x5bc]), (0xfb3e, [0x5de, 0x5bc]),
  (0xfb40, [0x5e0, 0x5bc]), (0xfb41, [0x5e1, 0x5bc]), (0xfb43, [0x5e3, 0x5bc]),
  (0xfb44, [0x5e4, 0x5bc]), (0xfb46, [0x5e6, 0x5bc]), (0xfb47, [0x5e7, 0x5bc]),
  (0xfb48, [0x5e8, 0x5bc]), (0xfb49, [0x5e9, 0x5bc]), (0xfb4a, [0x5ea, 0x5bc]),
  (0xfb4b, [0x5d5, 0x5b9]), (0xfb4c, [0x5d1, 0x5bf]), (0xfb4d, [0x5db, 0x5bf]),
  (0xfb4e, [0x5e4, 0x5bf]), (0xfb4f, [0x5d0, 0x5dc]), (0xfba4, [0x6d5, 0x654]),
  (0xfba5, [0x6d5, 0x654]), (0xfbb0, [0x6d2, 0x654]), (0xfbb1, [0x6d2, 0x654]),
  (0xfbdd, [0x6c7, 0x674]), (0xfbea, [0x64a, 0x654, 0x627]), (0xfbeb, [0x64a, 0x654, 0x627]),
  (0xfbec, [0x64a, 0x654, 0x6d5]), (0xfbed, [0x64a, 0x654, 0x6d5]), (0xfbee, [0x64a, 0x654, 0x648]),
  (0xfbef, [0x64a, 0x654, 0x648]), (0xfbf0, [0x64a, 0x654, 0x6c7]), (0xfbf1, [0x64a, 0x654, 0x6c7]),
  (0xfbf2, [0x64a, 0x654, 0x6c6]), (0xfbf3, [0x64a, 0x654, 0x6c6]), (0xfbf4, [0x64a, 0x654, 0x6c8]),
  (0xfbf5, [0x64a, 0x654, 0x6c8]), (0xfbf6, [0x64a, 0x654, 0x6d0]), (0xfbf7, [0x64a, 0x654, 0x6d0]),
  (0xfbf8, [0x64a, 0x654, 0x6d0]), (0xfbf9, [0x64a, 0x654, 0x649]), (0xfbfa, [0x64a, 0x654, 0x649]),
  (0xfbfb, [0x64a, 0x654, 0x649]), (0xfc00, [0x64a, 0x654, 0x62c]), (0xfc01, [0x64a, 0x654, 0x62d]),
  (0xfc02, [0x64a, 0x654, 0x645]), (0xfc03, [0x64a, 0x654, 0x649]), (0xfc04, [0x64a, 0x654, 0x64a]),
  (0xfc05, [0x628, 0x62c]), (0xfc06, [0x628, 0x62d]), (0xfc07, [0x628, 0x62e]),
  (0xfc08, [0x628, 0x645]), (0xfc09, [0x628, 0x649]), (0xfc0a, [0x628, 0x64a]),
  (0xfc0b, [0x62a, 0x62c]), (0xfc0c, [0x62a, 0x62d]), (0xfc0d, [0x62a, 0x62e]),
  (0xfc0e, [0x62a, 0x645]), (0xfc0f, [0x62a, 0x649]), (0xfc10, [0x62a, 0x64a]),
  (0xfc11, [0x62b, 0x62c]), (0xfc12, [0x62b, 0x645]), (0xfc13, [0x62b, 0x649]),
  (0xfc14, [0x62b, 0x64a]), (0xfc15, [0x62c, 0x62d]), (0xfc16, [0x62c, 0x645]),
  (0xfc17, [0x62d, 0x62c]), (0xfc18, [0x62d, 0x645]), (0xfc19, [0x62e, 0x62c]),
  (0xfc1a, [0x62e, 0x62d]), (0xfc1b, [0x62e, 0x645]), (0xfc1c, [0x633, 0x62c]),
  (0xfc1d, [0x633, 0x62d]), (0xfc1e, [0x633, 0x62e]), (0xfc1f, [0x633, 0x645]),
  (0xfc20, [0x635, 0x62d]), (0xfc21, [0x635, 0x645]), (0xfc22, [0x636, 0x62c]),
  (0xfc23, [0x636, 0x62d]), (0xfc24, [0x636, 0x62e]), (0xfc25, [0x636, 0x645]),
  (0xfc26, [0x637, 0x62d]), (0xfc27, [0x637, 0x645]), (0xfc28, [0x638, 0x645]),
  (0xfc29, [0x639, 0x62c]), (0xfc2a, [0x639, 0x645]), (0xfc2b, [0x63a, 0x62c]),
  (0xfc2c, [0x63a, 0x645]), (0xfc2d, [0x641, 0x62c]), (0xfc2e, [0x641, 0x62d]),
  (0xfc2f, [0x641, 0x62e]), (0xfc30, [0x641, 0x645]), (0xfc31, [0x641, 0x649]),
  (0xfc32, [0x641, 0x64a]), (0xfc33, [0x642, 0x62d]), (0xfc34, [0x642, 0x645]),
  (0xfc35, [0x642, 0x649]), (0xfc36, [0x642, 0x64a]), (0xfc37, [0x643, 0x627]),
  (0xfc38, [0x643, 0x62c]), (0xfc39, [0x643, 0x62d]), (0xfc3a, [0x643, 0x62e]),
  (0xfc3b, [0x643, 0x644]), (0xfc3c, [0x643, 0x645]), (0xfc3d, [0x643, 0x649]),
  (0xfc3e, [0x643, 0x64a]), (0xfc3f, [0x644, 0x62c]), (0xfc40, [0x644, 0x62d]),
  (0xfc41, [0x644, 0x62e]), (0xfc42, [0x644, 0x645]), (0xfc43, [0x644, 0x649]),
  (0xfc44, [0x644, 0x64a]), (0xfc45, [0x645, 0x62c]), (0xfc46, [0x645, 0x62d]),
  (0xfc47, [0x645, 0x62e]), (0xfc48, [0x645, 0x645]), (0xfc49, [0x645, 0x649]),
  (0xfc4a, [0x645, 0x64a]), (0xfc4b, [0x646, 0x62c]), (0xfc4c, [0x646, 0x62d]),
  (0xfc4d, [0x646, 0x62e]), (0xfc4e, [0x646, 0x645]), (0xfc4f, [0x646, 0x649]),
  (0xfc50, [0x646, 0x64a]), (0xfc51, [0x647, 0x62c]), (0xfc52, [0x647, 0x645]),
  (0xfc53, [0x647, 0x649]), (0xfc54, [0x647, 0x64a]), (0xfc55, [0x64a, 0x62c]),
  (0xfc56, [0x64a, 0x62d]), (0xfc57, [0x64a, 0x62e]), (0xfc58, [0x64a, 0x645]),
  (0xfc59, [0x64a, 0x649]), (0xfc5a, [0x64a, 0x64a]), (0xfc5b, [0x630, 0x670]),
  (0xfc5c, [0x631, 0x670]), (0xfc5d, [0x649, 0x670]), (0xfc64, [0x64a, 0x654, 0x631]),
  (0xfc65, [0x64a, 0x654, 0x632]), (0xfc66, [0x64a, 0x654, 0x645]), (0xfc67, [0x64a, 0x654, 0x646]),
  (0xfc68, [0x64a, 0x654, 0x649]), (0xfc69, [0x64a, 0x654, 0x64a]), (0xfc6a, [0x628, 0x631]),
  (0xfc6b, [0x628, 0x632]), (0xfc6c, [0x628, 0x645]), (0xfc6d, [0x628, 0x646]),
  (0xfc6e, [0x628, 0x649]), (0xfc6f, [0x628, 0x64a]), (0xfc70, [0x62a, 0x631]),
  (0xfc71, [0x62a, 0x632]), (0xfc72, [0x62a, 0x645]), (0xfc73, [0x62a, 0x646]),
  (0xfc74, [0x62a, 0x649]), (0xfc75, [0x62a, 0x64a]), (0xfc76, [0x62b, 0x631]),
  (0xfc77, [0x62b, 0x632]), (0xfc78, [0x62b, 0x645]), (0xfc79, [0x62b, 0x646]),
  (0xfc7a, [0x62b, 0x649]), (0xfc7b, [0x62b, 0x64a]), (0xfc7c, [0x641, 0x649]),
  (0xfc7d, [0x641, 0x64a]), (0xfc7e, [0x642, 0x649]), (0xfc7f, [0x642, 0x64a]),
  (0xfc80, [0x643, 0x627]), (0xfc81, [0x643, 0x644]), (0xfc82, [0x643, 0x645]),
  (0xfc83, [0x643, 0x649]), (0xfc84, [0x643, 0x64a]), (0xfc85, [0x644, 0x645]),
  (0xfc86, [0x644, 0x649]), (0xfc87, [0x644, 0x64a]), (0xfc88, [0x645, 0x627]),
  (0xfc89, [0x645, 0x645]), (0xfc8a, [0x646, 0x631]), (0xfc8b, [0x646, 0x632]),
  (0xfc8c, [0x646, 0x645]), (0xfc8d, [0x646, 0x646]), (0xfc8e, [0x646, 0x649]),
  (0xfc8f, [0x646, 0x64a]), (0xfc90, [0x649, 0x670]), (0xfc91, [0x64a, 0x631]),
  (0xfc92, [0x64a, 0x632]), (0xfc93, [0x64a, 0x645]), (0xfc94, [0x64a, 0x646]),
  (0xfc95, [0x64a, 0x649]), (0xfc96, [0x64a, 0x64a]), (0xfc97, [0x64a, 0x654, 0x62c]),
  (0xfc98, [0x64a, 0x654, 0x62d]), (0xfc99, [0x64a, 0x654, 0x62e]), (0xfc9a, [0x64a, 0x654, 0x645]),
  (0xfc9b, [0x64a, 0x654, 0x647]), (0xfc9c, [0x628, 0x62c]), (0xfc9d, [0x628, 0x62d]),
  (0xfc9e, [0x628, 0x62e]), (0xfc9f, [0x628, 0x645]), (0xfca0, [0x628, 0x647]),
  (0xfca1, [0x62a, 0x62c]), (0xfca2, [0x62a, 0x62d]), (0xfca3, [0x62a, 0x62e]),
  (0xfca4, [0x62a, 0x645]), (0xfca5, [0x62a, 0x647]), (0xfca6, [0x62b, 0x645]),
  (0xfca7, [0x62c, 0x62d]), (0xfca8, [0x62c, 0x645]), (0xfca9, [0x62d, 0x62c]),
  (0xfcaa, [0x62d, 0x645]), (0xfcab, [0x62e, 0x62c]), (0xfcac, [0x62e, 0x645]),
  (0xfcad, [0x633, 0x62c]), (0xfcae, [0x633, 0x62d]), (0xfcaf, [0x633, 0x62e]),
  (0xfcb0, [0x633, 0x645]), (0xfcb1, [0x635, 0x62d]), (0xfcb2, [0x635, 0x62e]),
  (0xfcb3, [0x635, 0x645]), (0xfcb4, [0x636, 0x62c]), (0xfcb5, [0x636, 0x62d]),
  (0xfcb6, [0x636, 0x62e]), (0xfcb7, [0x636, 0x645]), (0xfcb8, [0x637, 0x62d]),
  (0xfcb9, [0x638, 0x645]), (0xfcba, [0x639, 0x62c]), (0xfcbb, [0x639, 0x645]),
  (0xfcbc, [0x63a, 0x62c]), (0xfcbd, [0x63a, 0x645]), (0xfcbe, [0x641, 0x62c]),
  (0xfcbf, [0x641, 0x62d]), (0xfcc0, [0x641, 0x62e]), (0xfcc1, [0x641, 0x645]),
  (0xfcc2, [0x642, 0x62d]), (0xfcc3, [0x642, 0x645]), (0xfcc4, [0x643, 0x62c]),
  (0xfcc5, [0x643, 0x62d]), (0xfcc6, [0x643, 0x62e]), (0xfcc7, [0x643, 0x644]),
  (0xfcc8, [0x643, 0x645]), (0xfcc9, [0x644, 0x62c]), (0xfcca, [0x644, 0x62d]),
  (0xfccb, [0x644, 0x62e]), (0xfccc, [0x644, 0x645]), (0xfccd, [0x644, 0x647]),
  (0xfcce, [0x645, 0x62c]), (0xfccf, [0x645, 0x62d]), (0xfcd0, [0x645, 0x62e]),
  (0xfcd1, [0x645, 0x645]), (0xfcd2, [0x646, 0x62c]), (0xfcd3, [0x646, 0x62d]),
  (0xfcd4, [0x646, 0x62e]), (0xfcd5, [0x646, 0x645]), (0xfcd6, [0x646, 0x647]),
  (0xfcd7, [0x647, 0x62c]), (0xfcd8, [0x647, 0x645]), (0xfcd9, [0x647, 0x670]),
  (0xfcda, [0x64a, 0x62c]), (0xfcdb, [0x64a, 0x62d]), (0xfcdc, [0x64a, 0x62e]),
  (0xfcdd, [0x64a, 0x645]), (0xfcde, [0x64a, 0x647]), (0xfcdf, [0x64a, 0x654, 0x645]),
  (0xfce0, [0x64a, 0x654, 0x647]), (0xfce1, [0x628, 0x645]), (0xfce2, [0x628, 0x647]),
  (0xfce3, [0x62a, 0x645]), (0xfce4, [0x62a, 0x647]), (0xfce5, [0x62b, 0x645]),
  (0xfce6, [0x62b, 0x647]), (0xfce7, [0x633, 0x645]), (0xfce8, [0x633, 0x647]),
  (0xfce9, [0x634, 0x645]), (0xfcea, [0x634, 0x647]), (0xfceb, [0x643, 0x644]),
  (0xfcec, [0x643, 0x645]), (0xfced, [0x644, 0x645]), (0xfcee, [0x646, 0x645]),
  (0xfcef, [0x646, 0x647]), (0xfcf0, [0x64a, 0x645]), (0xfcf1, [0x64a, 0x647]),
  (0xfcf2, [0x640, 0x64e, 0x651]), (0xfcf3, [0x640, 0x64f, 0x651]), (0xfcf4, [0x640, 0x650, 0x651]),
  (0xfcf5, [0x637, 0x649]), (0xfcf6, [0x637, 0x64a]), (0xfcf7, [0x639, 0x649]),
  (0xfcf8, [0x639, 0x64a]), (0xfcf9, [0x63a, 0x649]), (0xfcfa, [0x63a, 0x64a]),
  (0xfcfb, [0x633, 0x649]), (0xfcfc, [0x633, 0x64a]), (0xfcfd, [0x634, 0x649]),
  (0xfcfe, [0x634, 0x64a]), (0xfcff, [0x62d, 0x649]), (0xfd00, [0x62d, 0x64a]),
  (0xfd01, [0x62c, 0x649]), (0xfd02, [0x62c, 0x64a]), (0xfd03, [0x62e, 0x649]),
  (0xfd04, [0x62e, 0x64a]), (0xfd05, [0x635, 0x649]), (0xfd06, [0x635, 0x64a]),
  (0xfd07, [0x636, 0x649]), (0xfd08, [0x636, 0x64a]), (0xfd09, [0x634, 0x62c]),
  (0xfd0a, [0x634, 0x62d]), (0xfd0b, [0x634, 0x62e]), (0xfd0c, [0x634, 0x645]),
  (0xfd0d, [0x634, 0x631]), (0xfd0e, [0x633, 0x631]), (0xfd0f, [0x635, 0x631]),
  (0xfd10, [0x636, 0x631]), (0xfd11, [0x637, 0x649]), (0xfd12, [0x637, 0x64a]),
  (0xfd13, [0x639, 0x649]), (0xfd14, [0x639, 0x64a]), (0xfd15, [0x63a, 0x649]),
  (0xfd16, [0x63a, 0x64a]), (0xfd17, [0x633, 0x649]), (0xfd18, [0x633, 0x64a]),
  (0xfd19, [0x634, 0x649]), (0xfd1a, [0x634, 0x64a]), (0xfd1b, [0x62d, 0x649]),
  (0xfd1c, [0x62d, 0x64a]), (0xfd1d, [0x62c, 0x649]), (0xfd1e, [0x62c, 0x64a]),
  (0xfd1f, [0x62e, 0x649]), (0xfd20, [0x62e, 0x64a]), (0xfd21, [0x635, 0x649]),
  (0xfd22, [0x635, 0x64a]), (0xfd23, [0x636, 0x649]), (0xfd24, [0x636, 0x64a]),
  (0xfd25, [0x634, 0x62c]), (0xfd26, [0x634, 0x62d]), (0xfd27, [0x634, 0x62e]),
  (0xfd28, [0x634, 0x645]), (0xfd29, [0x634, 0x631]), (0xfd2a, [0x633, 0x631]),
  (0xfd2b, [0x635, 0x631]), (0xfd2c, [0x636, 0x631]), (0xfd2d, [0x634, 0x62c]),
  (0xfd2e, [0x634, 0x62d]), (0xfd2f, [0x634, 0x62e]), (0xfd30, [0x634, 0x645]),
  (0xfd31, [0x633, 0x647]), (0xfd32, [0x634, 0x647]), (0xfd33, [0x637, 0x645]),
  (0xfd34, [0x633, 0x62c]), (0xfd35, [0x633, 0x62d]), (0xfd36, [0x633, 0x62e]),
  (0xfd37, [0x634, 0x62c]), (0xfd38, [0x634, 0x62d]), (0xfd39, [0x634, 0x62e]),
  (0xfd3a, [0x637, 0x645]), (0xfd3b, [0x638, 0x645]), (0xfd3c, [0x627, 0x64b]),
  (0xfd3d, [0x627, 0x64b]), (0xfd50, [0x62a, 0x62c, 0x645]), (0xfd51, [0x62a, 0x62d, 0x62c]),
  (0xfd52, [0x62a, 0x62d, 0x62c]), (0xfd53, [0x62a, 0x62d, 0x645]), (0xfd54, [0x62a, 0x62e, 0x645]),
  (0xfd55, [0x62a, 0x645, 0x62c]), (0xfd56, [0x62a, 0x645, 0x62d]), (0xfd57, [0x62a, 0x645, 0x62e]),
  (0xfd58, [0x62c, 0x645, 0x62d]), (0xfd59, [0x62c, 0x645, 0x62d]), (0xfd5a, [0x62d, 0x645, 0x64a]),
  (0xfd5b, [0x62d, 0x645, 0x649]), (0xfd5c, [0x633, 0x62d, 0x62c]), (0xfd5d, [0x633, 0x62c, 0x62d]),
  (0xfd5e, [0x633, 0x62c, 0x649]), (0xfd5f, [0x633, 0x645, 0x62d]), (0xfd60, [0x633, 0x645, 0x62d]),
  (0xfd61, [0x633, 0x645, 0x62c]), (0xfd62, [0x633, 0x645, 0x645]), (0xfd63, [0x633, 0x645, 0x645]),
  (0xfd64, [0x635, 0x62d, 0x62d]), (0xfd65, [0x635, 0x62d, 0x62d]), (0xfd66, [0x635, 0x645, 0x645]),
  (0xfd67, [0x634, 0x62d, 0x645]), (0xfd68, [0x634, 0x62d, 0x645]), (0xfd69, [0x634, 0x62c, 0x64a]),
  (0xfd6a, [0x634, 0x645, 0x62e]), (0xfd6b, [0x634, 0x645, 0x62e]), (0xfd6c, [0x634, 0x645, 0x645]),
  (0xfd6d, [0x634, 0x645, 0x645]), (0xfd6e, [0x636, 0x62d, 0x649]), (0xfd6f, [0x636, 0x62e, 0x645]),
  (0xfd70, [0x636, 0x62e, 0x645]), (0xfd71, [0x637, 0x645, 0x62d]), (0xfd72, [0x637, 0x645, 0x62d]),
  (0xfd73, [0x637, 0x645, 0x645]), (0xfd74, [0x637, 0x645, 0x64a]), (0xfd75, [0x639, 0x62c, 0x645]),
  (0xfd76, [0x639, 0x645, 0x645]), (0xfd77, [0x639, 0x645, 0x645]), (0xfd78, [0x639, 0x645, 0x649]),
  (0xfd79, [0x63a, 0x645, 0x645]), (0xfd7a, [0x63a, 0x645, 0x64a]), (0xfd7b, [0x63a, 0x645, 0x649]),
  (0xfd7c, [0x641, 0x62e, 0x645]), (0xfd7d, [0x641, 0x62e, 0x645]), (0xfd7e, [0x642, 0x645, 0x62d]),
  (0xfd7f, [0x642, 0x645, 0x645]), (0xfd80, [0x644, 0x62d, 0x645]), (0xfd81, [0x644, 0x62d, 0x64a]),
  (0xfd82, [0x644, 0x62d, 0x649]), (0xfd83, [0x644, 0x62c, 0x62c]), (0xfd84, [0x644, 0x62c, 0x62c]),
  (0xfd85, [0x644, 0x62e, 0x645]), (0xfd86, [0x644, 0x62e, 0x645]), (0xfd87, [0x644, 0x645, 0x62d]),
  (0xfd88, [0x644, 0x645, 0x62d]), (0xfd89, [0x645, 0x62d, 0x62c]), (0xfd8a, [0x645, 0x62d, 0x645]),
  (0xfd8b, [0x645, 0x62d, 0x64a]), (0xfd8c, [0x645, 0x62c, 0x62d]), (0xfd8d, [0x645, 0x62c, 0x645]),
  (0xfd8e, [0x645, 0x62e, 0x62c]), (0xfd8f, [0x645, 0x62e, 0x645]), (0xfd92, [0x645, 0x62c, 0x62e]),
  (0xfd93, [0x647, 0x645, 0x62c]), (0xfd94, [0x647, 0x645, 0x645]), (0xfd95, [0x646, 0x62d, 0x645]),
  (0xfd96, [0x646, 0x62d, 0x649]), (0xfd97, [0x646, 0x62c, 0x645]), (0xfd98, [0x646, 0x62c, 0x645]),
  (0xfd99, [0x646, 0x62c, 0x649]), (0xfd9a, [0x646, 0x645, 0x64a]), (0xfd9b, [0x646, 0x645, 0x649]),
  (0xfd9c, [0x64a, 0x645, 0x645]), (0xfd9d, [0x64a, 0x645, 0x645]), (0xfd9e, [0x628, 0x62e, 0x64a]),
  (0xfd9f, [0x62a, 0x62c, 0x64a]), (0xfda0, [0x62a, 0x62c, 0x649]), (0xfda1, [0x62a, 0x62e, 0x64a]),
  (0xfda2, [0x62a, 0x62e, 0x649]), (0xfda3, [0x62a, 0x645, 0x64a]), (0xfda4, [0x62a, 0x645, 0x649]),
  (0xfda5, [0x62c, 0x645, 0x64a]), (0xfda6, [0x62c, 0x62d, 0x649]), (0xfda7, [0x62c, 0x645, 0x649]),
  (0xfda8, [0x633, 0x62e, 0x649]), (0xfda9, [0x635, 0x62d, 0x64a]), (0xfdaa, [0x634, 0x62d, 0x64a]),
  (0xfdab, [0x636, 0x62d, 0x64a]), (0xfdac, [0x644, 0x62c, 0x64a]), (0xfdad, [0x644, 0x645, 0x64a]),
  (0xfdae, [0x64a, 0x62d, 0x64a]), (0xfdaf, [0x64a, 0x62c, 0x64a]), (0xfdb0, [0x64a, 0x645, 0x64a]),
  (0xfdb1, [0x645, 0x645, 0x64a]), (0xfdb2, [0x642, 0x645, 0x64a]), (0xfdb3, [0x646, 0x62d, 0x64a]),
  (0xfdb4, [0x642, 0x645, 0x62d]), (0xfdb5, [0x644, 0x62d, 0x645]), (0xfdb6, [0x639, 0x645, 0x64a]),
  (0xfdb7, [0x643, 0x645, 0x64a]), (0xfdb8, [0x646, 0x62c, 0x62d]), (0xfdb9, [0x645, 0x62e, 0x64a]),
  (0xfdba, [0x644, 0x62c, 0x645]), (0xfdbb, [0x643, 0x645, 0x645]), (0xfdbc, [0x644, 0x62c, 0x645]),
  (0xfdbd, [0x646, 0x62c, 0x62d]), (0xfdbe, [0x62c, 0x62d, 0x64a]), (0xfdbf, [0x62d, 0x62c, 0x64a]),
  (0xfdc0, [0x645, 0x62c, 0x64a]), (0xfdc1, [0x641, 0x645, 0x64a]), (0xfdc2, [0x628, 0x62d, 0x64a]),
  (0xfdc3, [0x643, 0x645, 0x645]), (0xfdc4, [0x639, 0x62c, 0x645]), (0xfdc5, [0x635, 0x645, 0x645]),
  (0xfdc6, [0x633, 0x62e, 0x64a]), (0xfdc7, [0x646, 0x62c, 0x64a]), (0xfdf0, [0x635, 0x644, 0x6d2]),
  (0xfdf1, [0x642, 0x644, 0x6d2]), (0xfdf2, [0x627, 0x644, 0x644, 0x647]),
  (0xfdf3, [0x627, 0x643, 0x628, 0x631]), (0xfdf4, [0x645, 0x62d, 0x645, 0x62f]),
  (0xfdf5, [0x635, 0x644, 0x639, 0x645]), (0xfdf6, [0x631, 0x633, 0x648, 0x644]),
  (0xfdf7, [0x639, 0x644, 0x64a, 0x647]), (0xfdf8, [0x648, 0x633, 0x644, 0x645]),
  (0xfdf9, [0x635, 0x644, 0x649]), (0xfe71, [0x640, 0x64b]), (0xfe77, [0x640, 0x64e]),
  (0xfe79, [0x640, 0x64f]), (0xfe7b, [0x640, 0x650]), (0xfe7d, [0x640, 0x651]),
  (0xfe7f, [0x640, 0x652]), (0xfe81, [0x627, 0x653]), (0xfe82, [0x627, 0x653]),
  (0xfe83, [0x627, 0x654]), (0xfe84, [0x627, 0x654]), (0xfe85, [0x648, 0x654]),
  (0xfe86, [0x648, 0x654]), (0xfe87, [0x627, 0x655]), (0xfe88, [0x627, 0x655]),
  (0xfe89, [0x64a, 0x654]), (0xfe8a, [0x64a, 0x654]), (0xfe8b, [0x64a, 0x654]),
  (0xfe8c, [0x64a, 0x654]), (0xfef5, [0x644, 0x627, 0x653]), (0xfef6, [0x644, 0x627, 0x653]),
  (0xfef7, [0x644, 0x627, 0x654]), (0xfef8, [0x644, 0x627, 0x654]), (0xfef9, [0x644, 0x627, 0x655]),
  (0xfefa, [0x644, 0x627, 0x655]), (0xfefb, [0x644, 0x627]), (0xfefc, [0x644, 0x627])]

/-- What the ideographs from `f900` on stand for; zero where there is nothing else. -/
def ideographs : Array Nat := #[
  0x8c48, 0x66f4, 0x8eca, 0x8cc8, 0x6ed1, 0x4e32, 0x53e5, 0x9f9c, 0x9f9c, 0x5951, 0x91d1, 0x5587,
  0x5948, 0x61f6, 0x7669, 0x7f85, 0x863f, 0x87ba, 0x88f8, 0x908f, 0x6a02, 0x6d1b, 0x70d9, 0x73de,
  0x843d, 0x916a, 0x99f1, 0x4e82, 0x5375, 0x6b04, 0x721b, 0x862d, 0x9e1e, 0x5d50, 0x6feb, 0x85cd,
  0x8964, 0x62c9, 0x81d8, 0x881f, 0x5eca, 0x6717, 0x6d6a, 0x72fc, 0x90ce, 0x4f86, 0x51b7, 0x52de,
  0x64c4, 0x6ad3, 0x7210, 0x76e7, 0x8001, 0x8606, 0x865c, 0x8def, 0x9732, 0x9b6f, 0x9dfa, 0x788c,
  0x797f, 0x7da0, 0x83c9, 0x9304, 0x9e7f, 0x8ad6, 0x58df, 0x5f04, 0x7c60, 0x807e, 0x7262, 0x78ca,
  0x8cc2, 0x96f7, 0x58d8, 0x5c62, 0x6a13, 0x6dda, 0x6f0f, 0x7d2f, 0x7e37, 0x964b, 0x52d2, 0x808b,
  0x51dc, 0x51cc, 0x7a1c, 0x7dbe, 0x83f1, 0x9675, 0x8b80, 0x62cf, 0x6a02, 0x8afe, 0x4e39, 0x5be7,
  0x6012, 0x7387, 0x7570, 0x5317, 0x78fb, 0x4fbf, 0x5fa9, 0x4e0d, 0x6ccc, 0x6578, 0x7d22, 0x53c3,
  0x585e, 0x7701, 0x8449, 0x8aaa, 0x6bba, 0x8fb0, 0x6c88, 0x62fe, 0x82e5, 0x63a0, 0x7565, 0x4eae,
  0x5169, 0x51c9, 0x6881, 0x7ce7, 0x826f, 0x8ad2, 0x91cf, 0x52f5, 0x5442, 0x5973, 0x5eec, 0x65c5,
  0x6ffe, 0x792a, 0x95ad, 0x9a6a, 0x9e97, 0x9ece, 0x529b, 0x66c6, 0x6b77, 0x8f62, 0x5e74, 0x6190,
  0x6200, 0x649a, 0x6f23, 0x7149, 0x7489, 0x79ca, 0x7df4, 0x806f, 0x8f26, 0x84ee, 0x9023, 0x934a,
  0x5217, 0x52a3, 0x54bd, 0x70c8, 0x88c2, 0x8aaa, 0x5ec9, 0x5ff5, 0x637b, 0x6bae, 0x7c3e, 0x7375,
  0x4ee4, 0x56f9, 0x5be7, 0x5dba, 0x601c, 0x73b2, 0x7469, 0x7f9a, 0x8046, 0x9234, 0x96f6, 0x9748,
  0x9818, 0x4f8b, 0x79ae, 0x91b4, 0x96b8, 0x60e1, 0x4e86, 0x50da, 0x5bee, 0x5c3f, 0x6599, 0x6a02,
  0x71ce, 0x7642, 0x84fc, 0x907c, 0x9f8d, 0x6688, 0x962e, 0x5289, 0x677b, 0x67f3, 0x6d41, 0x6e9c,
  0x7409, 0x7559, 0x786b, 0x7d10, 0x985e, 0x516d, 0x622e, 0x9678, 0x502b, 0x5d19, 0x6dea, 0x8f2a,
  0x5f8b, 0x6144, 0x6817, 0x7387, 0x9686, 0x5229, 0x540f, 0x5c65, 0x6613, 0x674e, 0x68a8, 0x6ce5,
  0x7406, 0x75e2, 0x7f79, 0x88cf, 0x88e1, 0x91cc, 0x96e2, 0x533f, 0x6eba, 0x541d, 0x71d0, 0x7498,
  0x85fa, 0x96a3, 0x9c57, 0x9e9f, 0x6797, 0x6dcb, 0x81e8, 0x7acb, 0x7b20, 0x7c92, 0x72c0, 0x7099,
  0x8b58, 0x4ec0, 0x8336, 0x523a, 0x5207, 0x5ea6, 0x62d3, 0x7cd6, 0x5b85, 0x6d1e, 0x66b4, 0x8f3b,
  0x884c, 0x964d, 0x898b, 0x5ed3, 0x5140, 0x55c0, 0, 0, 0x585a, 0, 0x6674, 0, 0, 0x51de, 0x732a,
  0x76ca, 0x793c, 0x795e, 0x7965, 0x798f, 0x9756, 0x7cbe, 0x7fbd, 0, 0x8612, 0, 0x8af8, 0, 0,
  0x9038, 0x90fd, 0, 0, 0, 0x98ef, 0x98fc, 0x9928, 0x9db4, 0x90de, 0x96b7, 0x4fae, 0x50e7, 0x514d,
  0x52c9, 0x52e4, 0x5351, 0x559d, 0x5606, 0x5668, 0x5840, 0x58a8, 0x5c64, 0x5c6e, 0x6094, 0x6168,
  0x618e, 0x61f2, 0x654f, 0x65e2, 0x6691, 0x6885, 0x6d77, 0x6e1a, 0x6f22, 0x716e, 0x722b, 0x7422,
  0x7891, 0x793e, 0x7949, 0x7948, 0x7950, 0x7956, 0x795d, 0x798d, 0x798e, 0x7a40, 0x7a81, 0x7bc0,
  0x7df4, 0x7e09, 0x7e41, 0x7f72, 0x8005, 0x81ed, 0x8279, 0x8279, 0x8457, 0x8910, 0x8996, 0x8b01,
  0x8b39, 0x8cd3, 0x8d08, 0x8fb6, 0x9038, 0x96e3, 0x97ff, 0x983b, 0x6075, 0x242ee, 0x8218, 0, 0,
  0x4e26, 0x51b5, 0x5168, 0x4f80, 0x5145, 0x5180, 0x52c7, 0x52fa, 0x559d, 0x5555, 0x5599, 0x55e2,
  0x585a, 0x58b3, 0x5944, 0x5954, 0x5a62, 0x5b28, 0x5ed2, 0x5ed9, 0x5f69, 0x5fad, 0x60d8, 0x614e,
  0x6108, 0x618e, 0x6160, 0x61f2, 0x6234, 0x63c4, 0x641c, 0x6452, 0x6556, 0x6674, 0x6717, 0x671b,
  0x6756, 0x6b79, 0x6bba, 0x6d41, 0x6edb, 0x6ecb, 0x6f22, 0x701e, 0x716e, 0x77a7, 0x7235, 0x72af,
  0x732a, 0x7471, 0x7506, 0x753b, 0x761d, 0x761f, 0x76ca, 0x76db, 0x76f4, 0x774a, 0x7740, 0x78cc,
  0x7ab1, 0x7bc0, 0x7c7b, 0x7d5b, 0x7df4, 0x7f3e, 0x8005, 0x8352, 0x83ef, 0x8779, 0x8941, 0x8986,
  0x8996, 0x8abf, 0x8af8, 0x8acb, 0x8b01, 0x8afe, 0x8aed, 0x8b39, 0x8b8a, 0x8d08, 0x8f38, 0x9072,
  0x9199, 0x9276, 0x967c, 0x96e3, 0x9756, 0x97db, 0x97ff, 0x980b, 0x983b, 0x9b12, 0x9f9c, 0x2284a,
  0x22844, 0x233d5, 0x3b9d, 0x4018, 0x4039, 0x25249, 0x25cd0, 0x27ed3, 0x9f43, 0x9f8e]

/-- What the ideographs from `2f800` on stand for. -/
def supplementaryIdeographs : Array Nat := #[
  0x4e3d, 0x4e38, 0x4e41, 0x20122, 0x4f60, 0x4fae, 0x4fbb, 0x5002, 0x507a, 0x5099, 0x50e7, 0x50cf,
  0x349e, 0x2063a, 0x514d, 0x5154, 0x5164, 0x5177, 0x2051c, 0x34b9, 0x5167, 0x518d, 0x2054b, 0x5197,
  0x51a4, 0x4ecc, 0x51ac, 0x51b5, 0x291df, 0x51f5, 0x5203, 0x34df, 0x523b, 0x5246, 0x5272, 0x5277,
  0x3515, 0x52c7, 0x52c9, 0x52e4, 0x52fa, 0x5305, 0x5306, 0x5317, 0x5349, 0x5351, 0x535a, 0x5373,
  0x537d, 0x537f, 0x537f, 0x537f, 0x20a2c, 0x7070, 0x53ca, 0x53df, 0x20b63, 0x53eb, 0x53f1, 0x5406,
  0x549e, 0x5438, 0x5448, 0x5468, 0x54a2, 0x54f6, 0x5510, 0x5553, 0x5563, 0x5584, 0x5584, 0x5599,
  0x55ab, 0x55b3, 0x55c2, 0x5716, 0x5606, 0x5717, 0x5651, 0x5674, 0x5207, 0x58ee, 0x57ce, 0x57f4,
  0x580d, 0x578b, 0x5832, 0x5831, 0x58ac, 0x214e4, 0x58f2, 0x58f7, 0x5906, 0x591a, 0x5922, 0x5962,
  0x216a8, 0x216ea, 0x59ec, 0x5a1b, 0x5a27, 0x59d8, 0x5a66, 0x36ee, 0x36fc, 0x5b08, 0x5b3e, 0x5b3e,
  0x219c8, 0x5bc3, 0x5bd8, 0x5be7, 0x5bf3, 0x21b18, 0x5bff, 0x5c06, 0x5f53, 0x5c22, 0x3781, 0x5c60,
  0x5c6e, 0x5cc0, 0x5c8d, 0x21de4, 0x5d43, 0x21de6, 0x5d6e, 0x5d6b, 0x5d7c, 0x5de1, 0x5de2, 0x382f,
  0x5dfd, 0x5e28, 0x5e3d, 0x5e69, 0x3862, 0x22183, 0x387c, 0x5eb0, 0x5eb3, 0x5eb6, 0x5eca, 0x2a392,
  0x5efe, 0x22331, 0x22331, 0x8201, 0x5f22, 0x5f22, 0x38c7, 0x232b8, 0x261da, 0x5f62, 0x5f6b,
  0x38e3, 0x5f9a, 0x5fcd, 0x5fd7, 0x5ff9, 0x6081, 0x393a, 0x391c, 0x6094, 0x226d4, 0x60c7, 0x6148,
  0x614c, 0x614e, 0x614c, 0x617a, 0x618e, 0x61b2, 0x61a4, 0x61af, 0x61de, 0x61f2, 0x61f6, 0x6210,
  0x621b, 0x625d, 0x62b1, 0x62d4, 0x6350, 0x22b0c, 0x633d, 0x62fc, 0x6368, 0x6383, 0x63e4, 0x22bf1,
  0x6422, 0x63c5, 0x63a9, 0x3a2e, 0x6469, 0x647e, 0x649d, 0x6477, 0x3a6c, 0x654f, 0x656c, 0x2300a,
  0x65e3, 0x66f8, 0x6649, 0x3b19, 0x6691, 0x3b08, 0x3ae4, 0x5192, 0x5195, 0x6700, 0x669c, 0x80ad,
  0x43d9, 0x6717, 0x671b, 0x6721, 0x675e, 0x6753, 0x233c3, 0x3b49, 0x67fa, 0x6785, 0x6852, 0x6885,
  0x2346d, 0x688e, 0x681f, 0x6914, 0x3b9d, 0x6942, 0x69a3, 0x69ea, 0x6aa8, 0x236a3, 0x6adb, 0x3c18,
  0x6b21, 0x238a7, 0x6b54, 0x3c4e, 0x6b72, 0x6b9f, 0x6bba, 0x6bbb, 0x23a8d, 0x21d0b, 0x23afa,
  0x6c4e, 0x23cbc, 0x6cbf, 0x6ccd, 0x6c67, 0x6d16, 0x6d3e, 0x6d77, 0x6d41, 0x6d69, 0x6d78, 0x6d85,
  0x23d1e, 0x6d34, 0x6e2f, 0x6e6e, 0x3d33, 0x6ecb, 0x6ec7, 0x23ed1, 0x6df9, 0x6f6e, 0x23f5e,
  0x23f8e, 0x6fc6, 0x7039, 0x701e, 0x701b, 0x3d96, 0x704a, 0x707d, 0x7077, 0x70ad, 0x20525, 0x7145,
  0x24263, 0x719c, 0x243ab, 0x7228, 0x7235, 0x7250, 0x24608, 0x7280, 0x7295, 0x24735, 0x24814,
  0x737a, 0x738b, 0x3eac, 0x73a5, 0x3eb8, 0x3eb8, 0x7447, 0x745c, 0x7471, 0x7485, 0x74ca, 0x3f1b,
  0x7524, 0x24c36, 0x753e, 0x24c92, 0x7570, 0x2219f, 0x7610, 0x24fa1, 0x24fb8, 0x25044, 0x3ffc,
  0x4008, 0x76f4, 0x250f3, 0x250f2, 0x25119, 0x25133, 0x771e, 0x771f, 0x771f, 0x774a, 0x4039,
  0x778b, 0x4046, 0x4096, 0x2541d, 0x784e, 0x788c, 0x78cc, 0x40e3, 0x25626, 0x7956, 0x2569a,
  0x256c5, 0x798f, 0x79eb, 0x412f, 0x7a40, 0x7a4a, 0x7a4f, 0x2597c, 0x25aa7, 0x25aa7, 0x7aee,
  0x4202, 0x25bab, 0x7bc6, 0x7bc9, 0x4227, 0x25c80, 0x7cd2, 0x42a0, 0x7ce8, 0x7ce3, 0x7d00, 0x25f86,
  0x7d63, 0x4301, 0x7dc7, 0x7e02, 0x7e45, 0x4334, 0x26228, 0x26247, 0x4359, 0x262d9, 0x7f7a,
  0x2633e, 0x7f95, 0x7ffa, 0x8005, 0x264da, 0x26523, 0x8060, 0x265a8, 0x8070, 0x2335f, 0x43d5,
  0x80b2, 0x8103, 0x440b, 0x813e, 0x5ab5, 0x267a7, 0x267b5, 0x23393, 0x2339c, 0x8201, 0x8204,
  0x8f9e, 0x446b, 0x8291, 0x828b, 0x829d, 0x52b3, 0x82b1, 0x82b3, 0x82bd, 0x82e6, 0x26b3c, 0x82e5,
  0x831d, 0x8363, 0x83ad, 0x8323, 0x83bd, 0x83e7, 0x8457, 0x8353, 0x83ca, 0x83cc, 0x83dc, 0x26c36,
  0x26d6b, 0x26cd5, 0x452b, 0x84f1, 0x84f3, 0x8516, 0x273ca, 0x8564, 0x26f2c, 0x455d, 0x4561,
  0x26fb1, 0x270d2, 0x456b, 0x8650, 0x865c, 0x8667, 0x8669, 0x86a9, 0x8688, 0x870e, 0x86e2, 0x8779,
  0x8728, 0x876b, 0x8786, 0x45d7, 0x87e1, 0x8801, 0x45f9, 0x8860, 0x8863, 0x27667, 0x88d7, 0x88de,
  0x4635, 0x88fa, 0x34bb, 0x278ae, 0x27966, 0x46be, 0x46c7, 0x8aa0, 0x8aed, 0x8b8a, 0x8c55, 0x27ca8,
  0x8cab, 0x8cc1, 0x8d1b, 0x8d77, 0x27f2f, 0x20804, 0x8dcb, 0x8dbc, 0x8df0, 0x208de, 0x8ed4, 0x8f38,
  0x285d2, 0x285ed, 0x9094, 0x90f1, 0x9111, 0x2872e, 0x911b, 0x9238, 0x92d7, 0x92d8, 0x927c, 0x93f9,
  0x9415, 0x28bfa, 0x958b, 0x4995, 0x95b7, 0x28d77, 0x49e6, 0x96c3, 0x5db2, 0x9723, 0x29145,
  0x2921a, 0x4a6e, 0x4a76, 0x97e0, 0x2940a, 0x4ab2, 0x29496, 0x980b, 0x980b, 0x9829, 0x295b6,
  0x98e2, 0x4b33, 0x9929, 0x99a7, 0x99c2, 0x99fe, 0x4bce, 0x29b30, 0x9b12, 0x9c40, 0x9cfd, 0x4cce,
  0x4ced, 0x9d67, 0x2a0ce, 0x4cf8, 0x2a105, 0x2a20e, 0x2a291, 0x9ebb, 0x4d56, 0x9ef9, 0x9efe,
  0x9f05, 0x9f0f, 0x9f16, 0x9f3b, 0x2a600]

end Splice.Text
