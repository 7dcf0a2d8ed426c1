import LexScan.Text.CodeRange

/-! The characters beyond ASCII of the general categories Nd, Nl and No, Unicode version 17. -/
namespace LexScan.Text

/-- Code points from U+0080 on of a numeric category, in increasing order. -/
def numericRanges : List CodeRange :=
  [.span 0xB2 0xB3, .one 0xB9, .span 0xBC 0xBE, .span 0x660 0x669, .span 0x6F0 0x6F9,
   .span 0x7C0 0x7C9, .span 0x966 0x96F, .span 0x9E6 0x9EF, .span 0x9F4 0x9F9, .span 0xA66 0xA6F,
   .span 0xAE6 0xAEF, .span 0xB66 0xB6F, .span 0xB72 0xB77, .span 0xBE6 0xBF2, .span 0xC66 0xC6F,
   .span 0xC78 0xC7E, .span 0xCE6 0xCEF, .span 0xD58 0xD5E, .span 0xD66 0xD78, .span 0xDE6 0xDEF,
   .span 0xE50 0xE59, .span 0xED0 0xED9, .span 0xF20 0xF33, .span 0x1040 0x1049,
   .span 0x1090 0x1099, .span 0x1369 0x137C, .span 0x16EE 0x16F0, .span 0x17E0 0x17E9,
   .span 0x17F0 0x17F9, .span 0x1810 0x1819, .span 0x1946 0x194F, .span 0x19D0 0x19DA,
   .span 0x1A80 0x1A89, .span 0x1A90 0x1A99, .span 0x1B50 0x1B59, .span 0x1BB0 0x1BB9,
   .span 0x1C40 0x1C49, .span 0x1C50 0x1C59, .one 0x2070, .span 0x2074 0x2079,
   .span 0x2080 0x2089, .span 0x2150 0x2182, .span 0x2185 0x2189, .span 0x2460 0x249B,
   .span 0x24EA 0x24FF, .span 0x2776 0x2793, .one 0x2CFD, .one 0x3007, .span 0x3021 0x3029,
   .span 0x3038 0x303A, .span 0x3192 0x3195, .span 0x3220 0x3229, .span 0x3248 0x324F,
   .span 0x3251 0x325F, .span 0x3280 0x3289, .span 0x32B1 0x32BF, .span 0xA620 0xA629,
   .span 0xA6E6 0xA6EF, .span 0xA830 0xA835, .span 0xA8D0 0xA8D9, .span 0xA900 0xA909,
   .span 0xA9D0 0xA9D9, .span 0xA9F0 0xA9F9, .span 0xAA50 0xAA59, .span 0xABF0 0xABF9,
   .span 0xFF10 0xFF19, .span 0x10107 0x10133, .span 0x10140 0x10178, .span 0x1018A 0x1018B,
   .span 0x102E1 0x102FB, .span 0x10320 0x10323, .one 0x10341, .one 0x1034A,
   .span 0x103D1 0x103D5, .span 0x104A0 0x104A9, .span 0x10858 0x1085F, .span 0x10879 0x1087F,
   .span 0x108A7 0x108AF, .span 0x108FB 0x108FF, .span 0x10916 0x1091B, .span 0x109BC 0x109BD,
   .span 0x109C0 0x109CF, .span 0x109D2 0x109FF, .span 0x10A40 0x10A48, .span 0x10A7D 0x10A7E,
   .span 0x10A9D 0x10A9F, .span 0x10AEB 0x10AEF, .span 0x10B58 0x10B5F, .span 0x10B78 0x10B7F,
   .span 0x10BA9 0x10BAF, .span 0x10CFA 0x10CFF, .span 0x10D30 0x10D39, .span 0x10D40 0x10D49,
   .span 0x10E60 0x10E7E, .span 0x10F1D 0x10F26, .span 0x10F51 0x10F54, .span 0x10FC5 0x10FCB,
   .span 0x11052 0x1106F, .span 0x110F0 0x110F9, .span 0x11136 0x1113F, .span 0x111D0 0x111D9,
   .span 0x111E1 0x111F4, .span 0x112F0 0x112F9, .span 0x11450 0x11459, .span 0x114D0 0x114D9,
   .span 0x11650 0x11659, .span 0x116C0 0x116C9, .span 0x116D0 0x116E3, .span 0x11730 0x1173B,
   .span 0x118E0 0x118F2, .span 0x11950 0x11959, .span 0x11BF0 0x11BF9, .span 0x11C50 0x11C6C,
   .span 0x11D50 0x11D59, .span 0x11DA0 0x11DA9, .span 0x11DE0 0x11DE9, .span 0x11F50 0x11F59,
   .span 0x11FC0 0x11FD4, .span 0x12400 0x1246E, .span 0x16130 0x16139, .span 0x16A60 0x16A69,
   .span 0x16AC0 0x16AC9, .span 0x16B50 0x16B59, .span 0x16B5B 0x16B61, .span 0x16D70 0x16D79,
   .span 0x16E80 0x16E96, .span 0x16FF4 0x16FF6, .span 0x1CCF0 0x1CCF9, .span 0x1D2C0 0x1D2D3,
   .span 0x1D2E0 0x1D2F3, .span 0x1D360 0x1D378, .span 0x1D7CE 0x1D7FF, .span 0x1E140 0x1E149,
   .span 0x1E2F0 0x1E2F9, .span 0x1E4F0 0x1E4F9, .span 0x1E5F1 0x1E5FA, .span 0x1E8C7 0x1E8CF,
   .span 0x1E950 0x1E959, .span 0x1EC71 0x1ECAB, .span 0x1ECAD 0x1ECAF, .span 0x1ECB1 0x1ECB4,
   .span 0x1ED01 0x1ED2D, .span 0x1ED2F 0x1ED3D, .span 0x1F100 0x1F10C, .span 0x1FBF0 0x1FBF9]

end LexScan.Text
