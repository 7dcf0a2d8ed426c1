import LexScan.Text.CodeRange

/-! The characters beyond ASCII with the Unicode property Uppercase, version 17. -/
namespace LexScan.Text

/-- Code points from U+0080 on with the property Uppercase, in increasing order. -/
def uppercaseRanges : List CodeRange :=
  [.span 0xC0 0xD6, .span 0xD8 0xDE, .alternate 0x100 0x136, .alternate 0x139 0x147,
   .alternate 0x14A 0x176, .span 0x178 0x179, .one 0x17B, .one 0x17D, .span 0x181 0x182,
   .one 0x184, .span 0x186 0x187, .span 0x189 0x18B, .span 0x18E 0x191, .span 0x193 0x194,
   .span 0x196 0x198, .span 0x19C 0x19D, .span 0x19F 0x1A0, .one 0x1A2, .one 0x1A4,
   .span 0x1A6 0x1A7, .one 0x1A9, .one 0x1AC, .span 0x1AE 0x1AF, .span 0x1B1 0x1B3, .one 0x1B5,
   .span 0x1B7 0x1B8, .one 0x1BC, .one 0x1C4, .one 0x1C7, .one 0x1CA, .alternate 0x1CD 0x1DB,
   .alternate 0x1DE 0x1EE, .one 0x1F1, .one 0x1F4, .span 0x1F6 0x1F8, .alternate 0x1FA 0x232,
   .span 0x23A 0x23B, .span 0x23D 0x23E, .one 0x241, .span 0x243 0x246, .alternate 0x248 0x24E,
   .one 0x370, .one 0x372, .one 0x376, .one 0x37F, .one 0x386, .span 0x388 0x38A, .one 0x38C,
   .span 0x38E 0x38F, .span 0x391 0x3A1, .span 0x3A3 0x3AB, .one 0x3CF, .span 0x3D2 0x3D4,
   .alternate 0x3D8 0x3EE, .one 0x3F4, .one 0x3F7, .span 0x3F9 0x3FA, .span 0x3FD 0x42F,
   .alternate 0x460 0x480, .alternate 0x48A 0x4BE, .span 0x4C0 0x4C1, .alternate 0x4C3 0x4CD,
   .alternate 0x4D0 0x52E, .span 0x531 0x556, .span 0x10A0 0x10C5, .one 0x10C7, .one 0x10CD,
   .span 0x13A0 0x13F5, .one 0x1C89, .span 0x1C90 0x1CBA, .span 0x1CBD 0x1CBF,
   .alternate 0x1E00 0x1E94, .alternate 0x1E9E 0x1EFE, .span 0x1F08 0x1F0F, .span 0x1F18 0x1F1D,
   .span 0x1F28 0x1F2F, .span 0x1F38 0x1F3F, .span 0x1F48 0x1F4D, .alternate 0x1F59 0x1F5F,
   .span 0x1F68 0x1F6F, .span 0x1FB8 0x1FBB, .span 0x1FC8 0x1FCB, .span 0x1FD8 0x1FDB,
   .span 0x1FE8 0x1FEC, .span 0x1FF8 0x1FFB, .one 0x2102, .one 0x2107, .span 0x210B 0x210D,
   .span 0x2110 0x2112, .one 0x2115, .span 0x2119 0x211D, .alternate 0x2124 0x2128,
   .span 0x212A 0x212D, .span 0x2130 0x2133, .span 0x213E 0x213F, .one 0x2145,
   .span 0x2160 0x216F, .one 0x2183, .span 0x24B6 0x24CF, .span 0x2C00 0x2C2F, .one 0x2C60,
   .span 0x2C62 0x2C64, .alternate 0x2C67 0x2C6B, .span 0x2C6D 0x2C70, .one 0x2C72, .one 0x2C75,
   .span 0x2C7E 0x2C80, .alternate 0x2C82 0x2CE2, .one 0x2CEB, .one 0x2CED, .one 0x2CF2,
   .alternate 0xA640 0xA66C, .alternate 0xA680 0xA69A, .alternate 0xA722 0xA72E,
   .alternate 0xA732 0xA76E, .one 0xA779, .one 0xA77B, .span 0xA77D 0xA77E,
   .alternate 0xA780 0xA786, .one 0xA78B, .one 0xA78D, .one 0xA790, .one 0xA792,
   .alternate 0xA796 0xA7A8, .span 0xA7AA 0xA7AE, .span 0xA7B0 0xA7B4, .alternate 0xA7B6 0xA7C2,
   .span 0xA7C4 0xA7C7, .one 0xA7C9, .span 0xA7CB 0xA7CC, .alternate 0xA7CE 0xA7DC, .one 0xA7F5,
   .span 0xFF21 0xFF3A, .span 0x10400 0x10427, .span 0x104B0 0x104D3, .span 0x10570 0x1057A,
   .span 0x1057C 0x1058A, .span 0x1058C 0x10592, .span 0x10594 0x10595, .span 0x10C80 0x10CB2,
   .span 0x10D50 0x10D65, .span 0x118A0 0x118BF, .span 0x16E40 0x16E5F, .span 0x16EA0 0x16EB8,
   .span 0x1D400 0x1D419, .span 0x1D434 0x1D44D, .span 0x1D468 0x1D481, .one 0x1D49C,
   .span 0x1D49E 0x1D49F, .one 0x1D4A2, .span 0x1D4A5 0x1D4A6, .span 0x1D4A9 0x1D4AC,
   .span 0x1D4AE 0x1D4B5, .span 0x1D4D0 0x1D4E9, .span 0x1D504 0x1D505, .span 0x1D507 0x1D50A,
   .span 0x1D50D 0x1D514, .span 0x1D516 0x1D51C, .span 0x1D538 0x1D539, .span 0x1D53B 0x1D53E,
   .span 0x1D540 0x1D544, .one 0x1D546, .span 0x1D54A 0x1D550, .span 0x1D56C 0x1D585,
   .span 0x1D5A0 0x1D5B9, .span 0x1D5D4 0x1D5ED, .span 0x1D608 0x1D621, .span 0x1D63C 0x1D655,
   .span 0x1D670 0x1D689, .span 0x1D6A8 0x1D6C0, .span 0x1D6E2 0x1D6FA, .span 0x1D71C 0x1D734,
   .span 0x1D756 0x1D76E, .span 0x1D790 0x1D7A8, .one 0x1D7CA, .span 0x1E900 0x1E921,
   .span 0x1F130 0x1F149, .span 0x1F150 0x1F169, .span 0x1F170 0x1F189]

end LexScan.Text
