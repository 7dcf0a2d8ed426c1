import LexScan.Text.CodeRange

/-! The characters beyond ASCII that quoted text shows by their number: control, format, private,
unassigned and separator characters, those that extend the grapheme before them, the two halfwidth
sound marks apart, and those that a display may leave out, in version 17 of Unicode. -/
namespace LexScan.Text

/-- Code points from U+0080 on that are not printed as themselves, in increasing order. -/
def unprintableRanges : List CodeRange :=
  [.span 0x80 0xA0, .one 0xAD, .span 0x300 0x36F, .span 0x378 0x379, .span 0x380 0x383, .one 0x38B,
   .one 0x38D, .one 0x3A2, .span 0x483 0x489, .one 0x530, .span 0x557 0x558, .span 0x58B 0x58C,
   .span 0x590 0x5BD, .one 0x5BF, .span 0x5C1 0x5C2, .span 0x5C4 0x5C5, .span 0x5C7 0x5CF,
   .span 0x5EB 0x5EE, .span 0x5F5 0x605, .span 0x610 0x61A, .one 0x61C, .span 0x64B 0x65F,
   .one 0x670, .span 0x6D6 0x6DD, .span 0x6DF 0x6E4, .span 0x6E7 0x6E8, .span 0x6EA 0x6ED,
   .span 0x70E 0x70F, .one 0x711, .span 0x730 0x74C, .span 0x7A6 0x7B0, .span 0x7B2 0x7BF,
   .span 0x7EB 0x7F3, .span 0x7FB 0x7FD, .span 0x816 0x819, .span 0x81B 0x823, .span 0x825 0x827,
   .span 0x829 0x82F, .one 0x83F, .span 0x859 0x85D, .one 0x85F, .span 0x86B 0x86F,
   .span 0x890 0x89F, .span 0x8CA 0x902, .one 0x93A, .one 0x93C, .span 0x941 0x948, .one 0x94D,
   .span 0x951 0x957, .span 0x962 0x963, .one 0x981, .one 0x984, .span 0x98D 0x98E,
   .span 0x991 0x992, .one 0x9A9, .one 0x9B1, .span 0x9B3 0x9B5, .span 0x9BA 0x9BC, .one 0x9BE,
   .span 0x9C1 0x9C6, .span 0x9C9 0x9CA, .one 0x9CD, .span 0x9CF 0x9DB, .one 0x9DE,
   .span 0x9E2 0x9E5, .span 0x9FE 0xA02, .one 0xA04, .span 0xA0B 0xA0E, .span 0xA11 0xA12,
   .one 0xA29, .one 0xA31, .one 0xA34, .one 0xA37, .span 0xA3A 0xA3D, .span 0xA41 0xA58,
   .one 0xA5D, .span 0xA5F 0xA65, .span 0xA70 0xA71, .one 0xA75, .span 0xA77 0xA82, .one 0xA84,
   .one 0xA8E, .one 0xA92, .one 0xAA9, .one 0xAB1, .one 0xAB4, .span 0xABA 0xABC,
   .span 0xAC1 0xAC8, .one 0xACA, .span 0xACD 0xACF, .span 0xAD1 0xADF, .span 0xAE2 0xAE5,
   .span 0xAF2 0xAF8, .span 0xAFA 0xB01, .one 0xB04, .span 0xB0D 0xB0E, .span 0xB11 0xB12,
   .one 0xB29, .one 0xB31, .one 0xB34, .span 0xB3A 0xB3C, .span 0xB3E 0xB3F, .span 0xB41 0xB46,
   .span 0xB49 0xB4A, .span 0xB4D 0xB5B, .one 0xB5E, .span 0xB62 0xB65, .span 0xB78 0xB82,
   .one 0xB84, .span 0xB8B 0xB8D, .one 0xB91, .span 0xB96 0xB98, .one 0xB9B, .one 0xB9D,
   .span 0xBA0 0xBA2, .span 0xBA5 0xBA7, .span 0xBAB 0xBAD, .span 0xBBA 0xBBE, .one 0xBC0,
   .span 0xBC3 0xBC5, .one 0xBC9, .span 0xBCD 0xBCF, .span 0xBD1 0xBE5, .span 0xBFB 0xC00,
   .one 0xC04, .one 0xC0D, .one 0xC11, .one 0xC29, .span 0xC3A 0xC3C, .span 0xC3E 0xC40,
   .span 0xC45 0xC57, .one 0xC5B, .span 0xC5E 0xC5F, .span 0xC62 0xC65, .span 0xC70 0xC76,
   .one 0xC81, .one 0xC8D, .one 0xC91, .one 0xCA9, .one 0xCB4, .span 0xCBA 0xCBC,
   .span 0xCBF 0xCC0, .one 0xCC2, .span 0xCC5 0xCDB, .one 0xCDF, .span 0xCE2 0xCE5, .one 0xCF0,
   .span 0xCF4 0xD01, .one 0xD0D, .one 0xD11, .span 0xD3B 0xD3C, .one 0xD3E, .span 0xD41 0xD45,
   .one 0xD49, .one 0xD4D, .span 0xD50 0xD53, .one 0xD57, .span 0xD62 0xD65, .span 0xD80 0xD81,
   .one 0xD84, .span 0xD97 0xD99, .one 0xDB2, .one 0xDBC, .span 0xDBE 0xDBF, .span 0xDC7 0xDCF,
   .span 0xDD2 0xDD7, .span 0xDDF 0xDE5, .span 0xDF0 0xDF1, .span 0xDF5 0xE00, .one 0xE31,
   .span 0xE34 0xE3E, .span 0xE47 0xE4E, .span 0xE5C 0xE80, .one 0xE83, .one 0xE85, .one 0xE8B,
   .one 0xEA4, .one 0xEA6, .one 0xEB1, .span 0xEB4 0xEBC, .span 0xEBE 0xEBF, .one 0xEC5,
   .span 0xEC7 0xECF, .span 0xEDA 0xEDB, .span 0xEE0 0xEFF, .span 0xF18 0xF19, .one 0xF35,
   .one 0xF37, .one 0xF39, .one 0xF48, .span 0xF6D 0xF7E, .span 0xF80 0xF84, .span 0xF86 0xF87,
   .span 0xF8D 0xFBD, .one 0xFC6, .one 0xFCD, .span 0xFDB 0xFFF, .span 0x102D 0x1030,
   .span 0x1032 0x1037, .span 0x1039 0x103A, .span 0x103D 0x103E, .span 0x1058 0x1059,
   .span 0x105E 0x1060, .span 0x1071 0x1074, .one 0x1082, .span 0x1085 0x1086, .one 0x108D,
   .one 0x109D, .one 0x10C6, .span 0x10C8 0x10CC, .span 0x10CE 0x10CF, .span 0x115F 0x1160,
   .one 0x1249, .span 0x124E 0x124F, .one 0x1257, .one 0x1259, .span 0x125E 0x125F, .one 0x1289,
   .span 0x128E 0x128F, .one 0x12B1, .span 0x12B6 0x12B7, .one 0x12BF, .one 0x12C1,
   .span 0x12C6 0x12C7, .one 0x12D7, .one 0x1311, .span 0x1316 0x1317, .span 0x135B 0x135F,
   .span 0x137D 0x137F, .span 0x139A 0x139F, .span 0x13F6 0x13F7, .span 0x13FE 0x13FF,
   .one 0x1680, .span 0x169D 0x169F, .span 0x16F9 0x16FF, .span 0x1712 0x171E,
   .span 0x1732 0x1734, .span 0x1737 0x173F, .span 0x1752 0x175F, .one 0x176D,
   .span 0x1771 0x177F, .span 0x17B4 0x17B5, .span 0x17B7 0x17BD, .one 0x17C6,
   .span 0x17C9 0x17D3, .span 0x17DD 0x17DF, .span 0x17EA 0x17EF, .span 0x17FA 0x17FF,
   .span 0x180B 0x180F, .span 0x181A 0x181F, .span 0x1879 0x187F, .span 0x1885 0x1886,
   .one 0x18A9, .span 0x18AB 0x18AF, .span 0x18F6 0x18FF, .span 0x191F 0x1922,
   .span 0x1927 0x1928, .span 0x192C 0x192F, .one 0x1932, .span 0x1939 0x193F,
   .span 0x1941 0x1943, .span 0x196E 0x196F, .span 0x1975 0x197F, .span 0x19AC 0x19AF,
   .span 0x19CA 0x19CF, .span 0x19DB 0x19DD, .span 0x1A17 0x1A18, .span 0x1A1B 0x1A1D,
   .one 0x1A56, .span 0x1A58 0x1A60, .one 0x1A62, .span 0x1A65 0x1A6C, .span 0x1A73 0x1A7F,
   .span 0x1A8A 0x1A8F, .span 0x1A9A 0x1A9F, .span 0x1AAE 0x1B03, .span 0x1B34 0x1B3D,
   .span 0x1B42 0x1B44, .one 0x1B4D, .span 0x1B6B 0x1B73, .span 0x1B80 0x1B81,
   .span 0x1BA2 0x1BA5, .span 0x1BA8 0x1BAD, .one 0x1BE6, .span 0x1BE8 0x1BE9, .one 0x1BED,
   .span 0x1BEF 0x1BFB, .span 0x1C2C 0x1C33, .span 0x1C36 0x1C3A, .span 0x1C4A 0x1C4C,
   .span 0x1C8B 0x1C8F, .span 0x1CBB 0x1CBC, .span 0x1CC8 0x1CD2, .span 0x1CD4 0x1CE0,
   .span 0x1CE2 0x1CE8, .one 0x1CED, .one 0x1CF4, .span 0x1CF8 0x1CF9, .span 0x1CFB 0x1CFF,
   .span 0x1DC0 0x1DFF, .span 0x1F16 0x1F17, .span 0x1F1E 0x1F1F, .span 0x1F46 0x1F47,
   .span 0x1F4E 0x1F4F, .one 0x1F58, .one 0x1F5A, .one 0x1F5C, .one 0x1F5E, .span 0x1F7E 0x1F7F,
   .one 0x1FB5, .one 0x1FC5, .span 0x1FD4 0x1FD5, .one 0x1FDC, .span 0x1FF0 0x1FF1, .one 0x1FF5,
   .span 0x1FFF 0x200F, .span 0x2028 0x202F, .span 0x205F 0x206F, .span 0x2072 0x2073,
   .one 0x208F, .span 0x209D 0x209F, .span 0x20C2 0x20FF, .span 0x218C 0x218F,
   .span 0x242A 0x243F, .span 0x244B 0x245F, .span 0x2B74 0x2B75, .span 0x2CEF 0x2CF1,
   .span 0x2CF4 0x2CF8, .one 0x2D26, .span 0x2D28 0x2D2C, .span 0x2D2E 0x2D2F,
   .span 0x2D68 0x2D6E, .span 0x2D71 0x2D7F, .span 0x2D97 0x2D9F, .one 0x2DA7, .one 0x2DAF,
   .one 0x2DB7, .one 0x2DBF, .one 0x2DC7, .one 0x2DCF, .one 0x2DD7, .span 0x2DDF 0x2DFF,
   .span 0x2E5E 0x2E7F, .one 0x2E9A, .span 0x2EF4 0x2EFF, .span 0x2FD6 0x2FEF, .one 0x3000,
   .span 0x302A 0x302F, .one 0x3040, .span 0x3097 0x309A, .span 0x3100 0x3104, .one 0x3130,
   .one 0x3164, .one 0x318F, .span 0x31E6 0x31EE, .one 0x321F, .span 0xA48D 0xA48F,
   .span 0xA4C7 0xA4CF, .span 0xA62C 0xA63F, .span 0xA66F 0xA672, .span 0xA674 0xA67D,
   .span 0xA69E 0xA69F, .span 0xA6F0 0xA6F1, .span 0xA6F8 0xA6FF, .span 0xA7DD 0xA7F0,
   .one 0xA802, .one 0xA806, .one 0xA80B, .span 0xA825 0xA826, .span 0xA82C 0xA82F,
   .span 0xA83A 0xA83F, .span 0xA878 0xA87F, .span 0xA8C4 0xA8CD, .span 0xA8DA 0xA8F1,
   .one 0xA8FF, .span 0xA926 0xA92D, .span 0xA947 0xA951, .span 0xA953 0xA95E,
   .span 0xA97D 0xA982, .one 0xA9B3, .span 0xA9B6 0xA9B9, .span 0xA9BC 0xA9BD, .one 0xA9C0,
   .one 0xA9CE, .span 0xA9DA 0xA9DD, .one 0xA9E5, .one 0xA9FF, .span 0xAA29 0xAA2E,
   .span 0xAA31 0xAA32, .span 0xAA35 0xAA3F, .one 0xAA43, .one 0xAA4C, .span 0xAA4E 0xAA4F,
   .span 0xAA5A 0xAA5B, .one 0xAA7C, .one 0xAAB0, .span 0xAAB2 0xAAB4, .span 0xAAB7 0xAAB8,
   .span 0xAABE 0xAABF, .one 0xAAC1, .span 0xAAC3 0xAADA, .span 0xAAEC 0xAAED,
   .span 0xAAF6 0xAB00, .span 0xAB07 0xAB08, .span 0xAB0F 0xAB10, .span 0xAB17 0xAB1F,
   .one 0xAB27, .one 0xAB2F, .span 0xAB6C 0xAB6F, .one 0xABE5, .one 0xABE8, .span 0xABED 0xABEF,
   .span 0xABFA 0xABFF, .span 0xD7A4 0xD7AF, .span 0xD7C7 0xD7CA, .span 0xD7FC 0xF8FF,
   .span 0xFA6E 0xFA6F, .span 0xFADA 0xFAFF, .span 0xFB07 0xFB12, .span 0xFB18 0xFB1C,
   .one 0xFB1E, .one 0xFB37, .one 0xFB3D, .one 0xFB3F, .one 0xFB42, .one 0xFB45,
   .span 0xFDD0 0xFDEF, .span 0xFE00 0xFE0F, .span 0xFE1A 0xFE2F, .one 0xFE53, .one 0xFE67,
   .span 0xFE6C 0xFE6F, .one 0xFE75, .span 0xFEFD 0xFF00, .one 0xFFA0, .span 0xFFBF 0xFFC1,
   .span 0xFFC8 0xFFC9, .span 0xFFD0 0xFFD1, .span 0xFFD8 0xFFD9, .span 0xFFDD 0xFFDF,
   .one 0xFFE7, .span 0xFFEF 0xFFFB, .span 0xFFFE 0xFFFF, .one 0x1000C, .one 0x10027,
   .one 0x1003B, .one 0x1003E, .span 0x1004E 0x1004F, .span 0x1005E 0x1007F,
   .span 0x100FB 0x100FF, .span 0x10103 0x10106, .span 0x10134 0x10136, .one 0x1018F,
   .span 0x1019D 0x1019F, .span 0x101A1 0x101CF, .span 0x101FD 0x1027F, .span 0x1029D 0x1029F,
   .span 0x102D1 0x102E0, .span 0x102FC 0x102FF, .span 0x10324 0x1032C, .span 0x1034B 0x1034F,
   .span 0x10376 0x1037F, .one 0x1039E, .span 0x103C4 0x103C7, .span 0x103D6 0x103FF,
   .span 0x1049E 0x1049F, .span 0x104AA 0x104AF, .span 0x104D4 0x104D7, .span 0x104FC 0x104FF,
   .span 0x10528 0x1052F, .span 0x10564 0x1056E, .one 0x1057B, .one 0x1058B, .one 0x10593,
   .one 0x10596, .one 0x105A2, .one 0x105B2, .one 0x105BA, .span 0x105BD 0x105BF,
   .span 0x105F4 0x105FF, .span 0x10737 0x1073F, .span 0x10756 0x1075F, .span 0x10768 0x1077F,
   .one 0x10786, .one 0x107B1, .span 0x107BB 0x107FF, .span 0x10806 0x10807, .one 0x10809,
   .one 0x10836, .span 0x10839 0x1083B, .span 0x1083D 0x1083E, .one 0x10856,
   .span 0x1089F 0x108A6, .span 0x108B0 0x108DF, .one 0x108F3, .span 0x108F6 0x108FA,
   .span 0x1091C 0x1091E, .span 0x1093A 0x1093E, .span 0x1095A 0x1097F, .span 0x109B8 0x109BB,
   .span 0x109D0 0x109D1, .span 0x10A01 0x10A0F, .one 0x10A14, .one 0x10A18,
   .span 0x10A36 0x10A3F, .span 0x10A49 0x10A4F, .span 0x10A59 0x10A5F, .span 0x10AA0 0x10ABF,
   .span 0x10AE5 0x10AEA, .span 0x10AF7 0x10AFF, .span 0x10B36 0x10B38, .span 0x10B56 0x10B57,
   .span 0x10B73 0x10B77, .span 0x10B92 0x10B98, .span 0x10B9D 0x10BA8, .span 0x10BB0 0x10BFF,
   .span 0x10C49 0x10C7F, .span 0x10CB3 0x10CBF, .span 0x10CF3 0x10CF9, .span 0x10D24 0x10D2F,
   .span 0x10D3A 0x10D3F, .span 0x10D66 0x10D6D, .span 0x10D86 0x10D8D, .span 0x10D90 0x10E5F,
   .one 0x10E7F, .span 0x10EAA 0x10EAC, .span 0x10EAE 0x10EAF, .span 0x10EB2 0x10EC1,
   .span 0x10EC8 0x10ECF, .span 0x10ED9 0x10EFF, .span 0x10F28 0x10F2F, .span 0x10F46 0x10F50,
   .span 0x10F5A 0x10F6F, .span 0x10F82 0x10F85, .span 0x10F8A 0x10FAF, .span 0x10FCC 0x10FDF,
   .span 0x10FF7 0x10FFF, .one 0x11001, .span 0x11038 0x11046, .span 0x1104E 0x11051,
   .one 0x11070, .span 0x11073 0x11074, .span 0x11076 0x11081, .span 0x110B3 0x110B6,
   .span 0x110B9 0x110BA, .one 0x110BD, .span 0x110C2 0x110CF, .span 0x110E9 0x110EF,
   .span 0x110FA 0x11102, .span 0x11127 0x1112B, .span 0x1112D 0x11135, .span 0x11148 0x1114F,
   .one 0x11173, .span 0x11177 0x11181, .span 0x111B6 0x111BE, .one 0x111C0,
   .span 0x111C9 0x111CC, .one 0x111CF, .one 0x111E0, .span 0x111F5 0x111FF, .one 0x11212,
   .span 0x1122F 0x11231, .span 0x11234 0x11237, .one 0x1123E, .span 0x11241 0x1127F,
   .one 0x11287, .one 0x11289, .one 0x1128E, .one 0x1129E, .span 0x112AA 0x112AF, .one 0x112DF,
   .span 0x112E3 0x112EF, .span 0x112FA 0x11301, .one 0x11304, .span 0x1130D 0x1130E,
   .span 0x11311 0x11312, .one 0x11329, .one 0x11331, .one 0x11334, .span 0x1133A 0x1133C,
   .one 0x1133E, .one 0x11340, .span 0x11345 0x11346, .span 0x11349 0x1134A,
   .span 0x1134D 0x1134F, .span 0x11351 0x1135C, .span 0x11364 0x1137F, .one 0x1138A,
   .span 0x1138C 0x1138D, .one 0x1138F, .one 0x113B6, .one 0x113B8, .span 0x113BB 0x113C9,
   .one 0x113CB, .span 0x113CE 0x113D0, .one 0x113D2, .one 0x113D6, .span 0x113D9 0x113FF,
   .span 0x11438 0x1143F, .span 0x11442 0x11444, .one 0x11446, .one 0x1145C, .one 0x1145E,
   .span 0x11462 0x1147F, .one 0x114B0, .span 0x114B3 0x114B8, .one 0x114BA, .one 0x114BD,
   .span 0x114BF 0x114C0, .span 0x114C2 0x114C3, .span 0x114C8 0x114CF, .span 0x114DA 0x1157F,
   .one 0x115AF, .span 0x115B2 0x115B7, .span 0x115BC 0x115BD, .span 0x115BF 0x115C0,
   .span 0x115DC 0x115FF, .span 0x11633 0x1163A, .one 0x1163D, .span 0x1163F 0x11640,
   .span 0x11645 0x1164F, .span 0x1165A 0x1165F, .span 0x1166D 0x1167F, .one 0x116AB,
   .one 0x116AD, .span 0x116B0 0x116B7, .span 0x116BA 0x116BF, .span 0x116CA 0x116CF,
   .span 0x116E4 0x116FF, .span 0x1171B 0x1171D, .one 0x1171F, .span 0x11722 0x11725,
   .span 0x11727 0x1172F, .span 0x11747 0x117FF, .span 0x1182F 0x11837, .span 0x11839 0x1183A,
   .span 0x1183C 0x1189F, .span 0x118F3 0x118FE, .span 0x11907 0x11908, .span 0x1190A 0x1190B,
   .one 0x11914, .one 0x11917, .one 0x11930, .one 0x11936, .span 0x11939 0x1193E, .one 0x11943,
   .span 0x11947 0x1194F, .span 0x1195A 0x1199F, .span 0x119A8 0x119A9, .span 0x119D4 0x119DB,
   .one 0x119E0, .span 0x119E5 0x119FF, .span 0x11A01 0x11A0A, .span 0x11A33 0x11A38,
   .span 0x11A3B 0x11A3E, .span 0x11A47 0x11A4F, .span 0x11A51 0x11A56, .span 0x11A59 0x11A5B,
   .span 0x11A8A 0x11A96, .span 0x11A98 0x11A99, .span 0x11AA3 0x11AAF, .span 0x11AF9 0x11AFF,
   .span 0x11B0A 0x11B60, .span 0x11B62 0x11B64, .one 0x11B66, .span 0x11B68 0x11BBF,
   .span 0x11BE2 0x11BEF, .span 0x11BFA 0x11BFF, .one 0x11C09, .span 0x11C30 0x11C3D,
   .one 0x11C3F, .span 0x11C46 0x11C4F, .span 0x11C6D 0x11C6F, .span 0x11C90 0x11CA8,
   .span 0x11CAA 0x11CB0, .span 0x11CB2 0x11CB3, .span 0x11CB5 0x11CFF, .one 0x11D07,
   .one 0x11D0A, .span 0x11D31 0x11D45, .span 0x11D47 0x11D4F, .span 0x11D5A 0x11D5F,
   .one 0x11D66, .one 0x11D69, .span 0x11D8F 0x11D92, .one 0x11D95, .one 0x11D97,
   .span 0x11D99 0x11D9F, .span 0x11DAA 0x11DAF, .span 0x11DDC 0x11DDF, .span 0x11DEA 0x11EDF,
   .span 0x11EF3 0x11EF4, .span 0x11EF9 0x11F01, .one 0x11F11, .span 0x11F36 0x11F3D,
   .span 0x11F40 0x11F42, .span 0x11F5A 0x11FAF, .span 0x11FB1 0x11FBF, .span 0x11FF2 0x11FFE,
   .span 0x1239A 0x123FF, .one 0x1246F, .span 0x12475 0x1247F, .span 0x12544 0x12F8F,
   .span 0x12FF3 0x12FFF, .span 0x13430 0x13440, .span 0x13447 0x1345F, .span 0x143FB 0x143FF,
   .span 0x14647 0x160FF, .span 0x1611E 0x16129, .span 0x1612D 0x1612F, .span 0x1613A 0x167FF,
   .span 0x16A39 0x16A3F, .one 0x16A5F, .span 0x16A6A 0x16A6D, .one 0x16ABF,
   .span 0x16ACA 0x16ACF, .span 0x16AEE 0x16AF4, .span 0x16AF6 0x16AFF, .span 0x16B30 0x16B36,
   .span 0x16B46 0x16B4F, .one 0x16B5A, .one 0x16B62, .span 0x16B78 0x16B7C,
   .span 0x16B90 0x16D3F, .span 0x16D7A 0x16E3F, .span 0x16E9B 0x16E9F, .span 0x16EB9 0x16EBA,
   .span 0x16ED4 0x16EFF, .span 0x16F4B 0x16F4F, .span 0x16F88 0x16F92, .span 0x16FA0 0x16FDF,
   .span 0x16FE4 0x16FF1, .span 0x16FF7 0x16FFF, .span 0x18CD6 0x18CFE, .span 0x18D1F 0x18D7F,
   .span 0x18DF3 0x1AFEF, .one 0x1AFF4, .one 0x1AFFC, .one 0x1AFFF, .span 0x1B123 0x1B131,
   .span 0x1B133 0x1B14F, .span 0x1B153 0x1B154, .span 0x1B156 0x1B163, .span 0x1B168 0x1B16F,
   .span 0x1B2FC 0x1BBFF, .span 0x1BC6B 0x1BC6F, .span 0x1BC7D 0x1BC7F, .span 0x1BC89 0x1BC8F,
   .span 0x1BC9A 0x1BC9B, .span 0x1BC9D 0x1BC9E, .span 0x1BCA0 0x1CBFF, .span 0x1CCFD 0x1CCFF,
   .span 0x1CEB4 0x1CEB9, .span 0x1CED1 0x1CEDF, .span 0x1CEF1 0x1CF4F, .span 0x1CFC4 0x1CFFF,
   .span 0x1D0F6 0x1D0FF, .span 0x1D127 0x1D128, .span 0x1D165 0x1D169, .span 0x1D16D 0x1D182,
   .span 0x1D185 0x1D18B, .span 0x1D1AA 0x1D1AD, .span 0x1D1EB 0x1D1FF, .span 0x1D242 0x1D244,
   .span 0x1D246 0x1D2BF, .span 0x1D2D4 0x1D2DF, .span 0x1D2F4 0x1D2FF, .span 0x1D357 0x1D35F,
   .span 0x1D379 0x1D3FF, .one 0x1D455, .one 0x1D49D, .span 0x1D4A0 0x1D4A1,
   .span 0x1D4A3 0x1D4A4, .span 0x1D4A7 0x1D4A8, .one 0x1D4AD, .one 0x1D4BA, .one 0x1D4BC,
   .one 0x1D4C4, .one 0x1D506, .span 0x1D50B 0x1D50C, .one 0x1D515, .one 0x1D51D, .one 0x1D53A,
   .one 0x1D53F, .one 0x1D545, .span 0x1D547 0x1D549, .one 0x1D551, .span 0x1D6A6 0x1D6A7,
   .span 0x1D7CC 0x1D7CD, .span 0x1DA00 0x1DA36, .span 0x1DA3B 0x1DA6C, .one 0x1DA75,
   .one 0x1DA84, .span 0x1DA8C 0x1DEFF, .span 0x1DF1F 0x1DF24, .span 0x1DF2B 0x1E02F,
   .span 0x1E06E 0x1E0FF, .span 0x1E12D 0x1E136, .span 0x1E13E 0x1E13F, .span 0x1E14A 0x1E14D,
   .span 0x1E150 0x1E28F, .span 0x1E2AE 0x1E2BF, .span 0x1E2EC 0x1E2EF, .span 0x1E2FA 0x1E2FE,
   .span 0x1E300 0x1E4CF, .span 0x1E4EC 0x1E4EF, .span 0x1E4FA 0x1E5CF, .span 0x1E5EE 0x1E5EF,
   .span 0x1E5FB 0x1E5FE, .span 0x1E600 0x1E6BF, .one 0x1E6DF, .one 0x1E6E3, .one 0x1E6E6,
   .span 0x1E6EE 0x1E6EF, .span 0x1E6F5 0x1E6FD, .span 0x1E700 0x1E7DF, .one 0x1E7E7,
   .one 0x1E7EC, .one 0x1E7EF, .one 0x1E7FF, .span 0x1E8C5 0x1E8C6, .span 0x1E8D0 0x1E8FF,
   .span 0x1E944 0x1E94A, .span 0x1E94C 0x1E94F, .span 0x1E95A 0x1E95D, .span 0x1E960 0x1EC70,
   .span 0x1ECB5 0x1ED00, .span 0x1ED3E 0x1EDFF, .one 0x1EE04, .one 0x1EE20, .one 0x1EE23,
   .span 0x1EE25 0x1EE26, .one 0x1EE28, .one 0x1EE33, .one 0x1EE38, .one 0x1EE3A,
   .span 0x1EE3C 0x1EE41, .span 0x1EE43 0x1EE46, .one 0x1EE48, .one 0x1EE4A, .one 0x1EE4C,
   .one 0x1EE50, .one 0x1EE53, .span 0x1EE55 0x1EE56, .one 0x1EE58, .one 0x1EE5A, .one 0x1EE5C,
   .one 0x1EE5E, .one 0x1EE60, .one 0x1EE63, .span 0x1EE65 0x1EE66, .one 0x1EE6B, .one 0x1EE73,
   .one 0x1EE78, .one 0x1EE7D, .one 0x1EE7F, .one 0x1EE8A, .span 0x1EE9C 0x1EEA0, .one 0x1EEA4,
   .one 0x1EEAA, .span 0x1EEBC 0x1EEEF, .span 0x1EEF2 0x1EFFF, .span 0x1F02C 0x1F02F,
   .span 0x1F094 0x1F09F, .span 0x1F0AF 0x1F0B0, .one 0x1F0C0, .one 0x1F0D0,
   .span 0x1F0F6 0x1F0FF, .span 0x1F1AE 0x1F1E5, .span 0x1F203 0x1F20F, .span 0x1F23C 0x1F23F,
   .span 0x1F249 0x1F24F, .span 0x1F252 0x1F25F, .span 0x1F266 0x1F2FF, .span 0x1F6D9 0x1F6DB,
   .span 0x1F6ED 0x1F6EF, .span 0x1F6FD 0x1F6FF, .span 0x1F7DA 0x1F7DF, .span 0x1F7EC 0x1F7EF,
   .span 0x1F7F1 0x1F7FF, .span 0x1F80C 0x1F80F, .span 0x1F848 0x1F84F, .span 0x1F85A 0x1F85F,
   .span 0x1F888 0x1F88F, .span 0x1F8AE 0x1F8AF, .span 0x1F8BC 0x1F8BF, .span 0x1F8C2 0x1F8CF,
   .span 0x1F8D9 0x1F8FF, .span 0x1FA58 0x1FA5F, .span 0x1FA6E 0x1FA6F, .span 0x1FA7D 0x1FA7F,
   .span 0x1FA8B 0x1FA8D, .one 0x1FAC7, .span 0x1FAC9 0x1FACC, .span 0x1FADD 0x1FADE,
   .span 0x1FAEB 0x1FAEE, .span 0x1FAF9 0x1FAFF, .one 0x1FB93, .span 0x1FBFB 0x1FFFF,
   .span 0x2A6E0 0x2A6FF, .span 0x2B81E 0x2B81F, .span 0x2CEAE 0x2CEAF, .span 0x2EBE1 0x2EBEF,
   .span 0x2EE5E 0x2F7FF, .span 0x2FA1E 0x2FFFF, .span 0x3134B 0x3134F, .span 0x3347A 0x10FFFF]

end LexScan.Text
