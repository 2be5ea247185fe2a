/-
  ScriptTokenizer/Text/Unprintable.lean
  =====================================
  **Characters that a message cannot show as themselves.**

  Control characters, unassigned and private code points, invisible format
  characters, and marks that would combine with the quote before them.  A
  message names such a character by its code point instead.

  The ranges from U+0080 on answer for characters that are neither alphabetic
  nor blank, which are the only ones a message ever quotes; on alphabetic and
  blank characters they run on without meaning anything.
-/
import ScriptTokenizer.Text.RangeSet

namespace ScriptTokenizer

/-- The unprintable code points from U+0080 on, as ascending closed ranges. -/
def unprintableRanges : List (Nat × Nat) :=
  [(0x80, 0x9F), (0xAD, 0xAD), (0x300, 0x362), (0x378, 0x379), (0x380, 0x383),
   (0x38B, 0x3A2), (0x483, 0x558), (0x58B, 0x58C), (0x590, 0x5AF), (0x5C8, 0x5EE),
   (0x5F5, 0x605), (0x61C, 0x61C), (0x658, 0x658), (0x6DD, 0x6DD), (0x6DF, 0x6E0),
   (0x6EA, 0x6EC), (0x70E, 0x7BF), (0x7EB, 0x7F3), (0x7FB, 0x7FD), (0x818, 0x82F),
   (0x83F, 0x85D), (0x85F, 0x86F), (0x890, 0x954), (0x984, 0x9E5), (0x9FE, 0xA65),
   (0xA77, 0xAE5), (0xAF2, 0xB65), (0xB78, 0xBE5), (0xBFB, 0xC65), (0xC70, 0xC76),
   (0xC8D, 0xCE5), (0xCF0, 0xD4D), (0xD50, 0xD53), (0xD64, 0xD65), (0xD80, 0xDE5),
   (0xDF0, 0xDF1), (0xDF5, 0xE3E), (0xE47, 0xE4E), (0xE5C, 0xECF), (0xEDA, 0xEFF),
   (0xF18, 0xF19), (0xF35, 0xF35), (0xF37, 0xF37), (0xF39, 0xF39), (0xF48, 0xF84),
   (0xF86, 0xFBD), (0xFC6, 0xFC6), (0xFCD, 0xFCD), (0xFDB, 0x103A), (0x10C6, 0x10CF),
   (0x1249, 0x135F), (0x137D, 0x137F), (0x139A, 0x13FF), (0x169D, 0x169F),
   (0x16F9, 0x1734), (0x1737, 0x17D3), (0x17DD, 0x17DF), (0x17EA, 0x17EF),
   (0x17FA, 0x17FF), (0x180B, 0x180F), (0x181A, 0x193F), (0x1941, 0x1943),
   (0x196E, 0x19CF), (0x19DB, 0x19DD), (0x1A1C, 0x1A1D), (0x1A5F, 0x1A7F),
   (0x1A8A, 0x1A8F), (0x1A9A, 0x1A9F), (0x1AAE, 0x1B4D), (0x1B6B, 0x1B73),
   (0x1BAA, 0x1BAB), (0x1BE6, 0x1BFB), (0x1C37, 0x1C3A), (0x1C4A, 0x1C4C),
   (0x1C8B, 0x1CBC), (0x1CC8, 0x1CD2), (0x1CD4, 0x1CE0), (0x1CE2, 0x1CF4),
   (0x1CF8, 0x1FB5), (0x1FC5, 0x1FC5), (0x1FD4, 0x1FDC), (0x1FF0, 0x1FF5),
   (0x1FFF, 0x200F), (0x202A, 0x202E), (0x2060, 0x206F), (0x2072, 0x2073),
   (0x208F, 0x209F), (0x20C2, 0x20FF), (0x218C, 0x218F), (0x242A, 0x243F),
   (0x244B, 0x245F), (0x2B74, 0x2B75), (0x2CEF, 0x2CF8), (0x2D26, 0x2D6E),
   (0x2D71, 0x2DDF), (0x2E5E, 0x2E7F), (0x2E9A, 0x2E9A), (0x2EF4, 0x2EFF),
   (0x2FD6, 0x2FEF), (0x302A, 0x302F), (0x3040, 0x309A), (0x3100, 0x318F),
   (0x31E6, 0x31EE), (0x321F, 0x321F), (0xA48D, 0xA48F), (0xA4C7, 0xA4CF),
   (0xA62C, 0xA672), (0xA67C, 0xA67D), (0xA6F0, 0xA6F1), (0xA6F8, 0xA6FF),
   (0xA7DD, 0xA806), (0xA82C, 0xA82F), (0xA83A, 0xA83F), (0xA878, 0xA8CD),
   (0xA8DA, 0xA8F1), (0xA92B, 0xA92D), (0xA953, 0xA95E), (0xA97D, 0xA9C0),
   (0xA9CE, 0xA9CE), (0xA9DA, 0xA9DD), (0xA9FF, 0xAA4F), (0xAA5A, 0xAA5B),
   (0xAABF, 0xAADA), (0xAAF6, 0xAB2F), (0xAB6C, 0xAB6F), (0xABED, 0xABEF),
   (0xABFA, 0xFB1C), (0xFB37, 0xFB45), (0xFDD0, 0xFDEF), (0xFE00, 0xFE0F),
   (0xFE1A, 0xFE2F), (0xFE53, 0xFE53), (0xFE67, 0xFE67), (0xFE6C, 0xFF00),
   (0xFFBF, 0xFFDF), (0xFFE7, 0xFFE7), (0xFFEF, 0xFFFB), (0xFFFE, 0x100FF),
   (0x10103, 0x10106), (0x10134, 0x10136), (0x1018F, 0x1018F), (0x1019D, 0x1019F),
   (0x101A1, 0x101CF), (0x101FD, 0x102E0), (0x102FC, 0x102FF), (0x10324, 0x1039E),
   (0x103C4, 0x103C7), (0x103D6, 0x1049F), (0x104AA, 0x1056E), (0x1057B, 0x10856),
   (0x1089F, 0x108A6), (0x108B0, 0x108FA), (0x1091C, 0x1091E), (0x1093A, 0x1093E),
   (0x1095A, 0x109BB), (0x109D0, 0x109D1), (0x10A04, 0x10A3F), (0x10A49, 0x10A4F),
   (0x10A59, 0x10A5F), (0x10AA0, 0x10ABF), (0x10AE5, 0x10AEA), (0x10AF7, 0x10B38),
   (0x10B56, 0x10B57), (0x10B73, 0x10B77), (0x10B92, 0x10B98), (0x10B9D, 0x10BA8),
   (0x10BB0, 0x10CF9), (0x10D28, 0x10D2F), (0x10D3A, 0x10D3F), (0x10D66, 0x10D6D),
   (0x10D86, 0x10D8D), (0x10D90, 0x10E5F), (0x10E7F, 0x10EAA), (0x10EAE, 0x10ECF),
   (0x10ED9, 0x10EFF), (0x10F28, 0x10F50), (0x10F5A, 0x10F85), (0x10F8A, 0x10FAF),
   (0x10FCC, 0x11046), (0x1104E, 0x11051), (0x11070, 0x110BA), (0x110BD, 0x110BD),
   (0x110C3, 0x110EF), (0x110FA, 0x11135), (0x11148, 0x11173), (0x11177, 0x111C0),
   (0x111C9, 0x111CC), (0x111E0, 0x111E0), (0x111F5, 0x11236), (0x11242, 0x1129E),
   (0x112AA, 0x112EF), (0x112FA, 0x113D2), (0x113D6, 0x113D6), (0x113D9, 0x11446),
   (0x1145C, 0x1145C), (0x1145E, 0x114C3), (0x114C8, 0x114CF), (0x114DA, 0x115C0),
   (0x115DE, 0x1163F), (0x11645, 0x1164F), (0x1165A, 0x1165F), (0x1166D, 0x116B7),
   (0x116BA, 0x116BF), (0x116CA, 0x116CF), (0x116E4, 0x1172F), (0x11747, 0x1183A),
   (0x1183C, 0x1189F), (0x118F3, 0x11943), (0x11947, 0x1194F), (0x1195A, 0x119E0),
   (0x119E5, 0x11A34), (0x11A47, 0x11A99), (0x11AA3, 0x11AFF), (0x11B0A, 0x11BBF),
   (0x11BE2, 0x11BEF), (0x11BFA, 0x11C3F), (0x11C46, 0x11C4F), (0x11C6D, 0x11C6F),
   (0x11C90, 0x11D4F), (0x11D5A, 0x11D9F), (0x11DAA, 0x11DDF), (0x11DEA, 0x11EDF),
   (0x11EF9, 0x11F42), (0x11F5A, 0x11FBF), (0x11FF2, 0x11FFE), (0x1239A, 0x1246F),
   (0x12475, 0x12F8F), (0x12FF3, 0x1612F), (0x1613A, 0x16A5F), (0x16A6A, 0x16A6D),
   (0x16ABF, 0x16ABF), (0x16ACA, 0x16AF4), (0x16AF6, 0x16B36), (0x16B46, 0x16B4F),
   (0x16B5A, 0x16B5A), (0x16B62, 0x16D3F), (0x16D7A, 0x16E3F), (0x16E9B, 0x16FDF),
   (0x16FE4, 0x1BC9B), (0x1BC9D, 0x1BC9D), (0x1BCA0, 0x1CBFF), (0x1CCFD, 0x1CCFF),
   (0x1CEB4, 0x1CEB9), (0x1CED1, 0x1CEDF), (0x1CEF1, 0x1CF4F), (0x1CFC4, 0x1CFFF),
   (0x1D0F6, 0x1D0FF), (0x1D127, 0x1D128), (0x1D165, 0x1D169), (0x1D16D, 0x1D182),
   (0x1D185, 0x1D18B), (0x1D1AA, 0x1D1AD), (0x1D1EB, 0x1D1FF), (0x1D242, 0x1D244),
   (0x1D246, 0x1D2BF), (0x1D2D4, 0x1D2DF), (0x1D2F4, 0x1D2FF), (0x1D357, 0x1D35F),
   (0x1D379, 0x1D6A7), (0x1D7CC, 0x1D7CD), (0x1DA00, 0x1DA36), (0x1DA3B, 0x1DA6C),
   (0x1DA75, 0x1DA75), (0x1DA84, 0x1DA84), (0x1DA8C, 0x1E13F), (0x1E14A, 0x1E14D),
   (0x1E150, 0x1E2EF), (0x1E2FA, 0x1E2FE), (0x1E300, 0x1E4EF), (0x1E4FA, 0x1E5EF),
   (0x1E5FB, 0x1E5FE), (0x1E600, 0x1E8C6), (0x1E8D0, 0x1E94F), (0x1E95A, 0x1E95D),
   (0x1E960, 0x1EC70), (0x1ECB5, 0x1ED00), (0x1ED3E, 0x1EEEF), (0x1EEF2, 0x1EFFF),
   (0x1F02C, 0x1F02F), (0x1F094, 0x1F09F), (0x1F0AF, 0x1F0B0), (0x1F0C0, 0x1F0C0),
   (0x1F0D0, 0x1F0D0), (0x1F0F6, 0x1F0FF), (0x1F1AE, 0x1F1E5), (0x1F203, 0x1F20F),
   (0x1F23C, 0x1F23F), (0x1F249, 0x1F24F), (0x1F252, 0x1F25F), (0x1F266, 0x1F2FF),
   (0x1F6D9, 0x1F6DB), (0x1F6ED, 0x1F6EF), (0x1F6FD, 0x1F6FF), (0x1F7DA, 0x1F7DF),
   (0x1F7EC, 0x1F7EF), (0x1F7F1, 0x1F7FF), (0x1F80C, 0x1F80F), (0x1F848, 0x1F84F),
   (0x1F85A, 0x1F85F), (0x1F888, 0x1F88F), (0x1F8AE, 0x1F8AF), (0x1F8BC, 0x1F8BF),
   (0x1F8C2, 0x1F8CF), (0x1F8D9, 0x1F8FF), (0x1FA58, 0x1FA5F), (0x1FA6E, 0x1FA6F),
   (0x1FA7D, 0x1FA7F), (0x1FA8B, 0x1FA8D), (0x1FAC7, 0x1FAC7), (0x1FAC9, 0x1FACC),
   (0x1FADD, 0x1FADE), (0x1FAEB, 0x1FAEE), (0x1FAF9, 0x1FAFF), (0x1FB93, 0x1FB93),
   (0x1FBFB, 0x10FFFF)]

theorem ascending_unprintableRanges : RangeSet.ascending unprintableRanges = true := by
  decide +kernel

def unprintableSet : RangeSet := RangeSet.ofList unprintableRanges ascending_unprintableRanges

/-- Is the character, neither alphabetic nor blank, one that cannot be shown?
    Within ASCII these are the control characters. -/
def isUnprintable (c : Char) : Bool :=
  if c.toNat < 0x80 then c.toNat < 0x20 || c.toNat == 0x7F else unprintableSet.contains c.toNat

end ScriptTokenizer
