/-
  ScriptTokenizer/Text/Blank.lean
  ===============================
  **Blank characters.**

  The characters with the Unicode property *White_Space*.  The information
  separators U+001C to U+001F, the Mongolian vowel separator, the zero width
  space and the byte order mark do not have it.

  Between the tokens of a line every blank separates, except the line feed: it
  ends the line and is a token of its own.
-/
namespace ScriptTokenizer

/-- Does the character have the property *White_Space*? -/
def isBlank (c : Char) : Bool :=
  let n := c.toNat
  (0x9 ≤ n && n ≤ 0xD) || n == 0x20 || n == 0x85 || n == 0xA0 || n == 0x1680 ||
    (0x2000 ≤ n && n ≤ 0x200A) || n == 0x2028 || n == 0x2029 || n == 0x202F ||
    n == 0x205F || n == 0x3000

/-- A blank that separates tokens within a line. -/
def isSpacing (c : Char) : Bool := c != '\n' && isBlank c

end ScriptTokenizer
