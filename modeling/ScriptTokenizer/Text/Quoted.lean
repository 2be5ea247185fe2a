/-
  ScriptTokenizer/Text/Quoted.lean
  ================================
  **A character between single quotes.**

  Messages quote the character they speak of.  The characters with a short name
  are written by it, the backslash and the single quote are escaped, and what
  cannot be shown is written by its code point in hexadecimal.
-/
import ScriptTokenizer.Text.Unprintable

namespace ScriptTokenizer

/-- The lower-case hexadecimal digits of a number, without padding. -/
def hexDigits (n : Nat) : String := String.ofList (Nat.toDigits 16 n)

/-- What stands for a character between single quotes. -/
def escapeChar (c : Char) : String :=
  match c with
  | '\x00' => "\\0"
  | '\t' => "\\t"
  | '\n' => "\\n"
  | '\r' => "\\r"
  | '\\' => "\\\\"
  | '\'' => "\\'"
  | c => if isUnprintable c then "\\u\x7b" ++ hexDigits c.toNat ++ "\x7d" else String.singleton c

def quoteChar (c : Char) : String := "'" ++ escapeChar c ++ "'"

end ScriptTokenizer
