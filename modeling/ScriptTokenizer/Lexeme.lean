/-
  ScriptTokenizer/Lexeme.lean
  ===========================
  **Lexemes: what a text is made of before anything is dropped.**

  Every character of a text belongs to exactly one lexeme.  Blanks, comments,
  characters outside the grammar and constructs that the text ends in the
  middle of all have tags of their own, so reading lexemes cannot fail and
  their lengths add up to the length of the text.  Which tags become tokens and
  which are mistakes is decided later.

  The tags carry numbers, grouped by category: literals from 0, brackets from
  16, punctuation from 32, operators from 48, trivia from 112, mistakes from
  240, and 255 for the end.
-/
namespace ScriptTokenizer

/-- What a lexeme is. -/
inductive Tag where
  /-- A run of letters of any script and underscores. -/
  | word
  /-- A run of ASCII digits. -/
  | number
  /-- A quoted string with its quotes. -/
  | string
  | leftBrace
  | rightBrace
  | leftParen
  | rightParen
  | leftBracket
  | rightBracket
  | colon
  | question
  | semicolon
  | comma
  | dot
  | hash
  /-- A line feed. -/
  | newline
  | equal
  | plus
  | minus
  | star
  | dotDot
  | dotDotDot
  | bang
  | tilde
  /-- A run of blanks without line feeds. -/
  | spacing
  /-- `--` and the rest of its line, without the line feed. -/
  | lineComment
  /-- `--[[` up to and with the next `]]`. -/
  | blockComment
  /-- One character outside the grammar. -/
  | unrecognized
  /-- A quote that the text ends without closing. -/
  | unterminatedString
  /-- A `--[[` that the text ends without closing. -/
  | unterminatedBlockComment
  | eof
deriving DecidableEq, Repr

namespace Tag

def code : Tag → Nat
  | .word => 0
  | .number => 1
  | .string => 2
  | .leftBrace => 16
  | .rightBrace => 17
  | .leftParen => 18
  | .rightParen => 19
  | .leftBracket => 20
  | .rightBracket => 21
  | .colon => 32
  | .question => 33
  | .semicolon => 34
  | .comma => 35
  | .dot => 36
  | .hash => 37
  | .newline => 38
  | .equal => 48
  | .plus => 49
  | .minus => 50
  | .star => 51
  | .dotDot => 52
  | .dotDotDot => 53
  | .bang => 54
  | .tilde => 55
  | .spacing => 112
  | .lineComment => 113
  | .blockComment => 114
  | .unrecognized => 240
  | .unterminatedString => 241
  | .unterminatedBlockComment => 242
  | .eof => 255

def name : Tag → String
  | .word => "Namespace"
  | .number => "Number"
  | .string => "String"
  | .leftBrace => "LeftBrace"
  | .rightBrace => "RightBrace"
  | .leftParen => "LeftParen"
  | .rightParen => "RightParen"
  | .leftBracket => "LeftBracket"
  | .rightBracket => "RightBracket"
  | .colon => "Colon"
  | .question => "Question"
  | .semicolon => "Semicolon"
  | .comma => "Comma"
  | .dot => "Dot"
  | .hash => "Hash"
  | .newline => "Newline"
  | .equal => "Equal"
  | .plus => "Plus"
  | .minus => "Minus"
  | .star => "Star"
  | .dotDot => "DotDot"
  | .dotDotDot => "DotDotDot"
  | .bang => "Bang"
  | .tilde => "Tilde"
  | .spacing => "Whitespace"
  | .lineComment => "LineComment"
  | .blockComment => "BlockComment"
  | .unrecognized => "Unrecognized"
  | .unterminatedString => "UnterminatedString"
  | .unterminatedBlockComment => "UnterminatedBlockComment"
  | .eof => "Eof"

/-- Blanks and comments: read, and never made into tokens. -/
def isTrivia : Tag → Bool
  | .spacing | .lineComment | .blockComment => true
  | _ => false

/-- The tags numbered from 240 up to the end are mistakes. -/
def isError (tag : Tag) : Bool := 240 ≤ tag.code && tag.code < 255

/-- The tag of a character that is a lexeme by itself wherever it starts one. -/
def ofSymbol? : Char → Option Tag
  | '{' => some .leftBrace
  | '}' => some .rightBrace
  | '(' => some .leftParen
  | ')' => some .rightParen
  | '[' => some .leftBracket
  | ']' => some .rightBracket
  | ':' => some .colon
  | '?' => some .question
  | ';' => some .semicolon
  | ',' => some .comma
  | '#' => some .hash
  | '=' => some .equal
  | '+' => some .plus
  | '*' => some .star
  | '!' => some .bang
  | '~' => some .tilde
  | _ => none

end Tag

/-- A character that opens a string, and closes the strings it opened. -/
def isQuote (c : Char) : Bool := c == '\'' || c == '"'

/-- One step through a text: what was read, and how many characters it covers. -/
structure Lexeme where
  tag : Tag
  length : Nat
deriving DecidableEq, Repr

end ScriptTokenizer
