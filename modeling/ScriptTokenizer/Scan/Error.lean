/-
  ScriptTokenizer/Scan/Error.lean
  ===============================
  **Why a text is rejected.**

  A scan stops at the first lexeme that makes the text unacceptable.  The error
  says what is wrong with it, at which offset it begins, and at which place of
  the text that is.
-/
import ScriptTokenizer.Source
import ScriptTokenizer.Lexeme
import ScriptTokenizer.Text.Quoted

namespace ScriptTokenizer

inductive Cause where
  /-- A quote was opened and the text ended before the closing one. -/
  | unterminatedString
  /-- `--[[` was opened and the text ended before `]]`. -/
  | unterminatedBlockComment
  /-- A character outside the grammar. -/
  | unrecognized (found : Char)
deriving DecidableEq, Repr

/-- The reason for which a text is rejected, and where it begins. -/
structure ScanError where
  cause : Cause
  start : Nat
  location : LineColumn
deriving DecidableEq, Repr

namespace Cause

def name : Cause → String
  | .unterminatedString => "UnterminatedString"
  | .unterminatedBlockComment => "UnterminatedBlockComment"
  | .unrecognized _ => "UnrecognizedCharacter"

def message : Cause → String
  | .unterminatedString => "unexpected end of string"
  | .unterminatedBlockComment => "unexpected end of block comment"
  | .unrecognized found => "unrecognized character " ++ quoteChar found

/-- What a diagnostic writes beside the place where the cause begins. -/
def label : Cause → String
  | .unterminatedString => "string opened here is never closed"
  | .unterminatedBlockComment => "block comment opened here is never closed"
  | .unrecognized _ => "character is not part of the grammar"

/-- The character outside the grammar, where that is the cause. -/
def found? : Cause → Option Char
  | .unrecognized found => some found
  | _ => none

end Cause

namespace ScanError

def message (e : ScanError) : String := e.cause.message ++ ": " ++ toString e.location

/-- The error for a lexeme with a tag of mistakes. -/
def ofLexeme (s : Source) (tag : Tag) (start : Nat) : Except Fault ScanError := do
  let location ← s.lineColumn start
  let cause :=
    match tag with
    | .unterminatedString => .unterminatedString
    | .unterminatedBlockComment => .unterminatedBlockComment
    | _ => .unrecognized ((s.charAt? start).getD nul)
  return ⟨cause, start, location⟩

end ScanError

end ScriptTokenizer
