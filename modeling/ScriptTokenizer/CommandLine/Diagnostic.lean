/-
  ScriptTokenizer/CommandLine/Diagnostic.lean
  ===========================================
  **A scan error with the line it is in.**

  A diagnostic shows the message, the file with line and column, the source
  line, and an arrow from the offending character to a label:

      Error: unexpected end of string: Line #2, Char #4
         ╭─[a.lua:2:5]
         │
       2 │ y   = 'oops
         │       ┬
         │       ╰── string opened here is never closed
      ───╯

  The snippet splits the text into lines as a display would, at every line
  terminator of Unicode and at carriage returns, not at line feeds alone.  The
  line and column in its frame can therefore differ from those of the message.

  This is the diagnostic as it goes to a file or a pipe.  On a terminal the same
  rows come with colours around their parts; these are left out.
-/
import ScriptTokenizer.Scan.Error
import ScriptTokenizer.Text.Blank
import ScriptTokenizer.Text.Width

namespace ScriptTokenizer.CommandLine

/-! ### Lines of a display -/

/-- A character that ends a line on a display.  A carriage return and a line feed
    in a row end one line together. -/
def endsLine (c : Char) : Bool :=
  c == '\n' || c == '\r' || c == '\x0B' || c == '\x0C' || c == '\u0085' || c == '\u2028' ||
    c == '\u2029'

/-- A place on a display: line and column from 1, and the text from the start of
    that line on. -/
structure Spot where
  line : Nat
  column : Nat
  lineStart : List Char
deriving DecidableEq, Repr

/-- Pass `n` characters of a text, from a spot on. -/
def Spot.pass (spot : Spot) : List Char → Nat → Spot
  | _, 0 => spot
  | [], _ + 1 => spot
  | '\r' :: '\n' :: _, 1 => { spot with column := spot.column + 1 }
  | '\r' :: '\n' :: rest, n + 2 => Spot.pass ⟨spot.line + 1, 1, rest⟩ rest n
  | c :: rest, n + 1 =>
      if endsLine c then Spot.pass ⟨spot.line + 1, 1, rest⟩ rest n
      else Spot.pass { spot with column := spot.column + 1 } rest n

def locate (text : List Char) (offset : Nat) : Spot := Spot.pass ⟨1, 1, text⟩ text offset

/-- The line a spot is in, without the blanks at its end. -/
def Spot.lineText (spot : Spot) : List Char :=
  let line := spot.lineStart.takeWhile fun c => !endsLine c
  (line.reverse.dropWhile isBlank).reverse

/-! ### Cells of a display -/

/-- Tabulators reach to the next multiple of this column. -/
def tabStop : Nat := 4

/-- The cells that a character takes at a column.  Tabulators count the characters
    before them, not their cells. -/
def cellsAt (column : Nat) (c : Char) : Nat :=
  if c = '\t' then tabStop - column % tabStop
  else if isBlank c then 1
  else cellWidth c

/-- The cells of the character at a column of a line; one behind its end. -/
def cellsOf (chars : List Char) (column : Nat) : Nat :=
  match chars[column]? with
  | some c => cellsAt column c
  | none => 1

def repeated (n : Nat) (c : Char) : String := String.ofList (List.replicate n c)

/-- A stroke over so many cells that begins with a head. -/
def stroke (head : Char) : Nat → String
  | 0 => ""
  | n + 1 => String.singleton head ++ repeated n '─'

/-- A source line, with blanks drawn as spaces. -/
def drawnLine (line : List Char) : String :=
  String.join (line.zipIdx.map fun (c, column) =>
    if isBlank c then repeated (cellsAt column c) ' ' else String.singleton c)

/-- Draw the columns up to two behind the marked one, each by a rule of its own. -/
def drawnColumns (marked : Nat) (draw : Nat → String) : String :=
  String.join ((List.range (marked + 3)).map draw)

/-- The row below the line: a tick under the marked column. -/
def tickRow (line : List Char) (marked : Nat) : String :=
  drawnColumns marked fun column =>
    if column = marked then stroke '┬' (cellsOf line column)
    else repeated (cellsOf line column) ' '

/-- The row with the label: an arrow from the marked column to the right. -/
def arrowRow (line : List Char) (marked : Nat) : String :=
  drawnColumns marked fun column =>
    if column < marked then repeated (cellsOf line column) ' '
    else if column = marked then stroke '╰' (cellsOf line column)
    else repeated (cellsOf line column) '─'

/-! ### The diagnostic -/

/-- The diagnostic for a scan error in a named text. -/
def renderScanError (name : String) (text : List Char) (error : ScanError) : String :=
  let spot := locate text error.start
  let line := spot.lineText
  let marked := spot.column - 1
  let number := toString spot.line
  let margin := repeated (number.length + 2) ' '
  "Error: " ++ error.message ++ "\n" ++
    margin ++ "╭─[" ++ name ++ ":" ++ number ++ ":" ++ toString spot.column ++ "]\n" ++
    margin ++ "│\n" ++
    " " ++ number ++ " │ " ++ drawnLine line ++ "\n" ++
    margin ++ "│ " ++ tickRow line marked ++ "\n" ++
    margin ++ "│ " ++ arrowRow line marked ++ " " ++ error.cause.label ++ "\n" ++
    repeated (number.length + 2) '─' ++ "╯\n"

end ScriptTokenizer.CommandLine
