/-
  ScriptTokenizer/Navigator.lean
  ==============================
  **Walking a finished table.**

  A navigator stands before the first token or on one token, and moves by one
  token in either direction.  A move past an end fails, says from where, and
  leaves the navigator in its place; going back from the first token to before
  it is no move.  `reset` returns to where the navigator began.

  What is asked of the current token faults while there is none.
-/
import ScriptTokenizer.Scan

namespace ScriptTokenizer

inductive Direction where
  | forward
  | backward
deriving DecidableEq, Repr

structure OutOfRange where
  direction : Direction
  /-- The token the navigator stood on; `none` is before the first. -/
  index : Option Nat
  size : Nat
deriving DecidableEq, Repr

def Direction.name : Direction → String
  | .forward => "forward"
  | .backward => "backward"

def indexText : Option Nat → String
  | some i => s!"Some({i})"
  | none => "None"

def OutOfRange.message (e : OutOfRange) : String :=
  "navigator out of range: cannot move " ++ e.direction.name ++ " from " ++ indexText e.index ++
    " in a table of " ++ toString e.size ++ " tokens"

/-- A movable position over the tokens of a source. -/
structure Navigator where
  source : Source
  table : Table
  /-- The current token; `none` is before the first. -/
  index : Option Nat
  /-- Where `reset` returns to. -/
  home : Option Nat
deriving DecidableEq

namespace Navigator

def new (source : Source) (table : Table) : Navigator := ⟨source, table, none, none⟩

def startingAt (source : Source) (table : Table) (i : Nat) : Except Fault Navigator :=
  if i < table.size then .ok ⟨source, table, some i, some i⟩
  else .error (.noSuchStart i table.size)

/-! ### Moving -/

def size (nav : Navigator) : Nat := nav.table.size

/-- The number of the token that a move forward would reach. -/
def nextIndex (nav : Navigator) : Nat :=
  match nav.index with
  | some i => i + 1
  | none => 0

def hasNext (nav : Navigator) : Bool := nav.nextIndex < nav.size

/-- Is there a token before the current one? -/
def hasPrevious (nav : Navigator) : Bool :=
  match nav.index with
  | some i => 0 < i
  | none => false

/-- The failure of a move from here.  The size is reported as an offset. -/
def outOfRange (nav : Navigator) (direction : Direction) : OutOfRange :=
  ⟨direction, nav.index, min nav.size maxOffset⟩

/-- Move to the next token.  Its number is kept as an offset. -/
def next (nav : Navigator) : Except OutOfRange Navigator :=
  if nav.hasNext then .ok { nav with index := some (wrapOffset nav.nextIndex) }
  else .error (nav.outOfRange .forward)

def previous (nav : Navigator) : Except OutOfRange Navigator :=
  match nav.index with
  | some (i + 1) => .ok { nav with index := some i }
  | _ => .error (nav.outOfRange .backward)

def reset (nav : Navigator) : Navigator := { nav with index := nav.home }

/-! ### The current token -/

def current (nav : Navigator) : Except Fault Nat :=
  match nav.index with
  | some i => .ok i
  | none => .error .beforeFirst

def position (nav : Navigator) : Except Fault Nat := do
  nav.table.start (← nav.current)

def span (nav : Navigator) : Except Fault Nat := do
  nav.table.span (← nav.current)

/-- The kind of the current token; `none` in a table without kinds. -/
def kind (nav : Navigator) : Except Fault (Option Kind) := do
  nav.table.kind (← nav.current)

def kindName (nav : Navigator) : Except Fault String := do
  match ← nav.kind with
  | some kind => return kind.name
  | none => return "UNDEFINED"

def chars (nav : Navigator) : Except Fault (List Char) := do
  nav.source.slice (← nav.position) (← nav.span)

def text (nav : Navigator) : Except Fault String := do
  nav.source.text (← nav.position) (← nav.span)

def textEquals (nav : Navigator) (candidate : String) : Except Fault Bool := do
  return candidate.toList == (← nav.chars)

def lineColumn (nav : Navigator) : Except Fault LineColumn := do
  nav.source.lineColumn (← nav.position)

/-- The place of the current token, in words. -/
def cursorPosition (nav : Navigator) : Except Fault String := do
  return toString (← nav.lineColumn)

/-- Is the current token the word `true`, in any mixture of ASCII cases? -/
def asBoolean (nav : Navigator) : Except Fault Bool := do
  if (← nav.kind) != some .word then return false
  return (← nav.chars).map Char.toLower == ['t', 'r', 'u', 'e']

/-- The reserved word that the current token is. -/
def keyword (nav : Navigator) : Except Fault (Option Kind) := do
  if (← nav.kind) != some .word then return none
  return Kind.ofKeyword? (← nav.text)

end Navigator

/-- A navigator before the first token of a scanned text. -/
def Tokenized.navigator (tokenized : Tokenized) : Navigator :=
  Navigator.new tokenized.source tokenized.table

end ScriptTokenizer
