/-
  ScriptTokenizer/LineColumn.lean
  ===============================
  **Places in a text, by line and column.**

  Lines are counted from 1 and end at a line feed; columns are counted from 0
  in characters.  A place is moved on by the character that is passed, so the
  place of an offset is what the characters before it make of the start.
-/
import ScriptTokenizer.Fault

namespace ScriptTokenizer

/-- A place in a text: line from 1, column from 0. -/
structure LineColumn where
  line : Nat
  column : Nat
deriving DecidableEq, Repr

namespace LineColumn

def start : LineColumn := ⟨1, 0⟩

/-- The place behind a character that stands at this place. -/
def past (place : LineColumn) (c : Char) : Except Fault LineColumn := do
  if c = '\n' then return ⟨← addOffsets place.line 1, 0⟩
  else return ⟨place.line, ← addOffsets place.column 1⟩

instance : Ord LineColumn where
  compare p q := (compare p.line q.line).then (compare p.column q.column)

instance : LT LineColumn := ltOfOrd

instance : ToString LineColumn where
  toString place := s!"Line #{place.line}, Char #{place.column}"

theorem compare_eq (p q : LineColumn) :
    compare p q = (compare p.line q.line).then (compare p.column q.column) := rfl

end LineColumn

end ScriptTokenizer
