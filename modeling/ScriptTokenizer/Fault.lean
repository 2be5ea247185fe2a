/-
  ScriptTokenizer/Fault.lean
  ==========================
  **Calls that break a contract.**

  Offsets, lengths and token numbers come from callers, and an operation that
  is handed one it cannot serve answers with a fault instead of a value: a
  place outside the text, a sum beyond the largest offset, a token that
  overlaps the one before it.  A fault is never an opinion on the text that is
  scanned; what is wrong with a text is a scan error.
-/
namespace ScriptTokenizer

/-- The largest offset.  Offsets, lengths, lines and columns are numbers from `0`
    up to this one, and arithmetic on them faults instead of passing it. -/
def maxOffset : Nat := 4294967295

/-- A broken contract between a caller and an operation. -/
inductive Fault where
  | outOfBounds
  | overflow
  /-- The current token was asked for before the first one was reached. -/
  | beforeFirst
  /-- The kind of a token that a table of `size` tokens does not have. -/
  | noSuchToken (index size : Nat)
  /-- A walk was to start on a token that a table of `size` tokens does not have. -/
  | noSuchStart (index size : Nat)
  | emptyToken (start : Nat)
  /-- A token was to enter a table before the end of the last one. -/
  | overlap (start : Nat)
deriving DecidableEq, Repr

/-- What is reported of a fault.  A place or a sum out of range has no text of
    its own. -/
def Fault.message? : Fault → Option String
  | .outOfBounds => none
  | .overflow => none
  | .beforeFirst => some "navigator is before the first token; call next() first"
  | .noSuchToken index size => some s!"token index {index} out of range (len {size})"
  | .noSuchStart index size => some s!"starting index Some({index}) out of range (size {size})"
  | .emptyToken start => some s!"zero-length token at {start}"
  | .overlap start => some s!"token at {start} overlaps its predecessor"

def addOffsets (m n : Nat) : Except Fault Nat :=
  if m + n ≤ maxOffset then .ok (m + n) else .error .overflow

theorem addOffsets_eq_ok {m n : Nat} (h : m + n ≤ maxOffset) : addOffsets m n = .ok (m + n) := by
  rw [addOffsets, if_pos h]

/-- What an offset keeps of a count.  Counts beyond the largest offset lose their
    high part, without a fault. -/
def wrapOffset (n : Nat) : Nat := n % (maxOffset + 1)

theorem wrapOffset_of_le {n : Nat} (h : n ≤ maxOffset) : wrapOffset n = n :=
  Nat.mod_eq_of_lt (Nat.lt_succ_of_le h)

end ScriptTokenizer
