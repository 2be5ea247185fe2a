/-
  ScriptTokenizer/Source.lean
  ===========================
  **The text of a script, character by character.**

  A source is the text as an array of characters, so that every offset, length
  and column counts characters and never the bytes of an encoding.  It is no
  longer than the largest offset.

  Behind the text stand a few NUL characters.  They let a reader look a little
  past the end without asking first; a NUL that belongs to the text is told
  from them by its position alone.  `Source.padded?` is this view.  What
  callers may cut out of a source (`slice`, `text`, `charAt?`) is the text
  without that padding.
-/
import ScriptTokenizer.LineColumn

namespace ScriptTokenizer

/-- The character that pads a source. -/
def nul : Char := '\x00'

/-- How many padding characters follow the text. -/
def padding : Nat := 4

/-- A text that is ready to be read by offset. -/
structure Source where
  chars : Array Char
  size_le : chars.size ≤ maxOffset
deriving DecidableEq

namespace Source

/-- The source of a sequence of characters.  A sequence that is longer than the largest
    offset has none: nothing is said of such texts, and what is left of one here is no
    more than its beginning. -/
def ofChars (cs : List Char) : Source :=
  ⟨(cs.take maxOffset).toArray, by
    rw [List.size_toArray, List.length_take]
    exact Nat.min_le_left _ _⟩

def ofString (text : String) : Source := ofChars text.toList

def toList (s : Source) : List Char := s.chars.toList

def size (s : Source) : Nat := s.chars.size

def isEmpty (s : Source) : Bool := s.size == 0

theorem toList_ofChars {cs : List Char} (h : cs.length ≤ maxOffset) :
    (ofChars cs).toList = cs := by
  simp [ofChars, toList, List.take_of_length_le h]

theorem length_toList (s : Source) : s.toList.length = s.size := rfl

/-! ### Reading -/

def charAt? (s : Source) (i : Nat) : Option Char := s.chars[i]?

theorem charAt?_eq (s : Source) (i : Nat) : s.charAt? i = s.toList[i]? := by
  rw [charAt?, toList, Array.getElem?_toList]

/-- The character at an offset of the text or of the padding behind it. -/
def padded? (s : Source) (i : Nat) : Option Char :=
  if h : i < s.chars.size then some s.chars[i]
  else if i < s.chars.size + padding then some nul
  else none

theorem padded?_of_lt {s : Source} {i : Nat} (h : i < s.size) : s.padded? i = s.charAt? i := by
  simp [padded?, charAt?, show i < s.chars.size from h]

theorem padded?_of_le {s : Source} {i : Nat} (h : s.size ≤ i) (h' : i < s.size + padding) :
    s.padded? i = some nul := by
  unfold size at h h'
  unfold padded?
  rw [dif_neg (Nat.not_lt.mpr h), if_pos h']

theorem padded?_eq_none_iff {s : Source} {i : Nat} :
    s.padded? i = none ↔ s.size + padding ≤ i := by
  unfold padded? size
  split
  · next h => simp only [reduceCtorEq, false_iff]; omega
  · split
    · next h => simp only [reduceCtorEq, false_iff]; omega
    · next h => simp only [true_iff]; omega

theorem lt_of_padded?_eq_some {s : Source} {i : Nat} {c : Char} (h : s.padded? i = some c) :
    i < s.size + padding := by
  rcases Nat.lt_or_ge i (s.size + padding) with hlt | hge
  · exact hlt
  · rw [padded?_eq_none_iff.mpr hge] at h
    cases h

/-- The `length` characters from an offset on.  They must lie in the text; the
    padding cannot be cut out. -/
def slice (s : Source) (start length : Nat) : Except Fault (List Char) :=
  if start + length ≤ s.size then .ok (s.chars.extract start (start + length)).toList
  else .error .outOfBounds

def text (s : Source) (start length : Nat) : Except Fault String := do
  return String.ofList (← s.slice start length)

/-- The place of an offset.  Offsets past the end have the place behind the last
    character. -/
def lineColumn (s : Source) (offset : Nat) : Except Fault LineColumn :=
  (s.chars.extract 0 (min offset s.size)).foldlM LineColumn.past LineColumn.start

end Source

end ScriptTokenizer
