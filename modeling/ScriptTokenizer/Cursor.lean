/-
  ScriptTokenizer/Cursor.lean
  ===========================
  **A position that reads through a source.**

  A cursor looks at the padded text at its position and beside it, and moves
  forward.  Looking outside the padded text and moving past the largest offset
  are faults, and a step that faults leaves the cursor where the fault arose.
  Steps are therefore functions of a state that survives failure: `Reading`.

  Every run of characters is one search, `seek`, which moves on until a
  condition on the character seen holds.  It ends because it cannot pass the
  padding.
-/
import ScriptTokenizer.Source

namespace ScriptTokenizer

/-- A position in the padded text of a source. -/
structure Cursor where
  source : Source
  pos : Nat
deriving DecidableEq

/-- A step of reading: it moves a cursor and gives a value, or faults. -/
abbrev Reading (α : Type) := EStateM Fault Cursor α

namespace Cursor

def start (s : Source) : Cursor := ⟨s, 0⟩

def position : Reading Nat := fun c => .ok c.pos c

/-! ### Looking -/

/-- The character at a position of the padded text. -/
def look (i : Nat) : Reading Char := fun c =>
  match c.source.padded? i with
  | some ch => .ok ch c
  | none => .error .outOfBounds c

theorem look_eq_ok_iff {i : Nat} {c c' : Cursor} {ch : Char} :
    look i c = .ok ch c' ↔ c.source.padded? i = some ch ∧ c = c' := by
  unfold look
  split
  · next d hd => simp [hd]
  · next hd => simp [hd]

def current : Reading Char := fun c => look c.pos c

/-- The character behind the current one. -/
def peek : Reading Char := fun c => look (c.pos + 1) c

/-- The character before the current one; at the very start it is NUL. -/
def previous : Reading Char := fun c =>
  if c.pos = 0 then .ok nul c else look (c.pos - 1) c

/-- Does the cursor stand on the padding?  A NUL of the text is no end. -/
def atEnd : Reading Bool := do
  let ch ← current
  let c ← get
  return ch == nul && decide (c.source.size ≤ c.pos)

/-! ### Moving -/

/-- Move forward, without a look at what is passed. -/
def advanceBy (n : Nat) : Reading Unit := fun c =>
  if c.pos + n ≤ maxOffset then .ok () { c with pos := c.pos + n } else .error .overflow c

def advance : Reading Unit := advanceBy 1

/-- Move forward to the first position where the condition holds of the
    character there.  The condition may look around itself.  A search that
    never stops runs off the padding and faults there. -/
def seek (stop : Char → Reading Bool) (c : Cursor) : EStateM.Result Fault Cursor Unit :=
  match _h : c.source.padded? c.pos with
  | none => .error .outOfBounds c
  | some ch =>
    match stop ch c with
    | .error fault _ => .error fault c
    | .ok true _ => .ok () c
    | .ok false _ =>
      if c.pos < maxOffset then seek stop { c with pos := c.pos + 1 } else .error .overflow c
termination_by c.source.size + padding - c.pos
decreasing_by
  have := Source.lt_of_padded?_eq_some _h
  omega

/-- Move over the characters that satisfy a condition.  A condition that NUL
    satisfies runs off the padding. -/
def eatWhile (p : Char → Bool) : Reading Unit := seek fun ch => return !p ch

/-- Move to the next occurrence of a character, or to the end of the text, and
    count the characters passed. -/
def eatUntil (target : Char) : Reading Nat := do
  let before ← position
  seek fun ch => if ch == target then return true else atEnd
  return (← position) - before

/-- Move to the end of the line: to the line feed, or to the end of the text. -/
def eatLine : Reading Unit := do
  let _ ← eatUntil '\n'

/-! ### Steps only move forward -/

/-- Where it does not fault, the step stays in its source and moves forward by
    at least `n` characters. -/
def MovesBy {α : Type} (n : Nat) (m : Reading α) : Prop :=
  ∀ c a c', m c = .ok a c' → c'.source = c.source ∧ c.pos + n ≤ c'.pos

theorem MovesBy.pure {α : Type} (a : α) : MovesBy 0 (Pure.pure a : Reading α) := by
  intro c b c' h
  cases h
  exact ⟨rfl, Nat.le_refl _⟩

theorem MovesBy.bind {α β : Type} {m n : Nat} {x : Reading α} {f : α → Reading β}
    (hx : MovesBy m x) (hf : ∀ a, MovesBy n (f a)) : MovesBy (m + n) (x >>= f) := by
  intro c b c'' h
  simp only [Bind.bind, EStateM.bind] at h
  rcases hc : x c with ⟨a, c'⟩ | ⟨e, c'⟩
  · rw [hc] at h
    obtain ⟨hs, hp⟩ := hx c a c' hc
    obtain ⟨hs', hp'⟩ := hf a c' b c'' h
    exact ⟨hs'.trans hs, by omega⟩
  · rw [hc] at h
    cases h

theorem MovesBy.bindLook {α β : Type} {n : Nat} {x : Reading α} {f : α → Reading β}
    (hx : MovesBy 0 x) (hf : ∀ a, MovesBy n (f a)) : MovesBy n (x >>= f) := by
  have := hx.bind hf
  rwa [Nat.zero_add] at this

theorem MovesBy.weaken {α : Type} {m n : Nat} {x : Reading α} (hx : MovesBy n x) (h : m ≤ n) :
    MovesBy m x := by
  intro c a c' hc
  obtain ⟨hs, hp⟩ := hx c a c' hc
  exact ⟨hs, by omega⟩

theorem MovesBy.ite {α : Type} {n : Nat} {p : Prop} [Decidable p] {x y : Reading α}
    (hx : MovesBy n x) (hy : MovesBy n y) : MovesBy n (if p then x else y) := by
  split
  · exact hx
  · exact hy

theorem movesBy_get : MovesBy 0 (get : Reading Cursor) := by
  intro c a c' h
  cases h
  exact ⟨rfl, Nat.le_refl _⟩

theorem movesBy_position : MovesBy 0 position := by
  intro c a c' h
  cases h
  exact ⟨rfl, Nat.le_refl _⟩

theorem movesBy_look (i : Nat) : MovesBy 0 (look i) := by
  intro c a c' h
  unfold look at h
  split at h
  · cases h
    exact ⟨rfl, Nat.le_refl _⟩
  · cases h

theorem movesBy_current : MovesBy 0 current := fun c => movesBy_look c.pos c

theorem movesBy_peek : MovesBy 0 peek := fun c => movesBy_look (c.pos + 1) c

theorem movesBy_atEnd : MovesBy 0 atEnd :=
  movesBy_current.bindLook fun _ => movesBy_get.bindLook fun _ => MovesBy.pure _

theorem movesBy_advanceBy (n : Nat) : MovesBy n (advanceBy n) := by
  intro c a c' h
  unfold advanceBy at h
  split at h
  · cases h
    exact ⟨rfl, Nat.le_refl _⟩
  · cases h

theorem movesBy_seek (stop : Char → Reading Bool) : MovesBy 0 (seek stop) := by
  intro c a c' h
  fun_induction seek stop c with
  | case1 => cases h
  | case2 => cases h
  | case3 =>
    cases h
    exact ⟨rfl, Nat.le_refl _⟩
  | case4 c ch hch c'' hstop hlt ih =>
    obtain ⟨hs, hp⟩ := ih h
    exact ⟨hs, by simp only at hp; omega⟩
  | case5 => cases h

theorem movesBy_eatWhile (p : Char → Bool) : MovesBy 0 (eatWhile p) := movesBy_seek _

theorem movesBy_eatUntil (target : Char) : MovesBy 0 (eatUntil target) :=
  movesBy_position.bindLook fun _ => (movesBy_seek _).bindLook fun _ =>
    movesBy_position.bindLook fun _ => MovesBy.pure _

theorem movesBy_eatLine : MovesBy 0 eatLine :=
  (movesBy_eatUntil '\n').bindLook fun _ => MovesBy.pure _

end Cursor

end ScriptTokenizer
