/-
  ScriptTokenizer/Proofs/SearchEnds.lean
  ======================================
  **Searches have no bound, and end.**

  No search counts how far it may go.  It passes the positions at which its
  condition fails, and there are two ways for that to end: at the least
  position where the condition holds (`Decides.seek_of_isLeast`), or behind the
  padding, where there is nothing to look at and the search faults
  (`Decides.seek_off_end`).  Both are said of any position of the padded text,
  so a search may as well begin in the padding.

  Which of the two it is, is a matter of the padding alone.  A search for a
  character also stops at the end, so it never faults; of the NULs that it
  meets, one of the text stops it only if NUL is what it looks for.  A run of
  characters knows no end.  It stops at the padding if NUL is not among its
  characters, and runs off the padding if NUL and all that is left of the text
  are (`searches_stop_at_least`).
-/
import Mathlib.Order.Bounds.Basic
import Mathlib.Order.Nat
import ScriptTokenizer.Proofs.Seeking

namespace ScriptTokenizer

namespace Cursor

section Searches

variable {s : Source} {p q : Nat} {stop : Char → Reading Bool} {P : Nat → Prop}

/-! ### Any search -/

/-- The condition of a search never faults in the padded text, and holds at these
    positions. -/
structure Decides (stop : Char → Reading Bool) (s : Source) (P : Nat → Prop) : Prop where
  inside : ∀ i, P i → i < s.size + padding
  answers : ∀ i < s.size + padding, ∃ answer, Answers stop s i answer ∧ (answer = true ↔ P i)

namespace Decides

theorem answers_true (h : Decides stop s P) {i : Nat} (hi : P i) : Answers stop s i true := by
  obtain ⟨answer, hanswer, hiff⟩ := h.answers i (h.inside i hi)
  rwa [hiff.mpr hi] at hanswer

theorem answers_false (h : Decides stop s P) {i : Nat} (hi : ¬ P i)
    (hinside : i < s.size + padding) : Answers stop s i false := by
  obtain ⟨answer, hanswer, hiff⟩ := h.answers i hinside
  rwa [Bool.eq_false_iff.mpr (mt hiff.mp hi)] at hanswer

/-- A search stops at the least position where its condition holds. -/
theorem seek_of_isLeast (h : Decides stop s P) (hq : IsLeast {i | p ≤ i ∧ P i} q)
    (hsize : s.size + padding ≤ maxOffset) : seek stop ⟨s, p⟩ = .ok () ⟨s, q⟩ := by
  obtain ⟨⟨hpq, hstop⟩, hleast⟩ := hq
  have hinside := h.inside q hstop
  have hpass : ∀ j, p ≤ j → j < q → Answers stop s j false := by
    intro j hpj hjq
    have hj : ¬ P j := fun hj => absurd (hleast ⟨hpj, hj⟩) (Nat.not_le.mpr hjq)
    exact h.answers_false hj (Nat.lt_trans hjq hinside)
  rw [seek_of_passes hpq hpass (by omega)]
  exact seek_of_stop (h.answers_true hstop)

/-- A search whose condition holds nowhere runs off the padding. -/
theorem seek_off_end (h : Decides stop s P) (hnone : ∀ i, p ≤ i → ¬ P i)
    (hp : p ≤ s.size + padding) (hsize : s.size + padding ≤ maxOffset) :
    seek stop ⟨s, p⟩ = .error .outOfBounds ⟨s, s.size + padding⟩ := by
  have hpass : ∀ j, p ≤ j → j < s.size + padding → Answers stop s j false :=
    fun j hpj => h.answers_false (hnone j hpj)
  have hend : s.padded? (s.size + padding) = none :=
    Source.padded?_eq_none_iff.mpr (Nat.le_refl _)
  rw [seek_of_passes hp hpass hsize, seek]
  split
  · rfl
  · next ch hch =>
    rw [hend] at hch
    cases hch

end Decides

theorem exists_isLeast {i : Nat} (hpi : p ≤ i) (hi : P i) : ∃ q, IsLeast {j | p ≤ j ∧ P j} q := by
  classical
  exact ⟨_, Nat.isLeast_find ⟨i, hpi, hi⟩⟩

/-! ### Looking for a character -/

/-- Looking for a character ends here: at the character, or at the end of the text. -/
def EndsAt (s : Source) (target : Char) (i : Nat) : Prop :=
  s.padded? i = some target ∨ s.padded? i = some nul ∧ s.size ≤ i

theorem decides_until (s : Source) (target : Char) :
    Decides (fun ch => if ch == target then return true else atEnd) s (EndsAt s target) where
  inside := by
    rintro i (h | ⟨h, -⟩)
    · exact Source.lt_of_padded?_eq_some h
    · exact Source.lt_of_padded?_eq_some h
  answers := by
    intro i hi
    obtain ⟨ch, hch⟩ := s.exists_padded? hi
    by_cases htarget : ch = target
    · refine ⟨true, ⟨ch, ⟨s, i⟩, hch, ?_⟩, ?_⟩
      · simp [htarget, pure_eq]
      · simp [EndsAt, hch, htarget]
    · refine ⟨ch == nul && decide (s.size ≤ i), ⟨ch, ⟨s, i⟩, hch, ?_⟩, ?_⟩
      · simp [htarget, atEnd_eq_ok hch]
      · simp [EndsAt, hch, htarget]

/-- The end of the text ends it, or the position where it begins if that is the padding. -/
theorem endsAt_max (target : Char) (hp : p < s.size + padding) :
    EndsAt s target (max p s.size) := by
  have hpadding := padding_pos
  exact Or.inr ⟨Source.padded?_of_le (by omega) (by omega), by omega⟩

/-- **Looking for a character** never faults, and counts the characters passed. -/
theorem exists_eatUntil (target : Char) (hp : p < s.size + padding)
    (hsize : s.size + padding ≤ maxOffset) :
    ∃ q, IsLeast {i | p ≤ i ∧ EndsAt s target i} q ∧ q ≤ max p s.size ∧
      eatUntil target ⟨s, p⟩ = .ok (q - p) ⟨s, q⟩ := by
  have hend := endsAt_max target hp
  obtain ⟨q, hq⟩ := exists_isLeast (Nat.le_max_left p s.size) hend
  refine ⟨q, hq, hq.2 ⟨Nat.le_max_left p s.size, hend⟩, ?_⟩
  have hseek := (decides_until s target).seek_of_isLeast hq hsize
  rw [eatUntil, bind_of_ok (show position ⟨s, p⟩ = .ok p ⟨s, p⟩ from rfl), bind_of_ok hseek]
  rfl

/-! ### Runs of characters -/

/-- A run of characters is over here: the character does not belong to it. -/
def OverAt (s : Source) (f : Char → Bool) (i : Nat) : Prop :=
  ∃ ch, s.padded? i = some ch ∧ f ch = false

theorem decides_while (s : Source) (f : Char → Bool) :
    Decides (fun ch => return !f ch) s (OverAt s f) where
  inside := by
    rintro i ⟨ch, hch, -⟩
    exact Source.lt_of_padded?_eq_some hch
  answers := by
    intro i hi
    obtain ⟨ch, hch⟩ := s.exists_padded? hi
    refine ⟨!f ch, ⟨ch, ⟨s, i⟩, hch, rfl⟩, ?_⟩
    simp [OverAt, hch]

theorem overAt_max {f : Char → Bool} (hnul : f nul = false) (hp : p < s.size + padding) :
    OverAt s f (max p s.size) := by
  have hpadding := padding_pos
  exact ⟨nul, Source.padded?_of_le (by omega) (by omega), hnul⟩

/-- A run ends at the least position where it is over, or runs off the padding. -/
theorem eatWhile_cases (f : Char → Bool) (hp : p < s.size + padding)
    (hsize : s.size + padding ≤ maxOffset) :
    (∃ q, IsLeast {i | p ≤ i ∧ OverAt s f i} q ∧ eatWhile f ⟨s, p⟩ = .ok () ⟨s, q⟩) ∨
      (∀ i, p ≤ i → ¬ OverAt s f i) ∧
        eatWhile f ⟨s, p⟩ = .error .outOfBounds ⟨s, s.size + padding⟩ := by
  by_cases hover : ∃ i, p ≤ i ∧ OverAt s f i
  · obtain ⟨i, hpi, hi⟩ := hover
    obtain ⟨q, hq⟩ := exists_isLeast hpi hi
    exact Or.inl ⟨q, hq, (decides_while s f).seek_of_isLeast hq hsize⟩
  · have hnone : ∀ i, p ≤ i → ¬ OverAt s f i := fun i hpi hi => hover ⟨i, hpi, hi⟩
    exact Or.inr ⟨hnone, (decides_while s f).seek_off_end hnone (Nat.le_of_lt hp) hsize⟩

/-- **A run of characters** ends exactly where it is first over. -/
theorem eatWhile_eq_ok_iff {f : Char → Bool} (hp : p < s.size + padding)
    (hsize : s.size + padding ≤ maxOffset) :
    eatWhile f ⟨s, p⟩ = .ok () ⟨s, q⟩ ↔ IsLeast {i | p ≤ i ∧ OverAt s f i} q := by
  rcases eatWhile_cases f hp hsize with ⟨least, hleast, heat⟩ | ⟨hnone, heat⟩
  · rw [heat]
    constructor
    · intro h
      cases h
      exact hleast
    · intro hq
      rw [hleast.unique hq]
  · rw [heat]
    constructor
    · intro h
      cases h
    · rintro ⟨⟨hpq, hq⟩, -⟩
      exact absurd hq (hnone q hpq)

/-- It faults exactly if it is nowhere over, and then behind the padding. -/
theorem eatWhile_eq_error_iff {f : Char → Bool} (hp : p < s.size + padding)
    (hsize : s.size + padding ≤ maxOffset) {fault : Fault} {c : Cursor} :
    eatWhile f ⟨s, p⟩ = .error fault c ↔
      (∀ i, p ≤ i → ¬ OverAt s f i) ∧ fault = .outOfBounds ∧ c = ⟨s, s.size + padding⟩ := by
  rcases eatWhile_cases f hp hsize with ⟨q, ⟨⟨hpq, hq⟩, -⟩, heat⟩ | ⟨hnone, heat⟩
  · rw [heat]
    constructor
    · intro h
      cases h
    · rintro ⟨hnone, -⟩
      exact absurd hq (hnone q hpq)
  · rw [heat]
    constructor
    · intro h
      cases h
      exact ⟨hnone, rfl, rfl⟩
    · rintro ⟨-, rfl, rfl⟩
      rfl

end Searches

/-- **Searches stop at the least position that ends them.**  From any position of the padded
    text, looking for a character ends at that character or at the end, and no later than
    there; a NUL of the text does not end it unless NUL is looked for.  So does looking for
    the end of a line.  A run of characters ends where a character does not belong to it.  It
    faults if there is none, and only then, behind the padding, which cannot be if NUL does
    not belong to it. -/
theorem searches_stop_at_least {s : Source} {p : Nat} (hsize : s.size + padding ≤ maxOffset)
    (hp : p < s.size + padding) :
    (∀ target, ∃ q,
      IsLeast {i | p ≤ i ∧ (s.padded? i = some target ∨ s.padded? i = some nul ∧ s.size ≤ i)} q ∧
        q ≤ max p s.size ∧ eatUntil target ⟨s, p⟩ = .ok (q - p) ⟨s, q⟩ ∧
        (target = '\n' → eatLine ⟨s, p⟩ = .ok () ⟨s, q⟩) ∧
        (s.charAt? q = some nul → target = nul)) ∧
    ∀ f : Char → Bool,
      (∀ q, eatWhile f ⟨s, p⟩ = .ok () ⟨s, q⟩ ↔
        IsLeast {i | p ≤ i ∧ ∃ ch, s.padded? i = some ch ∧ f ch = false} q) ∧
      (∀ fault c, eatWhile f ⟨s, p⟩ = .error fault c ↔
        (∀ i, p ≤ i → ¬ ∃ ch, s.padded? i = some ch ∧ f ch = false) ∧
          fault = .outOfBounds ∧ c = ⟨s, s.size + padding⟩) ∧
      (f nul = false → ∃ q, eatWhile f ⟨s, p⟩ = .ok () ⟨s, q⟩ ∧ q ≤ max p s.size) := by
  refine ⟨?_, ?_⟩
  · intro target
    obtain ⟨q, hq, hle, heat⟩ := exists_eatUntil target hp hsize
    refine ⟨q, hq, hle, heat, ?_, ?_⟩
    · rintro rfl
      rw [eatLine, bind_of_ok heat]
      rfl
    · intro hnul
      have hinside : q < s.size := (Array.getElem?_eq_some_iff.mp hnul).1
      rcases hq.1.2 with htarget | ⟨-, hend⟩
      · rw [Source.padded?_of_lt hinside, hnul] at htarget
        exact (Option.some.inj htarget).symm
      · omega
  · intro f
    refine ⟨fun _ => eatWhile_eq_ok_iff hp hsize, fun _ _ => eatWhile_eq_error_iff hp hsize, ?_⟩
    intro hnul
    have hend := overAt_max hnul hp
    obtain ⟨q, hq⟩ := exists_isLeast (Nat.le_max_left p s.size) hend
    exact ⟨q, (eatWhile_eq_ok_iff hp hsize).mpr hq, hq.2 ⟨Nat.le_max_left p s.size, hend⟩⟩

/-- Searches from a NUL of the text on.  A letter is found behind it, NUL is found at once, and
    a run that NUL and that letter belong to is never over. -/
theorem searches_from_a_nul :
    let s := Source.ofString "a\x00b"
    s.size + padding ≤ maxOffset ∧ 1 < s.size + padding ∧
      eatUntil 'b' ⟨s, 1⟩ = .ok 1 ⟨s, 2⟩ ∧ s.charAt? 1 = some nul ∧
      IsLeast {i | 1 ≤ i ∧ (s.padded? i = some 'b' ∨ s.padded? i = some nul ∧ s.size ≤ i)} 2 ∧
      (∃ q, eatUntil nul ⟨s, 1⟩ = .ok (q - 1) ⟨s, q⟩ ∧ q ≤ 3) ∧
      eatWhile (· != 'a') ⟨s, 1⟩ = .error .outOfBounds ⟨s, 7⟩ ∧
      ∀ i, 1 ≤ i → ¬ ∃ ch, s.padded? i = some ch ∧ (ch != 'a') = false := by
  intro s
  have hsize : s.size + padding ≤ maxOffset := by decide
  have hp : 1 < s.size + padding := by decide
  have hpast : eatUntil 'b' ⟨s, 1⟩ = .ok 1 ⟨s, 2⟩ := eatUntil_eq 'b' (by decide)
  have hletter : ∀ i < 7, 1 ≤ i → s.padded? i ≠ some 'a' := by decide
  have hnone : ∀ i, 1 ≤ i → ¬ ∃ ch, s.padded? i = some ch ∧ (ch != 'a') = false := by
    rintro i hi ⟨ch, hch, hf⟩
    obtain rfl : ch = 'a' := by simpa using hf
    exact hletter i (Source.lt_of_padded?_eq_some hch) hi hch
  obtain ⟨huntil, hwhile⟩ := searches_stop_at_least hsize hp
  obtain ⟨q, hq, -, heat, -⟩ := huntil 'b'
  obtain ⟨q', -, hle', heat', -⟩ := huntil nul
  obtain ⟨-, hfaults, -⟩ := hwhile (· != 'a')
  obtain ⟨-, hcursor⟩ := EStateM.Result.ok.inj (hpast.symm.trans heat)
  obtain rfl : 2 = q := congrArg Cursor.pos hcursor
  exact ⟨hsize, hp, hpast, by decide, hq, ⟨q', heat', hle'⟩,
    (hfaults _ _).mpr ⟨hnone, rfl, rfl⟩, hnone⟩

end Cursor

end ScriptTokenizer
