/-
  ScriptTokenizer/Proofs/Seeking.lean
  ===================================
  **What a cursor sees, and where its searches stop.**

  A reader never asks how long the text is.  It looks at the padded text, one
  character at a time, and stops where a condition holds.  This module says
  what that amounts to in terms of the text alone.  Up to the end of the text a
  position shows the character of the text; from there on it shows NUL, and
  `atEnd` tells that NUL from a NUL of the text (`atEnd_of_lt`, `atEnd_of_le`).

  All searches are one function, so one induction serves them all: a search
  stops at the first position where its condition holds (`seek_eq_ok`).  The
  conditions of `eatWhile` and `eatUntil` do not look around themselves, and
  what they pass is a longest run of the grammar (`eatWhile_eq`,
  `eatUntil_eq`).  Strings and comments bring conditions of their own.
-/
import ScriptTokenizer.Cursor
import ScriptTokenizer.Lexeme.Grammar

namespace ScriptTokenizer

/-! ### The padded text -/

theorem padding_pos : 0 < padding := by decide

theorem Source.padded?_add {s : Source} {p k : Nat} (h : p + k < s.size) :
    s.padded? (p + k) = (s.toList.drop p)[k]? := by
  rw [Source.padded?_of_lt h, List.getElem?_drop, Source.charAt?, Source.toList,
    Array.getElem?_toList]

theorem Source.exists_padded? {s : Source} {i : Nat} (h : i < s.size + padding) :
    ∃ ch, s.padded? i = some ch := by
  rcases hc : s.padded? i with _ | ch
  · rw [Source.padded?_eq_none_iff] at hc
    omega
  · exact ⟨ch, rfl⟩

theorem Source.length_drop (s : Source) (p : Nat) :
    (s.toList.drop p).length = s.size - p := by
  rw [List.length_drop, s.length_toList]

namespace Cursor

/-! ### Looking and moving, step by step -/

/-- A step that succeeds hands its value and its cursor to the next one. -/
theorem bind_of_ok {α β : Type} {x : Reading α} {f : α → Reading β} {c c' : Cursor} {a : α}
    (h : x c = .ok a c') : (x >>= f) c = f a c' := by
  simp only [Bind.bind, EStateM.bind, h]

theorem pure_eq {α : Type} (a : α) (c : Cursor) : (pure a : Reading α) c = .ok a c := rfl

variable {s : Source} {i : Nat} {ch : Char}

theorem current_eq_ok (h : s.padded? i = some ch) : current ⟨s, i⟩ = .ok ch ⟨s, i⟩ :=
  look_eq_ok_iff.mpr ⟨h, rfl⟩

theorem peek_eq_ok (h : s.padded? (i + 1) = some ch) : peek ⟨s, i⟩ = .ok ch ⟨s, i⟩ :=
  look_eq_ok_iff.mpr ⟨h, rfl⟩

theorem previous_eq_ok (h : s.padded? i = some ch) :
    previous ⟨s, i + 1⟩ = .ok ch ⟨s, i + 1⟩ := by
  rw [previous, if_neg (Nat.succ_ne_zero i)]
  exact look_eq_ok_iff.mpr ⟨h, rfl⟩

theorem advanceBy_eq_ok {n : Nat} (h : i + n ≤ maxOffset) :
    advanceBy n ⟨s, i⟩ = .ok () ⟨s, i + n⟩ := by
  rw [advanceBy, if_pos h]

theorem atEnd_eq_ok (h : s.padded? i = some ch) :
    atEnd ⟨s, i⟩ = .ok (ch == nul && decide (s.size ≤ i)) ⟨s, i⟩ := by
  rw [atEnd, bind_of_ok (current_eq_ok h)]
  rfl

/-- No position of the text is the end, whatever character it holds. -/
theorem atEnd_of_lt (h : i < s.size) : atEnd ⟨s, i⟩ = .ok false ⟨s, i⟩ := by
  obtain ⟨ch, hch⟩ := s.exists_padded? (Nat.lt_add_right padding h)
  rw [atEnd_eq_ok hch, decide_eq_false (Nat.not_le.mpr h), Bool.and_false]

theorem atEnd_of_le (h : s.size ≤ i) (h' : i < s.size + padding) :
    atEnd ⟨s, i⟩ = .ok true ⟨s, i⟩ := by
  rw [atEnd_eq_ok (Source.padded?_of_le h h'), decide_eq_true h]
  rfl

theorem padded?_size (s : Source) : s.padded? s.size = some nul :=
  Source.padded?_of_le (Nat.le_refl _) (Nat.lt_add_of_pos_right padding_pos)

theorem atEnd_size (s : Source) : atEnd ⟨s, s.size⟩ = .ok true ⟨s, s.size⟩ :=
  atEnd_of_le (Nat.le_refl _) (Nat.lt_add_of_pos_right padding_pos)

/-! ### Searches -/

/-- What the condition of a search answers at a position of the padded text. -/
def Answers (stop : Char → Reading Bool) (s : Source) (i : Nat) (answer : Bool) : Prop :=
  ∃ ch c, s.padded? i = some ch ∧ stop ch ⟨s, i⟩ = .ok answer c

theorem seek_of_stop {stop : Char → Reading Bool} (h : Answers stop s i true) :
    seek stop ⟨s, i⟩ = .ok () ⟨s, i⟩ := by
  obtain ⟨ch, c, hch, hc⟩ := h
  rw [seek]
  split
  · next hnone => rw [hch] at hnone; cases hnone
  · next d hd =>
    rw [hch] at hd
    cases hd
    rw [hc]

theorem seek_of_pass {stop : Char → Reading Bool} (h : Answers stop s i false)
    (hi : i < maxOffset) : seek stop ⟨s, i⟩ = seek stop ⟨s, i + 1⟩ := by
  obtain ⟨ch, c, hch, hc⟩ := h
  rw [seek]
  split
  · next hnone => rw [hch] at hnone; cases hnone
  · next d hd =>
    rw [hch] at hd
    cases hd
    simp only [hc, if_pos hi]

/-- A search goes on from the end of a stretch on which its condition fails. -/
theorem seek_of_passes {stop : Char → Reading Bool} {p q : Nat} (hpq : p ≤ q)
    (hpass : ∀ j, p ≤ j → j < q → Answers stop s j false) (hmax : q ≤ maxOffset) :
    seek stop ⟨s, p⟩ = seek stop ⟨s, q⟩ := by
  obtain ⟨n, rfl⟩ := Nat.exists_eq_add_of_le hpq
  induction n generalizing p with
  | zero => rfl
  | succ n ih =>
    have hfirst : Answers stop s p false := hpass p (Nat.le_refl p) (by omega)
    have hsum : p + (n + 1) = p + 1 + n := by omega
    rw [hsum] at hpass hmax ⊢
    rw [seek_of_pass hfirst (by omega)]
    exact ih (Nat.le_add_right _ _) (fun j hj => hpass j (by omega)) hmax

/-- **A search stops at the first position where its condition holds.**  Both ends
    are counted from a position `p`, the start of a lexeme. -/
theorem seek_eq_ok {stop : Char → Reading Bool} {p a b : Nat} (hab : a ≤ b)
    (hpass : ∀ k, a ≤ k → k < b → Answers stop s (p + k) false)
    (hstop : Answers stop s (p + b) true) (hmax : p + b ≤ maxOffset) :
    seek stop ⟨s, p + a⟩ = .ok () ⟨s, p + b⟩ := by
  have hpass' : ∀ j, p + a ≤ j → j < p + b → Answers stop s j false := by
    intro j hle hlt
    obtain ⟨k, rfl⟩ := Nat.exists_eq_add_of_le (Nat.le_trans (Nat.le_add_right p a) hle)
    exact hpass k (by omega) (by omega)
  rw [seek_of_passes (Nat.add_le_add_left hab p) hpass' hmax]
  exact seek_of_stop hstop

/-- A search whose condition looks at the character alone passes the longest run
    of characters on which it fails, provided that it holds of NUL or of the
    end. -/
theorem seek_run {stop : Char → Reading Bool} {p : Char → Bool} (hi : i ≤ s.size)
    (hbody : ∀ j ch, j < s.size → s.padded? j = some ch → Answers stop s j (!p ch))
    (hend : Answers stop s s.size true) :
    seek stop ⟨s, i⟩ = .ok () ⟨s, i + Grammar.runLength p (s.toList.drop i)⟩ := by
  have hle := Grammar.runLength_le p (s.toList.drop i)
  rw [s.length_drop] at hle
  have hsize : s.size ≤ maxOffset := s.size_le
  refine seek_eq_ok (Nat.zero_le _) ?_ ?_ (by omega)
  · intro k _ hk
    have hlt : i + k < s.size := by omega
    obtain ⟨ch, hch⟩ := s.exists_padded? (Nat.lt_add_right padding hlt)
    have hp : p ch = true :=
      Grammar.holds_of_lt_runLength hk ((Source.padded?_add hlt).symm.trans hch)
    have := hbody (i + k) ch hlt hch
    rwa [hp] at this
  · rcases Nat.lt_or_ge (i + Grammar.runLength p (s.toList.drop i)) s.size with hlt | hge
    · obtain ⟨ch, hch⟩ := s.exists_padded? (Nat.lt_add_right padding hlt)
      have hp : p ch = false :=
        Grammar.fails_at_runLength ((Source.padded?_add hlt).symm.trans hch)
      have := hbody _ ch hlt hch
      rwa [hp] at this
    · have heq : i + Grammar.runLength p (s.toList.drop i) = s.size := by omega
      rw [heq]
      exact hend

/-- Characters of a class that NUL does not belong to are passed up to the end
    of their run. -/
theorem eatWhile_eq {p : Char → Bool} (hnul : p nul = false) (hi : i ≤ s.size) :
    eatWhile p ⟨s, i⟩ = .ok () ⟨s, i + Grammar.runLength p (s.toList.drop i)⟩ := by
  refine seek_run hi ?_ ?_
  · intro j ch _ hch
    exact ⟨ch, ⟨s, j⟩, hch, rfl⟩
  · refine ⟨nul, ⟨s, s.size⟩, padded?_size s, ?_⟩
    show (pure (!p nul) : Reading Bool) _ = _
    rw [hnul]
    rfl

theorem eatUntil_eq (target : Char) (hi : i ≤ s.size) :
    eatUntil target ⟨s, i⟩ =
      .ok (Grammar.runLength (· != target) (s.toList.drop i))
        ⟨s, i + Grammar.runLength (· != target) (s.toList.drop i)⟩ := by
  have hseek : seek (fun ch => if ch == target then return true else atEnd) ⟨s, i⟩ =
      .ok () ⟨s, i + Grammar.runLength (· != target) (s.toList.drop i)⟩ := by
    refine seek_run hi ?_ ?_
    · intro j ch hj hch
      refine ⟨ch, ⟨s, j⟩, hch, ?_⟩
      by_cases htarget : ch = target
      · simp [htarget, pure_eq]
      · simp [htarget, atEnd_of_lt hj]
    · refine ⟨nul, ⟨s, s.size⟩, padded?_size s, ?_⟩
      by_cases htarget : nul = target
      · simp [htarget, pure_eq]
      · simp [htarget, atEnd_size]
  rw [eatUntil, bind_of_ok (show position ⟨s, i⟩ = .ok i ⟨s, i⟩ from rfl), bind_of_ok hseek]
  simp only [Bind.bind, EStateM.bind, position, pure_eq]
  rw [Nat.add_sub_cancel_left]

theorem eatLine_eq (hi : i ≤ s.size) :
    eatLine ⟨s, i⟩ = .ok () ⟨s, i + Grammar.runLength (· != '\n') (s.toList.drop i)⟩ := by
  rw [eatLine, bind_of_ok (eatUntil_eq '\n' hi)]
  rfl

end Cursor

end ScriptTokenizer
