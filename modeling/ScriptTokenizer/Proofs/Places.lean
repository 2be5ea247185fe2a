/-
  ScriptTokenizer/Proofs/Places.lean
  ==================================
  **Places without arithmetic that can fail.**

  The place of an offset is computed with checked sums.  Each character that is
  passed raises line and column together by at most one, so no sum can fail
  before the offsets themselves run out: from the start, `n` characters reach a
  line and a column that add up to at most `n + 1`.  Below that bound the
  checked computation is a plain fold (`foldlM_past`, `lineColumn_eq`).
-/
import Mathlib.Data.List.DropRight
import ScriptTokenizer.Source

namespace ScriptTokenizer

namespace LineColumn

/-- The place behind a character, without a bound on lines and columns. -/
def behind (place : LineColumn) (c : Char) : LineColumn :=
  if c = '\n' then ⟨place.line + 1, 0⟩ else ⟨place.line, place.column + 1⟩

theorem behind_le (place : LineColumn) (c : Char) :
    (place.behind c).line + (place.behind c).column ≤ place.line + place.column + 1 := by
  unfold behind
  split
  · simp only
    omega
  · simp only
    omega

theorem past_eq_ok {place : LineColumn} (c : Char)
    (h : place.line + place.column + 1 ≤ maxOffset) : place.past c = .ok (place.behind c) := by
  unfold past behind
  split
  · rw [addOffsets_eq_ok (by omega)]
    rfl
  · rw [addOffsets_eq_ok (by omega)]
    rfl

/-- No sum fails as long as line, column and the characters to come fit together. -/
theorem foldlM_past {place : LineColumn} {cs : List Char}
    (h : place.line + place.column + cs.length ≤ maxOffset) :
    cs.foldlM past place = .ok (cs.foldl behind place) := by
  induction cs generalizing place with
  | nil => rfl
  | cons c cs ih =>
    rw [List.length_cons] at h
    have hstep := place.behind_le c
    have hrest : (place.behind c).line + (place.behind c).column + cs.length ≤ maxOffset := by
      omega
    rw [List.foldlM_cons, past_eq_ok c (by omega), List.foldl_cons]
    exact ih hrest

/-! ### Places in a text that begins further up -/

theorem behind_newline (place : LineColumn) : place.behind '\n' = ⟨place.line + 1, 0⟩ := rfl

theorem line_behind (place : LineColumn) (c : Char) :
    (place.behind c).line = place.line + if c = '\n' then 1 else 0 := by
  unfold behind
  split <;> rfl

theorem line_foldl_behind (place : LineColumn) (cs : List Char) :
    (cs.foldl behind place).line = place.line + cs.count '\n' := by
  induction cs generalizing place with
  | nil => rfl
  | cons c cs ih =>
    rw [List.foldl_cons, ih, line_behind, List.count_cons, Nat.add_assoc, Nat.add_comm (ite _ _ _)]
    simp only [beq_iff_eq]

theorem foldl_behind_line_add (place : LineColumn) (k : Nat) (cs : List Char) :
    cs.foldl behind ⟨place.line + k, place.column⟩ =
      ⟨(cs.foldl behind place).line + k, (cs.foldl behind place).column⟩ := by
  induction cs generalizing place with
  | nil => rfl
  | cons c cs ih =>
    rw [List.foldl_cons, List.foldl_cons, ← ih]
    congr 1
    unfold behind
    split
    · rw [Nat.add_right_comm]
    · rfl

/-- Whole lines in front of a text move its places down and leave their columns. -/
theorem foldl_behind_lines (a cs : List Char) :
    (a ++ '\n' :: cs).foldl behind start =
      ⟨(cs.foldl behind start).line + (1 + a.count '\n'), (cs.foldl behind start).column⟩ := by
  have hline : (a.foldl behind start).behind '\n' =
      ⟨start.line + (1 + a.count '\n'), start.column⟩ := by
    rw [behind_newline, line_foldl_behind, Nat.add_assoc, Nat.add_comm 1]
    rfl
  rw [List.foldl_append, List.foldl_cons, hline, foldl_behind_line_add]

/-! ### The place behind a text -/

theorem column_foldl_behind_start (cs : List Char) :
    (cs.foldl behind start).column = (cs.rtakeWhile (· != '\n')).length := by
  induction cs using List.reverseRecOn with
  | nil => rfl
  | append_singleton cs c ih =>
    rw [List.foldl_append, List.foldl_cons, List.foldl_nil]
    by_cases hc : c = '\n'
    · rw [hc, behind_newline, List.rtakeWhile_concat, if_neg (by decide)]
      rfl
    · rw [behind, if_neg hc, List.rtakeWhile_concat, if_pos (bne_iff_ne.mpr hc),
        List.length_append, ih]
      rfl

/-- A text is behind one line more than it has line feeds, and as many columns as there are
    characters after the last of them. -/
theorem foldl_behind_start (cs : List Char) :
    cs.foldl behind start =
      ⟨1 + cs.count '\n', (cs.rtakeWhile (· != '\n')).length⟩ := by
  rw [← column_foldl_behind_start]
  have hline : (cs.foldl behind start).line = 1 + cs.count '\n' := line_foldl_behind start cs
  rw [← hline]

end LineColumn

/-- Below the largest offset every place can be told. -/
theorem Source.lineColumn_eq {s : Source} {offset : Nat} (h : min offset s.size < maxOffset) :
    s.lineColumn offset =
      .ok ((s.toList.take (min offset s.size)).foldl LineColumn.behind LineColumn.start) := by
  have hlist : (s.chars.extract 0 (min offset s.size)).toList =
      s.toList.take (min offset s.size) := by
    rw [Array.toList_extract, List.extract_eq_take_drop]
    rfl
  rw [Source.lineColumn, ← Array.foldlM_toList, hlist]
  refine LineColumn.foldlM_past ?_
  rw [List.length_take, s.length_toList]
  show 1 + 0 + _ ≤ _
  omega

theorem Source.lineColumn_of_lt {s : Source} {offset : Nat} (h : offset < s.size) :
    s.lineColumn offset =
      .ok ((s.toList.take offset).foldl LineColumn.behind LineColumn.start) := by
  have hmax : s.size ≤ maxOffset := s.size_le
  have hmin : min offset s.size = offset := Nat.min_eq_left (Nat.le_of_lt h)
  rw [Source.lineColumn_eq (by omega), hmin]

end ScriptTokenizer
