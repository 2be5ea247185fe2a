/-
  ScriptTokenizer/Proofs/LexemeRuns.lean
  ======================================
  **Reading lexeme after lexeme.**

  One step reads the lexeme that the text left begins with and moves past it.
  By induction along the text, reading to the end lists the lexemes of the
  grammar, each with the place where it begins (`lexemes_eq`).  They tile the
  text: together they extend over the whole of it (`extent_lexemes`), and each
  is the one that the text left at its place begins with (`begins_of_mem_placed`).

  A caller need not stop at the end.  Reading on from there gives the end again
  and moves nothing (`readings_eq`).
-/
import Mathlib.Data.List.TakeDrop
import ScriptTokenizer.Proofs.LexemeReading
import ScriptTokenizer.Proofs.Tiling

namespace ScriptTokenizer

namespace Grammar

/-! ### The lexemes of a text -/

theorem lexemes_nil : lexemes [] = [] := by
  rw [lexemes]

theorem lexemes_of_ne_nil {text : List Char} (h : text ≠ []) :
    lexemes text = lexeme text :: lexemes (text.drop (lexeme text).length) := by
  obtain ⟨c, rest, rfl⟩ := List.exists_cons_of_ne_nil h
  rw [lexemes]

/-- A text is read as a lexeme and others exactly if it begins with that lexeme and the
    text behind it is read as the others. -/
theorem lexemes_eq_cons_iff {text : List Char} {l : Lexeme} {ls : List Lexeme} :
    lexemes text = l :: ls ↔
      Begins text l.tag l.length ∧ lexemes (text.drop l.length) = ls := by
  constructor
  · intro h
    have hne : text ≠ [] := by
      rintro rfl
      rw [lexemes_nil] at h
      cases h
    rw [lexemes_of_ne_nil hne] at h
    obtain ⟨rfl, hrest⟩ := List.cons.inj h
    exact ⟨begins_of_ne_nil hne, hrest⟩
  · rintro ⟨hbegins, rfl⟩
    rw [lexemes_of_ne_nil hbegins.ne_nil, lexeme_of_begins hbegins]

/-- Behind some of its lexemes, a text is read as the others. -/
theorem lexemes_drop {text : List Char} {before after : List Lexeme}
    (h : lexemes text = before ++ after) : lexemes (text.drop (extent before)) = after := by
  induction before generalizing text with
  | nil => exact h
  | cons l before ih =>
    have hrest := ih (lexemes_eq_cons_iff.mp h).2
    rwa [List.drop_drop, ← extent_cons] at hrest

/-- Each lexeme is one that the text behind those before it begins with. -/
theorem begins_of_split {text : List Char} {before after : List Lexeme} {l : Lexeme}
    (h : lexemes text = before ++ l :: after) :
    Begins (text.drop (extent before)) l.tag l.length ∧
      lexemes (text.drop (extent before + l.length)) = after := by
  rw [← List.drop_drop]
  exact lexemes_eq_cons_iff.mp (lexemes_drop h)

/-- Induction along a text, from each lexeme to the text behind it. -/
@[elab_as_elim]
theorem lexemes_induction {motive : List Char → Prop} (text : List Char) (nil : motive [])
    (step : ∀ text l, Begins text l.tag l.length →
      lexemes text = l :: lexemes (text.drop l.length) → motive (text.drop l.length) →
      motive text) : motive text := by
  induction text using lexemes.induct with
  | case1 => exact nil
  | case2 c rest ih =>
    exact step _ _ (begins_lexeme c rest) (lexemes_of_ne_nil (List.cons_ne_nil c rest)) ih

/-- The lexemes of a text extend over the whole of it. -/
theorem extent_lexemes (text : List Char) : extent (lexemes text) = text.length := by
  induction text using lexemes_induction with
  | nil => rw [lexemes_nil]; rfl
  | step text l hbegins hlexemes ih =>
    have hle := hbegins.length_le
    rw [hlexemes, extent_cons, ih, List.length_drop]
    omega

/-- Every lexeme is the one that the text left at its place begins with. -/
theorem begins_of_mem_placed {text : List Char} {p q : Nat} {l : Lexeme}
    (h : (q, l) ∈ placed p (lexemes (text.drop p))) : Begins (text.drop q) l.tag l.length := by
  generalize hrest : text.drop p = rest at h
  induction rest using lexemes_induction generalizing p with
  | nil => rw [lexemes_nil] at h; cases h
  | step rest l hbegins hlexemes ih =>
    rw [hlexemes, placed, List.mem_cons] at h
    rcases h with h | h
    · obtain ⟨rfl, rfl⟩ := Prod.mk.inj h
      rw [hrest]
      exact hbegins
    · refine ih ?_ h
      rw [← List.drop_drop, hrest]

theorem exists_begins_of_mem_lexemes {text : List Char} {l : Lexeme} (h : l ∈ lexemes text) :
    ∃ q, Begins (text.drop q) l.tag l.length := by
  rw [← map_snd_placed 0 (lexemes text), List.mem_map] at h
  obtain ⟨⟨q, l⟩, hmem, rfl⟩ := h
  exact ⟨q, begins_of_mem_placed hmem⟩

theorem tag_ne_eof_of_mem_lexemes {text : List Char} {l : Lexeme} (h : l ∈ lexemes text) :
    l.tag ≠ .eof := by
  obtain ⟨q, hq⟩ := exists_begins_of_mem_lexemes h
  exact hq.tag_ne_eof

theorem length_pos_of_mem_lexemes {text : List Char} {l : Lexeme} (h : l ∈ lexemes text) :
    0 < l.length := by
  obtain ⟨q, hq⟩ := exists_begins_of_mem_lexemes h
  exact hq.length_pos

end Grammar

namespace Cursor

variable {s : Source}

/-! ### Reading to the end -/

theorem extent_source (s : Source) : Grammar.extent (Grammar.lexemes s.toList) = s.size := by
  rw [Grammar.extent_lexemes, s.length_toList]

/-- Every position of the text is covered by one of its lexemes, and by one only. -/
theorem countP_covers_source {i : Nat} (hi : i < s.size) :
    (Grammar.placed 0 (Grammar.lexemes s.toList)).countP (Grammar.covers i) = 1 := by
  apply Grammar.countP_covers_placed (Nat.zero_le i)
  rw [Nat.zero_add, extent_source]
  exact hi

theorem exists_covers {i : Nat} (hi : i < s.size) :
    ∃ e ∈ Grammar.placed 0 (Grammar.lexemes s.toList), Grammar.covers i e = true :=
  List.countP_pos_iff.mp (Nat.lt_of_lt_of_eq Nat.one_pos (countP_covers_source hi).symm)

theorem drop_eq_nil_iff {p : Nat} : s.toList.drop p = [] ↔ s.size ≤ p := by
  rw [List.drop_eq_nil_iff, s.length_toList]

/-- In the padding a step reads the end and stays. -/
theorem next_of_le {p : Nat} (hle : s.size ≤ p) (hp : p < s.size + padding) :
    next ⟨s, p⟩ = .ok ⟨.eof, 0⟩ ⟨s, p⟩ := by
  rw [next_eq hp, drop_eq_nil_iff.mpr hle]
  rfl

/-- **Reading to the end** lists the lexemes of the text that is left. -/
theorem lexemes_eq {p : Nat} (hp : p < s.size + padding) :
    lexemes ⟨s, p⟩ =
      .ok (Grammar.placed p (Grammar.lexemes (s.toList.drop p)), ⟨s, max s.size p⟩) := by
  generalize htext : s.toList.drop p = text
  induction text using Grammar.lexemes.induct generalizing p with
  | case1 =>
    have hle : s.size ≤ p := drop_eq_nil_iff.mp htext
    have hnext := next_of_le hle hp
    rw [lexemes]
    split
    · next hfault => rw [hnext] at hfault; cases hfault
    · next hread =>
      rw [hnext] at hread
      cases hread
      rw [dif_pos rfl, Grammar.lexemes_nil, Nat.max_eq_right hle]
      rfl
  | case2 c rest ih =>
    have hnext := next_eq hp
    rw [htext] at hnext
    have hbegins := Grammar.begins_lexeme c rest
    generalize hl : Grammar.lexeme (c :: rest) = l at hnext hbegins ih
    have hsize := s.length_drop p
    rw [htext] at hsize
    have hle := hbegins.length_le
    have hpadding := padding_pos
    have hdrop : s.toList.drop (p + l.length) = (c :: rest).drop l.length := by
      rw [← List.drop_drop, htext]
    have hrest := ih (p := p + l.length) (by omega) hdrop
    rw [lexemes]
    split
    · next hfault => rw [hnext] at hfault; cases hfault
    · next hread =>
      rw [hnext] at hread
      cases hread
      rw [dif_neg hbegins.tag_ne_eof, hrest, Grammar.lexemes_of_ne_nil (List.cons_ne_nil c rest),
        hl, Grammar.placed]
      have hmax : max s.size (p + l.length) = max s.size p := by omega
      rw [hmax]

theorem lexemes_start (s : Source) :
    lexemes (start s) = .ok (Grammar.placed 0 (Grammar.lexemes s.toList), ⟨s, s.size⟩) := by
  have h := lexemes_eq (s := s) (p := 0) (Nat.lt_add_left s.size padding_pos)
  rwa [List.drop_zero, Nat.max_eq_left (Nat.zero_le s.size)] at h

/-! ### Reading on -/

/-- What `n` steps read, one after the other. -/
def readings : Nat → Reading (List Lexeme)
  | 0 => return []
  | n + 1 => do
    let lexeme ← next
    return lexeme :: (← readings n)

/-- Steps read the lexemes of the text that is left and then the end, as often as
    they are taken. -/
theorem readings_eq {p : Nat} (hp : p < s.size + padding) (n : Nat) :
    readings n ⟨s, p⟩ = .ok ((Grammar.lexemes (s.toList.drop p)).takeD n ⟨.eof, 0⟩)
      ⟨s, p + Grammar.extent ((Grammar.lexemes (s.toList.drop p)).take n)⟩ := by
  induction n generalizing p with
  | zero => rfl
  | succ n ih =>
    rcases Nat.lt_or_ge p s.size with hlt | hge
    · have hnext := next_eq hp
      have hne : s.toList.drop p ≠ [] := mt drop_eq_nil_iff.mp (Nat.not_le.mpr hlt)
      have hle := (Grammar.begins_of_ne_nil hne).length_le
      have hpadding := padding_pos
      rw [s.length_drop] at hle
      have hrest := ih (p := p + (Grammar.lexeme (s.toList.drop p)).length) (by omega)
      rw [← List.drop_drop] at hrest
      rw [readings, bind_of_ok hnext, bind_of_ok hrest, Grammar.lexemes_of_ne_nil hne,
        List.takeD_succ, List.take_succ_cons, Grammar.extent_cons, ← Nat.add_assoc]
      rfl
    · have hnil : s.toList.drop p = [] := drop_eq_nil_iff.mpr hge
      have hrest := ih hp
      rw [readings, bind_of_ok (next_of_le hge hp), bind_of_ok hrest, hnil, Grammar.lexemes_nil,
        List.takeD_succ, List.take_nil, List.take_nil]
      rfl

end Cursor

end ScriptTokenizer
