/-
  ScriptTokenizer/Proofs/Juxtaposition.lean
  =========================================
  **Which lexemes may stand next to each other.**

  Every list of lexemes that is read off some text arises from texts that are
  one lexeme each, put one behind the other.  The converse fails only where a
  lexeme would go on into the next one.  By locality this is a matter of its tag
  and of the first character of the next one, and that character is a matter of
  the next tag (`joins_eq_merges`).  So a finite table of pairs of tags decides
  it (`merges`), and together with the texts by themselves it says exactly which
  lists of lexemes are the reading of their text (`readAll_flatMap_iff`).
-/
import Mathlib.Data.List.Chain
import ScriptTokenizer.Proofs.GrammarLocality
import ScriptTokenizer.Proofs.LexemeRuns

namespace ScriptTokenizer

namespace Grammar

/-! ### The first character and the tag -/

section FirstCharacter

variable {c : Char} {rest : List Char} {tag : Tag} {n : Nat}

theorem Begins.tag_eq {text : List Char} (h : Begins text tag n) : (lexeme text).tag = tag := by
  rw [lexeme_of_begins h]

theorem Begins.word_iff (h : Begins (c :: rest) tag n) : tag = .word ↔ isWordChar c = true := by
  constructor
  · rintro rfl
    cases h with
    | word hpos => exact runLength_pos_iff.mp hpos
    | symbol _ hmem => simp [symbols] at hmem
  · intro hc
    rw [← h.tag_eq, lexeme_word hc]

theorem Begins.number_iff (h : Begins (c :: rest) tag n) : tag = .number ↔ c.isDigit = true := by
  constructor
  · rintro rfl
    cases h with
    | number hpos => exact runLength_pos_iff.mp hpos
    | symbol _ hmem => simp [symbols] at hmem
  · intro hc
    rw [← h.tag_eq, lexeme_number hc]

theorem Begins.spacing_iff (h : Begins (c :: rest) tag n) :
    tag = .spacing ↔ isSpacing c = true := by
  constructor
  · rintro rfl
    cases h with
    | spacing hpos => exact runLength_pos_iff.mp hpos
    | symbol _ hmem => simp [symbols] at hmem
  · intro hc
    rw [← h.tag_eq, lexeme_spacing hc]

theorem Begins.newline_iff (h : Begins (c :: rest) tag n) : tag = .newline ↔ c = '\n' := by
  constructor
  · rintro rfl
    cases h with
    | newline hfirst => exact Option.some.inj hfirst
    | symbol _ hmem => simp [symbols] at hmem
  · rintro rfl
    rw [← h.tag_eq]
    rfl

theorem Begins.dots_iff (h : Begins (c :: rest) tag n) :
    tag = .dot ∨ tag = .dotDot ∨ tag = .dotDotDot ↔ c = '.' := by
  constructor
  · rintro (rfl | rfl | rfl)
    all_goals
      cases h with
      | symbol _ hmem => simp [symbols] at hmem
      | _ hfirst => exact Option.some.inj hfirst
  · rintro rfl
    rw [← h.tag_eq, lexeme_dots]
    unfold dots
    split
    · exact Or.inr (Or.inr rfl)
    · split
      · exact Or.inr (Or.inl rfl)
      · exact Or.inl rfl

theorem Begins.minus_iff (h : Begins (c :: rest) tag n) :
    tag = .minus ∨ tag = .lineComment ∨ tag = .blockComment ∨ tag = .unterminatedBlockComment ↔
      c = '-' := by
  constructor
  · rintro (rfl | rfl | rfl | rfl)
    · cases h with
      | minus hfirst => exact Option.some.inj hfirst
      | symbol _ hmem => simp [symbols] at hmem
    all_goals
      cases h with
      | symbol _ hmem => simp [symbols] at hmem
      | _ hprefix => exact ((List.cons_prefix_cons.mp hprefix).1).symm
  · rintro rfl
    rw [← h.tag_eq, lexeme_minus]
    unfold Grammar.minus Grammar.blockComment
    split
    · split
      · exact Or.inr (Or.inr (Or.inl rfl))
      · exact Or.inr (Or.inr (Or.inr rfl))
    · split
      · exact Or.inr (Or.inl rfl)
      · exact Or.inl rfl

end FirstCharacter

/-! ### Pairs of tags -/

/-- Would a lexeme with the first tag go on into one with the second? -/
def merges (tag next : Tag) : Bool :=
  match tag with
  | .word => next == .word
  | .number => next == .number
  | .spacing => next == .spacing
  | .dot | .dotDot => next == .dot || next == .dotDot || next == .dotDotDot
  | .minus =>
      next == .minus || next == .lineComment || next == .blockComment ||
        next == .unterminatedBlockComment
  | .lineComment => next != .newline
  | .unterminatedString | .unterminatedBlockComment => true
  | _ => false

theorem joins_eq_merges {c : Char} {rest : List Char} {next : Tag} {n : Nat}
    (h : Begins (c :: rest) next n) (tag : Tag) : joins tag c = merges tag next := by
  rw [Bool.eq_iff_iff]
  cases tag with
  | word => exact h.word_iff.symm.trans beq_iff_eq.symm
  | number => exact h.number_iff.symm.trans beq_iff_eq.symm
  | spacing => exact h.spacing_iff.symm.trans beq_iff_eq.symm
  | dot | dotDot =>
    simp only [joins, merges, Bool.or_eq_true, beq_iff_eq, or_assoc]
    exact h.dots_iff.symm
  | minus =>
    simp only [joins, merges, Bool.or_eq_true, beq_iff_eq, or_assoc]
    exact h.minus_iff.symm
  | lineComment =>
    simp only [joins, merges, bne_iff_ne]
    exact not_congr h.newline_iff.symm
  | _ => exact Iff.rfl

/-! ### Lists of lexemes -/

variable {x y : List Char} {tag : Tag}

/-- The first lexeme of a text that goes on behind it. -/
theorem lexemes_append_iff (hx : x ≠ []) {ls : List Lexeme} :
    lexemes (x ++ y) = ⟨tag, x.length⟩ :: ls ↔
      (Begins x tag x.length ∧ ∀ c ∈ y.head?, joins tag c = false) ∧ lexemes y = ls := by
  have hne : x ++ y ≠ [] := List.append_ne_nil_of_left_ne_nil hx y
  rw [lexemes_of_ne_nil hne, List.cons.injEq, ← begins_append_iff, begins_iff, and_iff_right hne]
  constructor
  · rintro ⟨hfirst, hrest⟩
    rw [hfirst, List.drop_left] at hrest
    exact ⟨hfirst, hrest⟩
  · rintro ⟨hfirst, hrest⟩
    rw [hfirst, List.drop_left]
    exact ⟨rfl, hrest⟩

theorem lexemes_eq_singleton_iff (hx : x ≠ []) :
    lexemes x = [⟨tag, x.length⟩] ↔ Begins x tag x.length := by
  have h : lexemes (x ++ []) = [⟨tag, x.length⟩] ↔ _ := lexemes_append_iff hx
  rw [List.append_nil] at h
  rw [h]
  constructor
  · rintro ⟨⟨hbegins, -⟩, -⟩
    exact hbegins
  · intro hbegins
    exact ⟨⟨hbegins, by simp⟩, lexemes_nil⟩

/-- Behind a lexeme that does not go on, a text is read as if it stood alone. -/
theorem lexemes_append
    (hlast : ∀ before l, lexemes x = before ++ [l] → ∀ c ∈ y.head?, joins l.tag c = false) :
    lexemes (x ++ y) = lexemes x ++ lexemes y := by
  induction x using lexemes_induction with
  | nil => rw [lexemes_nil, List.nil_append, List.nil_append]
  | step x l hbegins hx ih =>
    have hlength : (x.take l.length).length = l.length :=
      List.length_take_of_le hbegins.length_le
    obtain ⟨htake, hhead⟩ := hbegins.take_drop
    have hrest : lexemes (x.drop l.length ++ y) = lexemes (x.drop l.length) ++ lexemes y := by
      apply ih
      intro before m hm
      exact hlast (l :: before) m (by rw [hx, hm, List.cons_append])
    have hhead' : ∀ d ∈ (x.drop l.length ++ y).head?, joins l.tag d = false := by
      rcases hdrop : x.drop l.length with _ | ⟨d, z⟩
      · exact hlast [] l (by rw [hx, hdrop, lexemes_nil, List.nil_append])
      · rw [hdrop] at hhead
        exact hhead
    have happend : lexemes (x.take l.length ++ (x.drop l.length ++ y)) =
        ⟨l.tag, (x.take l.length).length⟩ :: (lexemes (x.drop l.length) ++ lexemes y) :=
      (lexemes_append_iff htake.ne_nil).mpr ⟨⟨by rwa [hlength], hhead'⟩, hrest⟩
    rw [← List.append_assoc, List.take_append_drop, hlength] at happend
    rw [happend, hx, List.cons_append]

/-- Behind a lexeme, what matters of the rest is the tag that comes next. -/
theorem head_joins_iff {L : List (Tag × List Char)} (hne : ∀ e ∈ L, e.2 ≠ [])
    (halone : ∀ e ∈ L, Begins e.2 e.1 e.2.length) :
    (∀ c ∈ (L.flatMap Prod.snd).head?, joins tag c = false) ↔
      ∀ e ∈ L.head?, merges tag e.1 = false := by
  rcases L with _ | ⟨e, L⟩
  · simp
  · obtain ⟨c, rest, htext⟩ := List.exists_cons_of_ne_nil (hne e (List.mem_cons_self ..))
    have hbegins := halone e (List.mem_cons_self ..)
    rw [htext] at hbegins
    rw [List.flatMap_cons, htext, List.cons_append, List.head?_cons, List.head?_cons]
    simp only [Option.mem_some_iff, forall_eq', joins_eq_merges hbegins tag]

theorem lexemes_flatMap_iff {L : List (Tag × List Char)} (hne : ∀ e ∈ L, e.2 ≠ []) :
    lexemes (L.flatMap Prod.snd) = L.map (fun e => ⟨e.1, e.2.length⟩) ↔
      (∀ e ∈ L, Begins e.2 e.1 e.2.length) ∧ L.IsChain fun d e => merges d.1 e.1 = false := by
  induction L with
  | nil => simp [lexemes_nil]
  | cons d L ih =>
    obtain ⟨hd, hrest⟩ := List.forall_mem_cons.mp hne
    rw [List.flatMap_cons, List.map_cons, lexemes_append_iff hd, ih hrest, List.forall_mem_cons,
      List.isChain_cons]
    constructor
    · rintro ⟨⟨hfirst, hhead⟩, halone, hchain⟩
      exact ⟨⟨hfirst, halone⟩, (head_joins_iff hrest halone).mp hhead, hchain⟩
    · rintro ⟨⟨hfirst, halone⟩, hhead, hchain⟩
      exact ⟨⟨hfirst, (head_joins_iff hrest halone).mpr hhead⟩, halone, hchain⟩

end Grammar

/-! ### Reading -/

namespace Cursor

/-- The lexemes that are read off a text, from its start to its end. -/
def readAll (text : List Char) : Except Fault (List Lexeme) := do
  let (es, _) ← lexemes (start (Source.ofChars text))
  return es.map Prod.snd

theorem readAll_eq {text : List Char} (h : text.length ≤ maxOffset) :
    readAll text = .ok (Grammar.lexemes text) := by
  have hlexemes := lexemes_eq (s := Source.ofChars text) (p := 0)
    (Nat.lt_add_left _ padding_pos)
  rw [readAll, start, hlexemes, List.drop_zero, Source.toList_ofChars h]
  simp only [Bind.bind, Except.bind, Grammar.map_snd_placed]
  rfl

/-- **Which lists of lexemes are the reading of a text.**  Texts put one behind the
    other are read as a list of lexemes with just these texts exactly if each text
    by itself is read as one lexeme and no two neighbours merge. -/
theorem readAll_flatMap_iff (L : List (Tag × List Char)) (hne : ∀ e ∈ L, e.2 ≠ [])
    (hlength : (L.flatMap Prod.snd).length ≤ maxOffset) :
    readAll (L.flatMap Prod.snd) = .ok (L.map fun e => ⟨e.1, e.2.length⟩) ↔
      (∀ e ∈ L, readAll e.2 = .ok [⟨e.1, e.2.length⟩]) ∧
        L.IsChain fun d e => Grammar.merges d.1 e.1 = false := by
  have halone : ∀ e ∈ L, (readAll e.2 = .ok [⟨e.1, e.2.length⟩] ↔
      Grammar.Begins e.2 e.1 e.2.length) := by
    intro e he
    have hle : e.2.length ≤ (L.flatMap Prod.snd).length := by
      obtain ⟨before, after, rfl⟩ := List.append_of_mem he
      rw [List.flatMap_append, List.flatMap_cons, List.length_append, List.length_append]
      omega
    rw [readAll_eq (Nat.le_trans hle hlength), Except.ok.injEq,
      Grammar.lexemes_eq_singleton_iff (hne e he)]
  rw [readAll_eq hlength, Except.ok.injEq, Grammar.lexemes_flatMap_iff hne, forall₂_congr halone]

/-- A line comment and two brackets behind it are read as something else. -/
theorem readAll_comment_and_brackets :
    let L := [(Tag.lineComment, ['-', '-']), (Tag.leftBracket, ['[']), (Tag.leftBracket, ['['])]
    (∀ e ∈ L, e.2 ≠ []) ∧ (L.flatMap Prod.snd).length ≤ maxOffset ∧
      readAll ['-', '-', '[', '['] ≠
        .ok [⟨.lineComment, 2⟩, ⟨.leftBracket, 1⟩, ⟨.leftBracket, 1⟩] := by
  intro L
  have hne : ∀ e ∈ L, e.2 ≠ [] := by decide
  have hlength : (L.flatMap Prod.snd).length ≤ maxOffset := by decide
  refine ⟨hne, hlength, ?_⟩
  intro hread
  obtain ⟨-, hchain⟩ := (readAll_flatMap_iff L hne hlength).mp hread
  exact absurd hchain (by decide)

end Cursor

end ScriptTokenizer
