/-
  ScriptTokenizer/Proofs/TokenRows.lean
  =====================================
  **A scan is the reading of lexemes, filtered.**

  Nothing is lost between the lexemes of a text and its tokens: a text is
  accepted exactly if none of its lexemes is fatal, and then the rows of the
  table are those of the lexemes that are not dropped, in order
  (`scan_filters_lexemes`).  What holds of the rows is therefore what holds of
  the lexemes that they come from.  They are in order and do not overlap because
  lexemes tile the text, and every position of the text belongs to one row or to
  one dropped lexeme.

  The kind of a row is that of its tag.  Of the reserved words a scan assigns
  only `kwNot`, to a `!` and to nothing else: a lexeme that is cut out as `!`
  begins with it, and the rule for that character allows no other tag.
-/
import ScriptTokenizer.Proofs.ScanRuns

namespace ScriptTokenizer

open Grammar (placed covers)

/-! ### Cutting out text -/

theorem Source.slice_eq {s : Source} {start length : Nat} (h : start + length ≤ s.size) :
    s.slice start length = .ok ((s.toList.drop start).take length) := by
  rw [Source.slice, if_pos h, Array.toList_extract, List.extract_eq_take_drop,
    Nat.add_sub_cancel_left]
  rfl

theorem Source.text_eq_ok_iff {s : Source} {start length : Nat} {cs : List Char}
    (h : start + length ≤ s.size) :
    s.text start length = .ok (String.ofList cs) ↔ (s.toList.drop start).take length = cs := by
  have htext : s.text start length = .ok (String.ofList ((s.toList.drop start).take length)) := by
    rw [Source.text, Source.slice_eq h]
    rfl
  rw [htext, Except.ok.injEq, String.ofList_inj]

/-! ### The kinds that a scan assigns -/

/-- A lexeme is a `!` exactly if these are its characters. -/
theorem Grammar.tag_eq_bang_iff {text : List Char} {tag : Tag} {n : Nat}
    (h : Grammar.Begins text tag n) : tag = .bang ↔ text.take n = ['!'] := by
  constructor
  · rintro rfl
    cases h with
    | symbol hfirst hmem =>
      simp only [Grammar.symbols, List.mem_cons, Prod.mk.injEq, reduceCtorEq, and_false,
        and_true, List.not_mem_nil, or_false, false_or] at hmem
      obtain ⟨c, rest, rfl⟩ := List.exists_cons_of_ne_nil (l := text) (by rintro rfl; cases hfirst)
      obtain rfl := Option.some.inj hfirst
      rw [hmem]
      rfl
  · intro htake
    obtain ⟨c, rest, rfl⟩ := List.exists_cons_of_ne_nil h.ne_nil
    obtain ⟨m, rfl⟩ : ∃ m, n = m + 1 := ⟨n - 1, by have := h.length_pos; omega⟩
    rw [List.take_succ_cons] at htake
    obtain ⟨rfl, -⟩ := List.cons.inj htake
    have hbang : ('!', Tag.bang) ∈ Grammar.symbols := by decide
    have hlexeme := Grammar.lexeme_of_begins h
    rw [Grammar.lexeme_symbol hbang] at hlexeme
    exact ((Lexeme.mk.inj hlexeme).1).symm

theorem Tag.kind_of_kind? {tag : Tag} {kind : Kind} (h : tag.kind? = some kind) :
    kind ≠ .comment ∧ kind ≠ .div ∧ (kind.isKeyword = true → kind = .kwNot) ∧
      (kind = .kwNot ↔ tag = .bang) := by
  cases tag <;> cases h <;> decide

/-- What does not become a token is dropped, if it does not reject the text. -/
theorem Policy.isSome_kind? {policy : Policy} {tag : Tag} (hne : tag ≠ .eof)
    (hclean : policy.isFatal tag = false) : tag.kind?.isSome = !tag.isDropped := by
  rcases hkind : tag.kind? with _ | kind
  · rcases Policy.cases_of_kind?_eq_none hkind hne hclean with rfl | rfl | rfl | ⟨rfl, -⟩
    all_goals rfl
  · rw [Tag.isDropped_of_kind? hkind]
    rfl

/-! ### Rows -/

/-- Does a token cover a position? -/
def Row.covers (i : Nat) (row : Row) : Bool := row.start ≤ i && i < row.start + row.span

/-- The table holds the lexemes of a source that are not dropped. -/
structure Tabulates (s : Source) (es : List (Nat × Lexeme)) (t : Table) : Prop where
  tracksKinds : t.tracksKinds = true
  parallel : t.Parallel
  rows : t.rows.toList = (es.filter fun e => !e.2.tag.isDropped).map Row.ofLexeme
  ordered : t.rows.toList.Pairwise fun a b => a.start < b.start ∧ a.start + a.span ≤ b.start
  inside : ∀ row ∈ t.rows.toList, 1 ≤ row.span ∧ row.start + row.span ≤ s.size
  size_le : t.size ≤ s.size
  /-- Every position lies in one row or in one dropped lexeme. -/
  covered : ∀ i < s.size,
    t.rows.toList.countP (Row.covers i) +
      (es.filter fun e => e.2.tag.isDropped).countP (covers i) = 1
  kinds : ∀ row ∈ t.rows.toList, ∃ kind, row.kind = some kind ∧ kind ≠ .comment ∧ kind ≠ .div ∧
    (kind.isKeyword = true → kind = .kwNot) ∧
    (kind = .kwNot ↔ s.text row.start row.span = .ok "!")

variable {policy : Policy} {s : Source}

theorem mem_rows_ofLexemes {es : List (Nat × Lexeme)} {row : Row} :
    row ∈ (Table.ofLexemes es).rows.toList ↔
      ∃ e ∈ es, (∃ kind, e.2.tag.kind? = some kind) ∧ Row.ofLexeme e = row := by
  simp only [Table.rows_ofLexemes, List.mem_map, List.mem_filter, Option.isSome_iff_exists,
    and_assoc]

theorem ordered_ofLexemes {p : Nat} {ls : List Lexeme} (hpos : ∀ l ∈ ls, 0 < l.length) :
    (Table.ofLexemes (placed p ls)).rows.toList.Pairwise fun a b =>
      a.start < b.start ∧ a.start + a.span ≤ b.start := by
  simp only [Table.rows_ofLexemes, List.pairwise_map]
  refine List.Pairwise.filter _ ?_
  refine List.Pairwise.imp_of_mem ?_ (Grammar.pairwise_placed p ls)
  intro a b ha _ hab
  have hlength := hpos a.2 (Grammar.snd_mem_of_mem_placed ha)
  simp only [Row.ofLexeme]
  omega

/-- Where no lexeme is fatal, the rows are those of all that are not dropped. -/
theorem rows_eq_of_clean {p : Nat} {cs : List Char}
    (hclean : ∀ l ∈ Grammar.lexemes cs, policy.isFatal l.tag = false) :
    (Table.ofLexemes (placed p (Grammar.lexemes cs))).rows.toList =
      ((placed p (Grammar.lexemes cs)).filter fun e => !e.2.tag.isDropped).map Row.ofLexeme := by
  rw [Table.rows_ofLexemes]
  congr 1
  refine List.filter_congr fun e he => ?_
  have hmem := Grammar.snd_mem_of_mem_placed he
  exact Policy.isSome_kind? (Grammar.tag_ne_eof_of_mem_lexemes hmem) (hclean e.2 hmem)

theorem countP_covers_of_clean {p : Nat} {cs : List Char}
    (hclean : ∀ l ∈ Grammar.lexemes cs, policy.isFatal l.tag = false) (i : Nat) :
    (Table.ofLexemes (placed p (Grammar.lexemes cs))).rows.toList.countP (Row.covers i) +
        ((placed p (Grammar.lexemes cs)).filter fun e => e.2.tag.isDropped).countP (covers i) =
      (placed p (Grammar.lexemes cs)).countP (covers i) := by
  have hrow : Row.covers i ∘ Row.ofLexeme = covers i := rfl
  have hsplit := List.countP_eq_countP_filter_add (placed p (Grammar.lexemes cs)) (covers i)
    fun e => e.2.tag.isDropped
  rw [rows_eq_of_clean hclean, List.countP_map, hrow]
  omega

theorem tabulates_ofLexemes
    (hclean : ∀ l ∈ Grammar.lexemes s.toList, policy.isFatal l.tag = false) :
    Tabulates s (placed 0 (Grammar.lexemes s.toList))
      (Table.ofLexemes (placed 0 (Grammar.lexemes s.toList))) := by
  have hpos : ∀ l ∈ Grammar.lexemes s.toList, 0 < l.length :=
    fun _ => Grammar.length_pos_of_mem_lexemes
  have hextent := Cursor.extent_source s
  have hmem : ∀ e ∈ placed 0 (Grammar.lexemes s.toList), e.2 ∈ Grammar.lexemes s.toList :=
    fun _ => Grammar.snd_mem_of_mem_placed
  have hinside : ∀ e ∈ placed 0 (Grammar.lexemes s.toList), e.1 + e.2.length ≤ s.size := by
    intro e he
    have hbounds := (Grammar.bounds_of_mem_placed he).2
    omega
  refine ⟨rfl, (Table.refines_ofLexemes _).parallel, rows_eq_of_clean hclean,
    ordered_ofLexemes hpos, ?_, ?_, ?_, ?_⟩
  · intro row hrow
    obtain ⟨e, he, -, rfl⟩ := mem_rows_ofLexemes.mp hrow
    exact ⟨hpos e.2 (hmem e he), hinside e he⟩
  · have hlexemes := Grammar.length_le_extent hpos
    have hrows : (Table.ofLexemes (placed 0 (Grammar.lexemes s.toList))).size ≤
        (placed 0 (Grammar.lexemes s.toList)).length := by
      rw [(Table.refines_ofLexemes _).size_eq, List.length_map]
      exact List.length_filter_le _ _
    rw [Grammar.length_placed] at hrows
    omega
  · intro i hi
    rw [countP_covers_of_clean hclean]
    exact Cursor.countP_covers_source hi
  · intro row hrow
    obtain ⟨e, he, ⟨kind, hkind⟩, rfl⟩ := mem_rows_ofLexemes.mp hrow
    obtain ⟨hcomment, hdiv, hkeyword, hnot⟩ := Tag.kind_of_kind? hkind
    have hbegins : Grammar.Begins (s.toList.drop e.1) e.2.tag e.2.length :=
      Grammar.begins_of_mem_placed he
    refine ⟨kind, hkind, hcomment, hdiv, hkeyword, ?_⟩
    rw [hnot, Grammar.tag_eq_bang_iff hbegins]
    exact (Source.text_eq_ok_iff (hinside e he)).symm

/-! ### The whole scan -/

/-- **A scan is the reading of lexemes, filtered.**  It accepts exactly the texts
    without a fatal lexeme.  The table of an accepted text holds the lexemes that
    are not dropped; the error of any other names its first fatal lexeme, and the
    place where that one begins. -/
theorem scan_filters_lexemes (policy : Policy) (s : Source) :
    ∃ es report, Cursor.lexemes (Cursor.start s) = .ok (es, ⟨s, s.size⟩) ∧
      scan policy s = .ok report ∧
      ((∃ t, report.outcome = .ok t) ↔ ∀ e ∈ es, policy.isFatal e.2.tag = false) ∧
      (∀ t, report.outcome = .ok t → Tabulates s es t) ∧
      ∀ before e after, es = before ++ e :: after →
        (∀ d ∈ before, policy.isFatal d.2.tag = false) → policy.isFatal e.2.tag = true →
        ∃ cause place, s.lineColumn e.1 = .ok place ∧ Cause.Explains s e.1 e.2.tag cause ∧
          report.outcome = .error ⟨cause, e.1, place⟩ := by
  have hlexemes := Cursor.lexemes_eq (s := s) (p := 0) (Nat.lt_add_left s.size padding_pos)
  rw [List.drop_zero, Nat.max_eq_left (Nat.zero_le s.size)] at hlexemes
  obtain ⟨report, hscan⟩ := scan_total policy s
  refine ⟨_, report, hlexemes, hscan, ?_, ?_, ?_⟩
  · constructor
    · rintro ⟨t, ht⟩ e he
      exact ((scan_accepts_iff hscan).mp ht).1 e.2 (Grammar.snd_mem_of_mem_placed he)
    · intro hall
      refine ⟨_, (scan_accepts_iff hscan).mpr ⟨?_, rfl⟩⟩
      intro l hl
      rw [← Grammar.map_snd_placed 0 (Grammar.lexemes s.toList)] at hl
      obtain ⟨e, he, rfl⟩ := List.mem_map.mp hl
      exact hall e he
  · intro t ht
    obtain ⟨hclean, rfl⟩ := (scan_accepts_iff hscan).mp ht
    exact tabulates_ofLexemes hclean
  · intro before e after hsplit hbefore hfatal
    obtain ⟨hls, hstart⟩ := Grammar.split_of_placed hsplit
    rw [Nat.zero_add] at hstart
    have hclean : ∀ m ∈ before.map Prod.snd, policy.isFatal m.tag = false := by
      intro m hm
      obtain ⟨d, hd, rfl⟩ := List.mem_map.mp hm
      exact hbefore d hd
    obtain ⟨cause, place, hplace, hcause, herror⟩ := scan_of_fatal hls hclean hfatal
    obtain rfl := Except.ok.inj (hscan.symm.trans herror)
    rw [hstart]
    exact ⟨cause, place, hplace, hcause, rfl⟩

end ScriptTokenizer
