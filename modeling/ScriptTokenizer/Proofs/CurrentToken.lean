/-
  ScriptTokenizer/Proofs/CurrentToken.lean
  ========================================
  **What a navigator tells of its token.**

  A table of a scan and the text it was made from fit together: every row lies
  inside the text, and a walk stays on the rows.  So on a token nothing that is
  asked faults, and every answer is the one that the characters at the row's
  place give (`Navigator.Tells`).

  Whether a token is a reserved word, or the word `true`, is asked only of tokens
  that are words.  That hides nothing: a token that is spelled like a reserved
  word begins with a letter, and a lexeme that begins with a letter is a word
  (`keyword_eq`, `asBoolean_eq`).  The token `!` is the one that has the kind of
  a reserved word without being spelled like one.
-/
import ScriptTokenizer.Proofs.Juxtaposition
import ScriptTokenizer.Proofs.Outcomes
import ScriptTokenizer.Proofs.TokenRows
import ScriptTokenizer.Proofs.Walking

namespace ScriptTokenizer

open Grammar (placed Begins)

/-! ### The characters of a token -/

/-- The characters at the place of a row. -/
def Source.charsOf (s : Source) (row : Row) : List Char := (s.toList.drop row.start).take row.span

/-- The row lies inside the source and has the kind that its characters give a lexeme. -/
structure Row.IsToken (s : Source) (row : Row) (kind : Kind) : Prop where
  positive : 0 < row.span
  inside : row.start + row.span ≤ s.size
  recorded : row.kind = some kind
  begins : ∃ tag, Begins (s.toList.drop row.start) tag row.span ∧ tag.kind? = some kind

section Tokens

variable {policy : Policy} {s : Source} {row : Row} {kind : Kind}

theorem exists_isToken_of_mem_rows
    (hclean : ∀ l ∈ Grammar.lexemes s.toList, policy.isFatal l.tag = false)
    (hrow : row ∈ (Table.ofLexemes (placed 0 (Grammar.lexemes s.toList))).rows.toList) :
    ∃ kind, row.IsToken s kind := by
  have htabulates := tabulates_ofLexemes hclean
  obtain ⟨hpos, hinside⟩ := htabulates.inside row hrow
  obtain ⟨kind, hkind, -⟩ := htabulates.kinds row hrow
  refine ⟨kind, hpos, hinside, hkind, ?_⟩
  obtain ⟨e, he, -, rfl⟩ := mem_rows_ofLexemes.mp hrow
  exact ⟨e.2.tag, Grammar.begins_of_mem_placed he, hkind⟩

theorem Row.IsToken.kind_eq_not_iff (h : row.IsToken s kind) :
    kind = .kwNot ↔ s.charsOf row = ['!'] := by
  obtain ⟨tag, hbegins, hkind⟩ := h.begins
  rw [(Tag.kind_of_kind? hkind).2.2.2]
  exact Grammar.tag_eq_bang_iff hbegins

/-- A token that begins with a word character is a word. -/
theorem Row.IsToken.kind_eq_word (h : row.IsToken s kind) {c : Char} {rest : List Char}
    (hchars : s.charsOf row = c :: rest) (hc : isWordChar c = true) : kind = .word := by
  obtain ⟨tag, hbegins, hkind⟩ := h.begins
  obtain ⟨d, text, htext⟩ := List.exists_cons_of_ne_nil hbegins.ne_nil
  obtain ⟨n, hn⟩ := Nat.exists_eq_add_one_of_ne_zero (Nat.ne_of_gt h.positive)
  have hd : d = c := by
    rw [Source.charsOf, htext, hn, List.take_succ_cons] at hchars
    exact (List.cons.inj hchars).1
  rw [htext] at hbegins
  have htag : tag = .word := hbegins.word_iff.mpr (by rwa [hd])
  rw [htag] at hkind
  exact (Option.some.inj hkind).symm

/-- A reserved word begins with a word character. -/
theorem Kind.exists_head_of_isKeyword (hkeyword : kind.isKeyword = true) :
    ∃ c rest, kind.name.toLower.toList = c :: rest ∧ isWordChar c = true := by
  have hall : ∀ k ∈ Kind.all, k.isKeyword = true →
      k.name.toLower.toList.head?.map isWordChar = some true := by
    decide +kernel
  obtain ⟨c, hhead, hc⟩ := Option.map_eq_some_iff.mp (hall kind kind.mem_all hkeyword)
  obtain ⟨rest, hrest⟩ := List.head?_eq_some_iff.mp hhead
  exact ⟨c, rest, hrest, hc⟩

/-- A token that is spelled like a reserved word is a word. -/
theorem Row.IsToken.kind_eq_word_of_keyword (h : row.IsToken s kind) {k : Kind}
    (hk : Kind.ofKeyword? (String.ofList (s.charsOf row)) = some k) : kind = .word := by
  obtain ⟨hkeyword, hname⟩ := Kind.ofKeyword?_eq_some_iff.mp hk
  obtain ⟨c, rest, hhead, hc⟩ := Kind.exists_head_of_isKeyword hkeyword
  rw [← hname, String.toList_ofList] at hhead
  exact h.kind_eq_word hhead hc

theorem toLower_eq_true_iff (cs : List Char) :
    (String.ofList cs).toLower = "true" ↔ cs.map Char.toLower = ['t', 'r', 'u', 'e'] := by
  have hmap : (String.ofList cs).toLower.toList = cs.map Char.toLower :=
    String.toList_map.trans (congrArg (List.map Char.toLower) String.toList_ofList)
  rw [← String.toList_inj, hmap]
  rfl

/-- A token that is spelled like `true`, in any mixture of cases, is a word. -/
theorem Row.IsToken.kind_eq_word_of_true (h : row.IsToken s kind)
    (htrue : (s.charsOf row).map Char.toLower = ['t', 'r', 'u', 'e']) : kind = .word := by
  obtain ⟨c, rest, hchars, hc, -⟩ := List.map_eq_cons_iff.mp htrue
  exact h.kind_eq_word hchars (isWordChar_of_toLower (by rw [hc]; rfl))

end Tokens

/-! ### Answers on a token -/

namespace Navigator

/-- The navigator stands on the token of a row. -/
def StandsOn (nav : Navigator) (row : Row) : Prop :=
  ∃ i, nav.index = some i ∧ nav.table.row? i = some row

section Answers

variable {nav : Navigator} {row : Row} {kind : Kind}

/-- Wherever a walk comes to a token, it comes to a row of the table. -/
theorem exists_standsOn_of_walk {source : Source} {table : Table} (hmade : Made source table nav)
    (hparallel : table.Parallel) (hsize : table.size ≤ maxOffset + 1) (moves : List Move) {i : Nat}
    (hi : (nav.walk moves).index = some i) :
    ∃ row ∈ table.rows.toList, table.row? i = some row ∧
      (nav.walk moves).source = source ∧ (nav.walk moves).StandsOn row := by
  obtain ⟨rfl, rfl, hhome, hindex⟩ := hmade.holds
  obtain ⟨index, hwalk, hholds⟩ := exists_walk_eq_place hsize hhome hindex moves
  rw [hwalk] at hi ⊢
  obtain ⟨row, hmem, hrow⟩ := hparallel.exists_row? (hholds i hi)
  exact ⟨row, hmem, hrow, rfl, i, hi, hrow⟩

theorem StandsOn.position_eq (h : nav.StandsOn row) : nav.position = .ok row.start := by
  obtain ⟨i, hi, hrow⟩ := h
  simp [position, current, hi, Table.start_of_row? hrow, bind, Except.bind]

theorem StandsOn.span_eq (h : nav.StandsOn row) : nav.span = .ok row.span := by
  obtain ⟨i, hi, hrow⟩ := h
  simp [span, current, hi, Table.span_of_row? hrow, bind, Except.bind]

theorem StandsOn.kind_eq (h : nav.StandsOn row) : nav.kind = .ok row.kind := by
  obtain ⟨i, hi, hrow⟩ := h
  simp [Navigator.kind, current, hi, Table.kind_of_row? hrow, bind, Except.bind]

theorem StandsOn.chars_eq (h : nav.StandsOn row)
    (hinside : row.start + row.span ≤ nav.source.size) :
    nav.chars = .ok (nav.source.charsOf row) := by
  simp only [chars, h.position_eq, h.span_eq, bind, Except.bind]
  exact Source.slice_eq hinside

theorem StandsOn.text_eq (h : nav.StandsOn row)
    (hinside : row.start + row.span ≤ nav.source.size) :
    nav.text = .ok (String.ofList (nav.source.charsOf row)) := by
  simp only [text, h.position_eq, h.span_eq, bind, Except.bind]
  exact (Source.text_eq_ok_iff hinside).mpr rfl

theorem StandsOn.lineColumn_eq (h : nav.StandsOn row) (hlt : row.start < nav.source.size) :
    nav.lineColumn = .ok
      ((nav.source.toList.take row.start).foldl LineColumn.behind LineColumn.start) := by
  simp only [lineColumn, h.position_eq, bind, Except.bind]
  exact Source.lineColumn_of_lt hlt

theorem textEquals_eq {cs : List Char} (h : nav.chars = .ok cs) (candidate : String) :
    nav.textEquals candidate = .ok (decide (candidate = String.ofList cs)) := by
  have hequal : (candidate.toList == cs) = decide (candidate = String.ofList cs) := by
    rw [Bool.eq_iff_iff, beq_iff_eq, decide_eq_true_iff]
    constructor
    · rintro rfl
      exact String.ofList_toList.symm
    · rintro rfl
      exact String.toList_ofList
  simp [textEquals, h, hequal, bind, Except.bind, pure, Except.pure]

/-- That only words are looked up hides no reserved word. -/
theorem keyword_eq (htoken : row.IsToken nav.source kind) (hkind : nav.kind = .ok row.kind)
    (htext : nav.text = .ok (String.ofList (nav.source.charsOf row))) :
    nav.keyword = .ok (Kind.ofKeyword? (String.ofList (nav.source.charsOf row))) := by
  rw [htoken.recorded] at hkind
  by_cases hword : kind = .word
  · simp [keyword, hkind, hword, htext, bind, Except.bind, pure, Except.pure]
  · have hnone : Kind.ofKeyword? (String.ofList (nav.source.charsOf row)) = none := by
      apply Option.eq_none_iff_forall_ne_some.mpr
      intro k hk
      exact hword (htoken.kind_eq_word_of_keyword hk)
    simp [keyword, hkind, hword, hnone, bind, Except.bind, pure, Except.pure]

/-- That only words are compared with `true` hides no spelling of it. -/
theorem asBoolean_eq (htoken : row.IsToken nav.source kind) (hkind : nav.kind = .ok row.kind)
    (hchars : nav.chars = .ok (nav.source.charsOf row)) :
    nav.asBoolean =
      .ok (decide ((String.ofList (nav.source.charsOf row)).toLower = "true")) := by
  have hlower := toLower_eq_true_iff (nav.source.charsOf row)
  rw [htoken.recorded] at hkind
  by_cases hword : kind = .word
  · simp [asBoolean, hkind, hword, hchars, hlower, beq_eq_decide, bind, Except.bind, pure,
      Except.pure]
  · have hfalse : ¬ (nav.source.charsOf row).map Char.toLower = ['t', 'r', 'u', 'e'] := by
      intro htrue
      exact hword (htoken.kind_eq_word_of_true htrue)
    simp [asBoolean, hkind, hword, hlower, hfalse, bind, Except.bind, pure, Except.pure]

end Answers

/-- What is asked of a navigator on a token is answered from its row and its text. -/
structure Tells (nav : Navigator) (row : Row) (kind : Kind) (shown : String) : Prop where
  position : nav.position = .ok row.start
  span : nav.span = .ok row.span
  category : nav.kind = .ok (some kind)
  kindName : nav.kindName = .ok kind.name
  text : nav.text = .ok shown
  textEquals : ∀ candidate, nav.textEquals candidate = .ok (decide (candidate = shown))
  place : ∃ place, nav.lineColumn = .ok place ∧ nav.cursorPosition = .ok (toString place)
  /-- The token is a reserved word exactly if it is spelled like one. -/
  keyword : ∃ word, nav.keyword = .ok word ∧
    ∀ k, word = some k ↔ k.isKeyword = true ∧ shown = k.name.toLower
  bang : kind = .kwNot → shown = "!" ∧ nav.keyword = .ok none
  asBoolean : nav.asBoolean = .ok (decide (shown.toLower = "true"))
  asBoolean_of_keyword : nav.keyword = .ok (some .kwTrue) → nav.asBoolean = .ok true

theorem StandsOn.tells {nav : Navigator} {s : Source} {row : Row} {kind : Kind}
    (h : nav.StandsOn row) (hsource : nav.source = s) (htoken : row.IsToken s kind) :
    nav.Tells row kind (String.ofList (s.charsOf row)) := by
  subst hsource
  have hpos := htoken.positive
  have hinside := htoken.inside
  have hkind : nav.kind = .ok (some kind) := by rw [h.kind_eq, htoken.recorded]
  have hchars := h.chars_eq hinside
  have htext := h.text_eq hinside
  have hplace := h.lineColumn_eq (by omega)
  have hkeyword := keyword_eq htoken h.kind_eq htext
  have hboolean := asBoolean_eq htoken h.kind_eq hchars
  refine ⟨h.position_eq, h.span_eq, hkind, ?_, htext, textEquals_eq hchars, ⟨_, hplace, ?_⟩,
    ⟨_, hkeyword, fun k => Kind.ofKeyword?_eq_some_iff⟩, ?_, hboolean, ?_⟩
  · simp [kindName, hkind, bind, Except.bind, pure, Except.pure]
  · simp [cursorPosition, hplace, bind, Except.bind, pure, Except.pure]
  · intro hnot
    rw [hkeyword, htoken.kind_eq_not_iff.mp hnot]
    exact ⟨rfl, rfl⟩
  · intro htrue
    rw [hkeyword, Except.ok.injEq, Kind.ofKeyword?_eq_some_iff] at htrue
    rw [hboolean, htrue.2]
    decide +kernel

end Navigator

/-! ### Tokens of a scanned text -/

/-- **What a navigator tells of its token is in the text.**  On any token that a walk over a
    scanned text comes to, nothing that is asked faults.  The token's text is what stands at
    its place; it is a reserved word exactly if it is spelled like one, and it is `true`
    exactly if it is spelled so up to case. -/
theorem current_token_agrees_with_text {policy : Policy} {text : String}
    (hlength : text.length ≤ maxOffset) {t : Tokenized}
    (ht : tokenize policy text = .ok (.ok t)) (moves : List Move) {i : Nat}
    (hi : (t.navigator.walk moves).index = some i) :
    ∃ row kind, t.table.row? i = some row ∧ row.start + row.span ≤ text.length ∧
      (t.navigator.walk moves).Tells row kind
        (String.ofList ((text.toList.drop row.start).take row.span)) := by
  obtain ⟨hclean, rfl⟩ := tokenize_eq_ok_iff.mp ht
  have htext := Source.toList_ofString hlength
  have hlimit := Source.size_ofString hlength
  generalize Source.ofString text = s at *
  have hsize : (Table.ofLexemes (placed 0 (Grammar.lexemes s.toList))).size ≤ maxOffset + 1 := by
    have hrows := (tabulates_ofLexemes hclean).size_le
    have hmax := s.size_le
    omega
  obtain ⟨row, hmem, hrow, hsource, hstands⟩ :=
    Navigator.exists_standsOn_of_walk Navigator.Made.new (tabulates_ofLexemes hclean).parallel
      hsize moves hi
  obtain ⟨kind, htoken⟩ := exists_isToken_of_mem_rows hclean hmem
  have hshown : s.charsOf row = (text.toList.drop row.start).take row.span := by
    rw [Source.charsOf, htext]
  refine ⟨row, kind, hrow, ?_, ?_⟩
  · rw [← hlimit]
    exact htoken.inside
  · rw [← hshown]
    exact hstands.tells hsource htoken

/-- On the second word of a text, which is spelled `True`. -/
theorem current_token_of_capital_true :
    let text := "true--[[ x ]]True !"
    let moves := [Move.next, .next, .next, .previous]
    ∃ t, text.length ≤ maxOffset ∧ tokenize .skip text = .ok (.ok t) ∧
      (t.navigator.walk moves).index = some 1 ∧
      ∃ row kind, t.table.row? 1 = some row ∧ row.start + row.span ≤ text.length ∧
        (t.navigator.walk moves).Tells row kind
          (String.ofList ((text.toList.drop row.start).take row.span)) ∧
        (t.navigator.walk moves).text = .ok "True" ∧
        (t.navigator.walk moves).keyword = .ok none ∧
        (t.navigator.walk moves).asBoolean = .ok true := by
  intro text moves
  let t : Tokenized := ⟨Source.ofString text,
    .ofRows true [⟨0, 4, some .word⟩, ⟨13, 4, some .word⟩, ⟨18, 1, some .kwNot⟩]⟩
  have hlength : text.length ≤ maxOffset := by decide
  have ht : tokenize .skip text = .ok (.ok t) := by decide +kernel
  have hi : (t.navigator.walk moves).index = some 1 := by decide
  obtain ⟨row, kind, hrow, hinside, htells⟩ := current_token_agrees_with_text hlength ht moves hi
  obtain rfl : ⟨13, 4, some .word⟩ = row := Option.some.inj hrow
  have hshown : String.ofList ((text.toList.drop 13).take 4) = "True" := by decide +kernel
  rw [hshown] at htells
  have hspelling : ∀ k ∈ Kind.all, "True" ≠ k.name.toLower := by decide +kernel
  have hkeyword : (t.navigator.walk moves).keyword = .ok none := by
    obtain ⟨word, hword, hspelled⟩ := htells.keyword
    rw [hword, Except.ok.injEq]
    apply Option.eq_none_iff_forall_ne_some.mpr
    intro k hk
    exact hspelling k k.mem_all ((hspelled k).mp hk).2
  have hboolean : "True".toLower = "true" := by decide +kernel
  refine ⟨t, hlength, ht, hi, _, kind, hrow, hinside, ?_, htells.text, hkeyword, ?_⟩
  · rw [hshown]
    exact htells
  · rw [htells.asBoolean, hboolean]
    rfl

end ScriptTokenizer
