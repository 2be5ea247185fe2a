/-
  ScriptTokenizer/Proofs/LineFeeds.lean
  =====================================
  **Rows and places count the same lines.**

  There are two ways to tell the line that a token stands on.  Its place is
  computed from the characters before it.  Whoever has the table only can count
  the line feeds among the rows before it, and has to add those that are no
  rows: the ones inside strings, and the ones inside block comments, which were
  dropped.  Both ways give the same line (`CountsLines`).

  They do because no other lexeme holds a line feed (`Begins.newline_cases`).  A
  line comment stops before it, spacing is made of other blanks, and a single
  character that is none is not a line feed.  The characters before a token are
  those of the lexemes before it, one behind the other (`flatMap_charsAt`), so
  their line feeds can be counted lexeme by lexeme (`count_newline_flatMap`).
-/
import ScriptTokenizer.Proofs.CurrentToken
import ScriptTokenizer.Proofs.Places
import ScriptTokenizer.Proofs.TokenRows

namespace ScriptTokenizer

open Grammar (placed extent covers lexemes Begins)

/-! ### Which lexemes hold line feeds -/

namespace Grammar

variable {text : List Char} {tag : Tag} {n k : Nat}

/-- **A line feed inside a lexeme** makes it a line feed, a string or a block comment. -/
theorem Begins.newline_cases (h : Begins text tag n) (hk : k < n)
    (hget : text[k]? = some '\n') :
    tag = .newline ∨ tag = .string ∨ tag = .blockComment ∨ tag = .unterminatedString ∨
      tag = .unterminatedBlockComment := by
  cases h with
  | newline | string | blockComment | unterminatedString | unterminatedBlockComment => simp
  | word | number | spacing | lineComment =>
    have hholds := holds_of_lt_runLength hk hget
    exact absurd hholds (by decide)
  | dot hfirst | minus hfirst =>
    obtain rfl : k = 0 := by omega
    simp [hfirst] at hget
  | dotDot hfirst hsecond =>
    obtain rfl | rfl : k = 0 ∨ k = 1 := by omega
    · simp [hfirst] at hget
    · simp [hsecond] at hget
  | dotDotDot hfirst hsecond hthird =>
    obtain rfl | rfl | rfl : k = 0 ∨ k = 1 ∨ k = 2 := by omega
    · simp [hfirst] at hget
    · simp [hsecond] at hget
    · simp [hthird] at hget
  | symbol hfirst hmem =>
    obtain rfl : k = 0 := by omega
    have hall : ∀ e ∈ symbols, e.1 ≠ '\n' := by decide
    rw [hfirst] at hget
    exact absurd (Option.some.inj hget) (hall _ hmem)
  | unrecognized hfirst hline =>
    obtain rfl : k = 0 := by omega
    rw [hfirst] at hget
    exact absurd (Option.some.inj hget) hline

theorem Begins.newline_of_tag (h : Begins text .newline n) : n = 1 ∧ text[0]? = some '\n' := by
  cases h with
  | newline hfirst => exact ⟨rfl, hfirst⟩
  | symbol _ hmem =>
    have hall : ∀ e ∈ symbols, e.2 ≠ Tag.newline := by decide
    exact absurd rfl (hall _ hmem)

end Grammar

/-! ### Line feeds, lexeme by lexeme -/

/-- Is this the tag of a placed lexeme? -/
def hasTag (tag : Tag) (e : Nat × Lexeme) : Bool := e.2.tag == tag

/-- Is this the kind of a row? -/
def Row.hasKind (kind : Kind) (row : Row) : Bool := row.kind == some kind

/-- The characters that a placed lexeme covers. -/
def Source.charsAt (s : Source) (e : Nat × Lexeme) : List Char :=
  (s.toList.drop e.1).take e.2.length

section Lexemes

variable {s : Source} {p : Nat} {ls : List Lexeme} {es : List (Nat × Lexeme)} {e : Nat × Lexeme}

/-- Lexemes that follow each other cover a stretch of the text, one behind the other. -/
theorem flatMap_charsAt (s : Source) (p : Nat) (ls : List Lexeme) :
    (placed p ls).flatMap s.charsAt = (s.toList.drop p).take (extent ls) := by
  induction ls generalizing p with
  | nil => simp [placed]
  | cons l ls ih =>
    rw [placed, List.flatMap_cons, ih, Grammar.extent_cons, List.take_add, List.drop_drop]
    rfl

/-- A lexeme that keeps a scan going holds one line feed if it is one, and others only if it
    is a string or a block comment. -/
structure KeepsLines (s : Source) (e : Nat × Lexeme) : Prop where
  newline : e.2.tag = .newline → s.charsAt e = ['\n']
  cases_of_mem : '\n' ∈ s.charsAt e → e.2.tag = .newline ∨ e.2.tag = .string ∨
    e.2.tag = .blockComment

theorem keepsLines_of_begins {policy : Policy}
    (hbegins : Begins (s.toList.drop e.1) e.2.tag e.2.length)
    (hclean : policy.isFatal e.2.tag = false) : KeepsLines s e := by
  constructor
  · intro htag
    rw [htag] at hbegins
    obtain ⟨hlength, hfirst⟩ := hbegins.newline_of_tag
    obtain ⟨c, rest, hrest⟩ := List.exists_cons_of_ne_nil hbegins.ne_nil
    rw [hrest] at hfirst
    rw [Source.charsAt, hlength, hrest, Option.some.inj hfirst]
    rfl
  · intro hmem
    obtain ⟨k, hk, hget⟩ := List.mem_take_iff_getElem.mp hmem
    have hget' := List.getElem?_eq_some_iff.mpr ⟨_, hget⟩
    rcases hbegins.newline_cases (Nat.lt_of_lt_of_le hk (Nat.min_le_left _ _)) hget' with
      htag | htag | htag | htag | htag
    · exact Or.inl htag
    · exact Or.inr (Or.inl htag)
    · exact Or.inr (Or.inr htag)
    all_goals
      rw [htag] at hclean
      cases hclean

/-- The line feeds inside the lexemes with a tag. -/
def newlinesWithin (s : Source) (tag : Tag) (es : List (Nat × Lexeme)) : Nat :=
  ((es.filter (hasTag tag)).flatMap s.charsAt).count '\n'

theorem newlinesWithin_cons (s : Source) (tag : Tag) (e : Nat × Lexeme)
    (es : List (Nat × Lexeme)) :
    newlinesWithin s tag (e :: es) =
      (if e.2.tag = tag then (s.charsAt e).count '\n' else 0) + newlinesWithin s tag es := by
  unfold newlinesWithin
  by_cases htag : e.2.tag = tag
  · simp [hasTag, htag]
  · simp [hasTag, htag]

/-- **The line feeds of lexemes** are the lexemes that are one, and those inside the strings
    and the block comments among them. -/
theorem count_newline_flatMap (h : ∀ e ∈ es, KeepsLines s e) :
    (es.flatMap s.charsAt).count '\n' =
      es.countP (hasTag .newline) + newlinesWithin s .string es +
        newlinesWithin s .blockComment es := by
  induction es with
  | nil => rfl
  | cons e es ih =>
    obtain ⟨hfirst, hrest⟩ := List.forall_mem_cons.mp h
    rw [List.flatMap_cons, List.count_append, ih hrest, newlinesWithin_cons, newlinesWithin_cons]
    by_cases hmem : '\n' ∈ s.charsAt e
    · rcases hfirst.cases_of_mem hmem with htag | htag | htag
      · simp [hasTag, htag, hfirst.newline htag]
        omega
      · simp [hasTag, htag]
        omega
      · simp [hasTag, htag]
        omega
    · have hnone : e.2.tag ≠ .newline := by
        intro htag
        rw [hfirst.newline htag] at hmem
        exact hmem (List.mem_singleton_self _)
      simp [hasTag, hnone, List.count_eq_zero.mpr hmem]

end Lexemes

/-! ### Rows of a kind, and rows before a row -/

/-- The line feeds inside the rows of a kind. -/
def newlinesInRows (s : Source) (kind : Kind) (rows : List Row) : Nat :=
  ((rows.filter (Row.hasKind kind)).flatMap s.charsOf).count '\n'

theorem Tag.kind?_eq_newline_iff (tag : Tag) : tag.kind? = some .newline ↔ tag = .newline := by
  cases tag <;> decide

theorem Tag.kind?_eq_string_iff (tag : Tag) : tag.kind? = some .string ↔ tag = .string := by
  cases tag <;> decide

section Rows

variable {s : Source} {kind : Kind} {tag : Tag}

/-- Where one tag only gives a kind, the rows of that kind are the lexemes with that tag. -/
theorem filter_hasKind_ofLexemes (h : ∀ u : Tag, u.kind? = some kind ↔ u = tag)
    (es : List (Nat × Lexeme)) :
    (Table.ofLexemes es).rows.toList.filter (Row.hasKind kind) =
      (es.filter (hasTag tag)).map Row.ofLexeme := by
  have hsame : ∀ e : Nat × Lexeme,
      ((Row.hasKind kind ∘ Row.ofLexeme) e && e.2.tag.kind?.isSome) = hasTag tag e := by
    intro e
    rw [Bool.eq_iff_iff]
    simp only [Function.comp_apply, Row.hasKind, Row.ofLexeme, hasTag, Bool.and_eq_true,
      beq_iff_eq, h e.2.tag]
    constructor
    · intro hboth
      exact hboth.1
    · intro htag
      exact ⟨htag, Option.isSome_of_eq_some ((h _).mpr htag)⟩
  rw [Table.rows_ofLexemes, List.filter_map, List.filter_filter]
  simp only [hsame]

theorem countP_hasKind_ofLexemes (h : ∀ u : Tag, u.kind? = some kind ↔ u = tag)
    (es : List (Nat × Lexeme)) :
    (Table.ofLexemes es).rows.toList.countP (Row.hasKind kind) = es.countP (hasTag tag) := by
  rw [List.countP_eq_length_filter, filter_hasKind_ofLexemes h, List.length_map,
    List.countP_eq_length_filter]

theorem newlinesInRows_ofLexemes (h : ∀ u : Tag, u.kind? = some kind ↔ u = tag)
    (es : List (Nat × Lexeme)) :
    newlinesInRows s kind (Table.ofLexemes es).rows.toList = newlinesWithin s tag es := by
  rw [newlinesInRows, filter_hasKind_ofLexemes h, List.flatMap_map]
  rfl

/-- The rows before a row are those of the lexemes before its lexeme. -/
theorem exists_split_of_rows {p : Nat} {ls : List Lexeme} {before after : List Row} {row : Row}
    (h : (Table.ofLexemes (placed p ls)).rows.toList = before ++ row :: after) :
    ∃ bs l as, ls = bs ++ l :: as ∧ before = (Table.ofLexemes (placed p bs)).rows.toList ∧
      row = Row.ofLexeme (p + extent bs, l) := by
  induction ls generalizing p before with
  | nil => cases before <;> cases h
  | cons l ls ih =>
    have hkept : ∀ ms : List Lexeme, l.tag.kind?.isSome = true →
        (Table.ofLexemes (placed p (l :: ms))).rows.toList =
          Row.ofLexeme (p, l) :: (Table.ofLexemes (placed (p + l.length) ms)).rows.toList := by
      intro ms hkind
      simp [Table.rows_ofLexemes, placed, hkind]
    have hgone : ∀ ms : List Lexeme, l.tag.kind?.isSome = false →
        (Table.ofLexemes (placed p (l :: ms))).rows.toList =
          (Table.ofLexemes (placed (p + l.length) ms)).rows.toList := by
      intro ms hkind
      simp [Table.rows_ofLexemes, placed, hkind]
    cases hkind : l.tag.kind?.isSome with
    | false =>
      rw [hgone ls hkind] at h
      obtain ⟨bs, m, as, rfl, hbefore, hrow⟩ := ih h
      refine ⟨l :: bs, m, as, rfl, ?_, ?_⟩
      · rw [hbefore, hgone bs hkind]
      · rw [hrow, Grammar.extent_cons, Nat.add_assoc]
    | true =>
      rw [hkept ls hkind] at h
      rcases before with _ | ⟨first, before⟩
      · exact ⟨[], l, ls, rfl, rfl, (List.cons.inj h).1.symm⟩
      · obtain ⟨rfl, hrest⟩ := List.cons.inj h
        obtain ⟨bs, m, as, rfl, hbefore, hrow⟩ := ih hrest
        refine ⟨l :: bs, m, as, rfl, ?_, ?_⟩
        · rw [hbefore, hkept bs hkind]
        · rw [hrow, Grammar.extent_cons, Nat.add_assoc]

/-- The placed lexemes that begin before another one are those before it. -/
theorem filter_start_lt_placed {bs as : List Lexeme} {l : Lexeme}
    (hpos : ∀ m ∈ bs, 0 < m.length) :
    (placed 0 (bs ++ l :: as)).filter (fun e => e.1 < extent bs) = placed 0 bs := by
  have hbefore : (placed 0 bs).filter (fun e => e.1 < extent bs) = placed 0 bs := by
    apply List.filter_eq_self.mpr
    intro e he
    have hlength := hpos e.2 (Grammar.snd_mem_of_mem_placed he)
    have hends := (Grammar.bounds_of_mem_placed he).2
    simp
    omega
  have hbehind : (placed (0 + extent bs) (l :: as)).filter (fun e => e.1 < extent bs) = [] := by
    apply List.filter_eq_nil_iff.mpr
    intro e he
    have hstarts := (Grammar.bounds_of_mem_placed he).1
    simp
    omega
  rw [Grammar.placed_append, List.filter_append, hbefore, hbehind, List.append_nil]

end Rows

/-! ### Line feeds, counted twice -/

/-- The position lies neither in a string nor in a block comment. -/
def IsOutside (es : List (Nat × Lexeme)) (rows : List Row) (i : Nat) : Prop :=
  (∀ row ∈ rows, row.kind = some .string → row.covers i = false) ∧
    ∀ e ∈ es, e.2.tag = .blockComment → covers i e = false

/-- Rows and places count the same lines of a source with these lexemes and this table. -/
structure CountsLines (s : Source) (es : List (Nat × Lexeme)) (t : Table) : Prop where
  /-- Outside, a line feed is covered by one row for line feeds. -/
  covered : ∀ i, s.charAt? i = some '\n' → IsOutside es t.rows.toList i →
    (t.rows.toList.filter (Row.hasKind .newline)).countP (Row.covers i) = 1
  /-- A row for line feeds covers one, outside. -/
  newline : ∀ row ∈ t.rows.toList, row.kind = some .newline →
    row.span = 1 ∧ s.charAt? row.start = some '\n' ∧ IsOutside es t.rows.toList row.start
  /-- The line of a row is counted by the rows before it and the block comments before it. -/
  line : ∀ i row, t.row? i = some row → ∃ place, s.lineColumn row.start = .ok place ∧
    place.line = 1 + (t.rows.toList.take i).countP (Row.hasKind .newline) +
      newlinesInRows s .string (t.rows.toList.take i) +
      newlinesWithin s .blockComment (es.filter fun e => e.1 < row.start)
  /-- Without line feeds inside of strings and block comments, rows count them all. -/
  total : (∀ row ∈ t.rows.toList, row.kind = some .string → '\n' ∉ s.charsOf row) →
    (∀ e ∈ es, e.2.tag = .blockComment → '\n' ∉ s.charsAt e) →
    t.rows.toList.countP (Row.hasKind .newline) = s.toList.count '\n'

section Counting

variable {policy : Policy} {s : Source} {i : Nat} {e e' : Nat × Lexeme}

/-- A position is covered by one placed lexeme only. -/
theorem Grammar.eq_of_covers {p : Nat} {ls : List Lexeme} (he : e ∈ placed p ls)
    (he' : e' ∈ placed p ls) (hi : covers i e = true) (hi' : covers i e' = true) : e = e' := by
  by_contra hne
  have hapart : (placed p ls).Pairwise fun a b => ¬ (covers i a = true ∧ covers i b = true) := by
    apply (Grammar.pairwise_placed p ls).imp
    intro a b hab hboth
    have ha := (Grammar.covers_iff.mp hboth.1).2
    have hb := (Grammar.covers_iff.mp hboth.2).1
    omega
  have hsymm : Std.Symm fun a b : Nat × Lexeme => ¬ (covers i a = true ∧ covers i b = true) :=
    ⟨fun _ _ hab hba => hab hba.symm⟩
  exact hapart.forall he he' hne ⟨hi, hi'⟩

theorem Source.mem_charsAt_of_covers {c : Char} (hc : s.charAt? i = some c)
    (hi : covers i e = true) : c ∈ s.charsAt e := by
  obtain ⟨hle, hlt⟩ := Grammar.covers_iff.mp hi
  rw [Source.charAt?_eq] at hc
  have hget : (s.charsAt e)[i - e.1]? = some c := by
    rw [Source.charsAt, List.getElem?_take_of_lt (by omega), List.getElem?_drop,
      Nat.add_sub_cancel' hle, hc]
  exact List.mem_of_getElem? hget

theorem mem_rows_of_kind? {es : List (Nat × Lexeme)} {kind : Kind} (he : e ∈ es)
    (hkind : e.2.tag.kind? = some kind) : Row.ofLexeme e ∈ (Table.ofLexemes es).rows.toList :=
  mem_rows_ofLexemes.mpr ⟨e, he, ⟨kind, hkind⟩, rfl⟩

/-- A row for line feeds is one, outside. -/
theorem newline_of_mem_rows {row : Row}
    (hrow : row ∈ (Table.ofLexemes (placed 0 (lexemes s.toList))).rows.toList)
    (hkind : row.kind = some .newline) :
    row.span = 1 ∧ s.charAt? row.start = some '\n' ∧
      IsOutside (placed 0 (lexemes s.toList))
        (Table.ofLexemes (placed 0 (lexemes s.toList))).rows.toList row.start := by
  obtain ⟨e, he, -, rfl⟩ := mem_rows_ofLexemes.mp hrow
  have htag : e.2.tag = .newline := (Tag.kind?_eq_newline_iff e.2.tag).mp hkind
  have hbegins : Begins (s.toList.drop e.1) e.2.tag e.2.length := Grammar.begins_of_mem_placed he
  rw [htag] at hbegins
  obtain ⟨hlength, hfirst⟩ := hbegins.newline_of_tag
  have hcovers : covers e.1 e = true :=
    Grammar.covers_iff.mpr ⟨Nat.le_refl e.1, Nat.lt_add_of_pos_right hbegins.length_pos⟩
  -- what covers this position is this lexeme, and that has one tag
  have hother : ∀ d ∈ placed 0 (lexemes s.toList), d.2.tag ≠ .newline →
      covers e.1 d = false := by
    intro d hd hne
    apply Bool.eq_false_iff.mpr
    intro hd'
    rw [Grammar.eq_of_covers hd he hd' hcovers] at hne
    exact hne htag
  refine ⟨hlength, ?_, ?_, ?_⟩
  · rw [List.getElem?_drop, Nat.add_zero] at hfirst
    exact (Source.charAt?_eq s e.1).trans hfirst
  · intro row hrow hstring
    obtain ⟨d, hd, -, rfl⟩ := mem_rows_ofLexemes.mp hrow
    apply hother d hd
    rw [(Tag.kind?_eq_string_iff d.2.tag).mp hstring]
    decide
  · intro d hd hcomment
    apply hother d hd
    rw [hcomment]
    decide

variable (hclean : ∀ l ∈ lexemes s.toList, policy.isFatal l.tag = false)
include hclean

theorem keepsLines_of_mem (he : e ∈ placed 0 (lexemes s.toList)) : KeepsLines s e :=
  keepsLines_of_begins (Grammar.begins_of_mem_placed he)
    (hclean e.2 (Grammar.snd_mem_of_mem_placed he))

/-- Outside, a line feed is a row. -/
theorem countP_covers_newline (hi : s.charAt? i = some '\n')
    (houtside : IsOutside (placed 0 (lexemes s.toList))
      (Table.ofLexemes (placed 0 (lexemes s.toList))).rows.toList i) :
    ((Table.ofLexemes (placed 0 (lexemes s.toList))).rows.toList.filter
      (Row.hasKind .newline)).countP (Row.covers i) = 1 := by
  obtain ⟨hstring, hcomment⟩ := houtside
  have hlt : i < s.size := (Array.getElem?_eq_some_iff.mp hi).1
  obtain ⟨e, he, hcovers⟩ := Cursor.exists_covers hlt
  have hrow : Row.covers i ∘ Row.ofLexeme = covers i := rfl
  rw [filter_hasKind_ofLexemes Tag.kind?_eq_newline_iff, List.countP_map, hrow]
  rcases (keepsLines_of_mem hclean he).cases_of_mem (Source.mem_charsAt_of_covers hi hcovers) with
    htag | htag | htag
  · apply Nat.le_antisymm
    · rw [← Cursor.countP_covers_source hlt]
      exact List.filter_sublist.countP_le
    · apply List.countP_pos_iff.mpr
      exact ⟨e, List.mem_filter.mpr ⟨he, beq_iff_eq.mpr htag⟩, hcovers⟩
  · have hkind := (Tag.kind?_eq_string_iff e.2.tag).mpr htag
    have hnot : covers i e = false := hstring _ (mem_rows_of_kind? he hkind) hkind
    rw [hcovers] at hnot
    cases hnot
  · rw [hcomment e he htag] at hcovers
    cases hcovers

/-- The line feeds before the end of some lexemes are counted by their rows and by the block
    comments among them. -/
theorem count_newline_take {bs as : List Lexeme} (hsplit : lexemes s.toList = bs ++ as) :
    (s.toList.take (extent bs)).count '\n' =
      (Table.ofLexemes (placed 0 bs)).rows.toList.countP (Row.hasKind .newline) +
        newlinesInRows s .string (Table.ofLexemes (placed 0 bs)).rows.toList +
        newlinesWithin s .blockComment (placed 0 bs) := by
  have hbefore : placed 0 bs <+: placed 0 (lexemes s.toList) := by
    apply Grammar.placed_prefix
    rw [hsplit]
    exact List.prefix_append bs as
  have hkeeps : ∀ e ∈ placed 0 bs, KeepsLines s e := by
    intro e he
    exact keepsLines_of_mem hclean (hbefore.subset he)
  have hchars := flatMap_charsAt s 0 bs
  rw [List.drop_zero] at hchars
  rw [← hchars, count_newline_flatMap hkeeps, countP_hasKind_ofLexemes Tag.kind?_eq_newline_iff,
    newlinesInRows_ofLexemes Tag.kind?_eq_string_iff]

theorem line_eq_of_row? {row : Row}
    (hrow : (Table.ofLexemes (placed 0 (lexemes s.toList))).row? i = some row) :
    ∃ place, s.lineColumn row.start = .ok place ∧
      place.line = 1 +
        ((Table.ofLexemes (placed 0 (lexemes s.toList))).rows.toList.take i).countP
          (Row.hasKind .newline) +
        newlinesInRows s .string
          ((Table.ofLexemes (placed 0 (lexemes s.toList))).rows.toList.take i) +
        newlinesWithin s .blockComment
          ((placed 0 (lexemes s.toList)).filter fun e => e.1 < row.start) := by
  obtain ⟨hi, rfl⟩ := Array.getElem?_eq_some_iff.mp hrow
  generalize hrows : (Table.ofLexemes (placed 0 (lexemes s.toList))).rows = rows at *
  have hsplit : rows.toList = rows.toList.take i ++ rows[i] :: rows.toList.drop (i + 1) := by
    rw [← Array.getElem_toList, List.getElem_cons_drop, List.take_append_drop]
  obtain ⟨bs, l, as, hlexemes, hbefore, hlast⟩ :=
    exists_split_of_rows ((congrArg Array.toList hrows).trans hsplit)
  have hlt : extent bs < s.size := (Cursor.next_of_split hlexemes).2
  have hpos : ∀ m ∈ bs, 0 < m.length := by
    intro m hm
    have hmem : m ∈ lexemes s.toList := by
      rw [hlexemes]
      exact List.mem_append_left _ hm
    exact Grammar.length_pos_of_mem_lexemes hmem
  have hstart : rows[i].start = extent bs := by
    rw [hlast]
    exact Nat.zero_add _
  rw [hstart, hbefore, hlexemes, filter_start_lt_placed hpos]
  refine ⟨_, Source.lineColumn_of_lt hlt, ?_⟩
  rw [LineColumn.line_foldl_behind, count_newline_take hclean hlexemes]
  show 1 + _ = _
  omega

theorem countsLines_ofLexemes :
    CountsLines s (placed 0 (lexemes s.toList))
      (Table.ofLexemes (placed 0 (lexemes s.toList))) where
  covered := fun _ => countP_covers_newline hclean
  newline := fun _ => newline_of_mem_rows
  line := fun _ _ => line_eq_of_row? hclean
  total := by
    intro hstrings hcomments
    have hall := count_newline_take hclean (List.append_nil (lexemes s.toList)).symm
    have hrows : newlinesInRows s .string
        (Table.ofLexemes (placed 0 (lexemes s.toList))).rows.toList = 0 := by
      apply List.count_eq_zero.mpr
      simp only [List.mem_flatMap, List.mem_filter, not_exists, not_and]
      rintro row ⟨hrow, hkind⟩
      exact hstrings row hrow (beq_iff_eq.mp hkind)
    have hdropped : newlinesWithin s .blockComment (placed 0 (lexemes s.toList)) = 0 := by
      apply List.count_eq_zero.mpr
      simp only [List.mem_flatMap, List.mem_filter, not_exists, not_and]
      rintro e ⟨he, htag⟩
      exact hcomments e he (beq_iff_eq.mp htag)
    rw [Cursor.extent_source, ← s.length_toList, List.take_length, hrows, hdropped] at hall
    exact hall.symm

end Counting

/-- **Rows and places count the same lines.**  In a text that is accepted, a line feed is
    covered by one row of its own or lies in a string or in a block comment.  Counted from the
    first one, the rows, the strings and the block comments before a token have as many line
    feeds as its place says. -/
theorem rows_and_places_count_lines {policy : Policy} {s : Source} {report : Report} {t : Table}
    (hscan : scan policy s = .ok report) (ht : report.outcome = .ok t) :
    ∃ es, Cursor.lexemes (Cursor.start s) = .ok (es, ⟨s, s.size⟩) ∧ CountsLines s es t := by
  obtain ⟨hclean, rfl⟩ := (scan_accepts_iff hscan).mp ht
  exact ⟨_, Cursor.lexemes_start s, countsLines_ofLexemes hclean⟩

/-- Of the five line feeds before the last token, three are rows, and one each is inside a block
    comment and a string. -/
theorem lines_below_comment_and_string :
    let s := Source.ofString "a\n--[[\n]]'\n'\n--c\nb"
    let t : Table := .ofRows true
      [⟨0, 1, some .word⟩, ⟨1, 1, some .newline⟩, ⟨9, 3, some .string⟩, ⟨12, 1, some .newline⟩,
        ⟨16, 1, some .newline⟩, ⟨17, 1, some .word⟩]
    ∃ report, scan .reject s = .ok report ∧ report.outcome = .ok t ∧
      ∃ es, Cursor.lexemes (Cursor.start s) = .ok (es, ⟨s, s.size⟩) ∧ CountsLines s es t ∧
        s.lineColumn 17 = .ok ⟨6, 0⟩ ∧
        (t.rows.toList.take 5).countP (Row.hasKind .newline) = 3 ∧
        newlinesInRows s .string (t.rows.toList.take 5) = 1 ∧
        newlinesWithin s .blockComment (es.filter fun e => e.1 < 17) = 1 := by
  intro s t
  have hscan : scan .reject s =
      .ok ⟨[.droppedComment 2 7, .droppedComment 13 3, .complete 6], .ok t⟩ := by decide +kernel
  obtain ⟨es, hes, hcounts⟩ := rows_and_places_count_lines hscan rfl
  obtain ⟨place, hplace, hline⟩ := hcounts.line 5 _ rfl
  have hseventeen : s.lineColumn 17 = .ok ⟨6, 0⟩ := by decide +kernel
  have hrows : (t.rows.toList.take 5).countP (Row.hasKind .newline) = 3 := by decide +kernel
  have hstrings : newlinesInRows s .string (t.rows.toList.take 5) = 1 := by decide +kernel
  obtain rfl := Except.ok.inj (hseventeen.symm.trans hplace)
  rw [hrows, hstrings] at hline
  refine ⟨_, hscan, rfl, es, hes, hcounts, hseventeen, hrows, hstrings, ?_⟩
  exact (Nat.add_left_cancel hline).symm

end ScriptTokenizer
