/-
  ScriptTokenizer/Proofs/LineByLine.lean
  ======================================
  **A text may be tokenized line by line.**

  A line feed is a token of its own, and no lexeme goes on into it but a string
  or a comment that is still open.  So where a text is accepted, what stands
  behind it on further lines is read as if it stood alone, even though strings
  look back and comments look ahead (`lexemes_lines`).

  What changes is the place.  Every start is moved by the length of the lines in
  front, and the line of an error by their number; its column is not moved,
  because columns begin anew with each line (`FirstFatal.below`).
-/
import ScriptTokenizer.Proofs.Juxtaposition
import ScriptTokenizer.Proofs.Outcomes

namespace ScriptTokenizer

open Grammar (placed extent)

/-! ### The lexemes of lines -/

/-- No lexeme that a text may end with goes on into a line feed. -/
theorem Grammar.joins_newline {policy : Policy} {tag : Tag} (h : policy.isFatal tag = false) :
    Grammar.joins tag '\n' = false := by
  cases tag with
  | unterminatedString | unterminatedBlockComment => cases h
  | word => decide
  | _ => rfl

theorem Grammar.lexemes_newline (b : List Char) :
    Grammar.lexemes ('\n' :: b) = ⟨.newline, 1⟩ :: Grammar.lexemes b := by
  rw [Grammar.lexemes_of_ne_nil (List.cons_ne_nil '\n' b)]
  rfl

theorem Grammar.lexemes_lines {policy : Policy} {a : List Char}
    (hclean : ∀ l ∈ Grammar.lexemes a, policy.isFatal l.tag = false) (b : List Char) :
    Grammar.lexemes (a ++ '\n' :: b) =
      Grammar.lexemes a ++ ⟨.newline, 1⟩ :: Grammar.lexemes b := by
  rw [Grammar.lexemes_append, Grammar.lexemes_newline]
  rintro before l hl c ⟨⟩
  apply Grammar.joins_newline
  apply hclean
  rw [hl]
  exact List.mem_append_right before (List.mem_singleton_self l)

theorem Policy.clean_lines {policy : Policy} {ls ms : List Lexeme}
    (hl : ∀ l ∈ ls, policy.isFatal l.tag = false) (hm : ∀ m ∈ ms, policy.isFatal m.tag = false) :
    ∀ l ∈ ls ++ ⟨.newline, 1⟩ :: ms, policy.isFatal l.tag = false := by
  intro l h
  rw [List.mem_append, List.mem_cons] at h
  rcases h with h | rfl | h
  · exact hl l h
  · rfl
  · exact hm l h

/-! ### Tables and errors further down -/

/-- The row of the same token behind `n` more characters. -/
def Row.shift (n : Nat) (row : Row) : Row := { row with start := row.start + n }

/-- The same error behind `n` more characters, so many lines further down. -/
def ScanError.shift (n lines : Nat) (e : ScanError) : ScanError :=
  ⟨e.cause, e.start + n, ⟨e.location.line + lines, e.location.column⟩⟩

theorem Table.rows_ofLexemes_append (es fs : List (Nat × Lexeme)) :
    (Table.ofLexemes (es ++ fs)).rows.toList =
      (Table.ofLexemes es).rows.toList ++ (Table.ofLexemes fs).rows.toList := by
  simp only [Table.rows_ofLexemes, List.filter_append, List.map_append]

theorem Table.rows_ofLexemes_placed (n : Nat) (ls : List Lexeme) :
    (Table.ofLexemes (placed n ls)).rows.toList =
      (Table.ofLexemes (placed 0 ls)).rows.toList.map (Row.shift n) := by
  have hshift : Row.ofLexeme ∘ (fun e : Nat × Lexeme => (n + e.1, e.2)) =
      Row.shift n ∘ Row.ofLexeme := by
    funext e
    simp [Row.ofLexeme, Row.shift, Nat.add_comm]
  have hplaced : placed n ls = (placed 0 ls).map fun e => (n + e.1, e.2) :=
    Grammar.placed_add n 0 ls
  simp only [Table.rows_ofLexemes, hplaced, List.filter_map, List.map_map, hshift]
  rfl

section Lines

variable {policy : Policy} {a b s : Source} {before after : List Lexeme} {l : Lexeme}
  {e : ScanError}

theorem Source.charAt?_below (hs : s.toList = a.toList ++ '\n' :: b.toList) (offset : Nat) :
    s.charAt? (offset + (a.size + 1)) = b.charAt? offset := by
  have hindex : offset + (a.size + 1) - a.size = offset + 1 := by omega
  rw [Source.charAt?_eq, hs, List.getElem?_append_right (by rw [a.length_toList]; omega),
    a.length_toList, hindex, List.getElem?_cons_succ, Source.charAt?_eq]

/-- A place below some lines has the same column, and so many more lines above it. -/
theorem Source.lineColumn_below (hs : s.toList = a.toList ++ '\n' :: b.toList) {offset : Nat}
    {place : LineColumn} (hlt : offset < b.size) (h : b.lineColumn offset = .ok place) :
    s.lineColumn (offset + (a.size + 1)) =
      .ok ⟨place.line + (1 + a.toList.count '\n'), place.column⟩ := by
  rw [Source.lineColumn_of_lt hlt, Except.ok.injEq] at h
  have hsize : s.size = a.size + (b.size + 1) := by
    rw [← s.length_toList, hs, List.length_append, List.length_cons, a.length_toList,
      b.length_toList]
  have hindex : offset + (a.size + 1) = a.toList.length + (offset + 1) := by
    rw [a.length_toList]
    omega
  have htake : s.toList.take (offset + (a.size + 1)) =
      a.toList ++ '\n' :: b.toList.take offset := by
    rw [hs, hindex, List.take_length_add_append, List.take_succ_cons]
  rw [Source.lineColumn_of_lt (by omega), htake, LineColumn.foldl_behind_lines, h]

/-- The first fatal lexeme of a text is the first one below lines that have none. -/
theorem FirstFatal.below (hs : s.toList = a.toList ++ '\n' :: b.toList)
    (hclean : ∀ l ∈ Grammar.lexemes a.toList, policy.isFatal l.tag = false)
    (h : FirstFatal policy b before l after e) :
    FirstFatal policy s (Grammar.lexemes a.toList ++ ⟨.newline, 1⟩ :: before) l after
      (e.shift (a.size + 1) (1 + a.toList.count '\n')) where
  split := by rw [hs, Grammar.lexemes_lines hclean, h.split, List.append_assoc, List.cons_append]
  clean := Policy.clean_lines hclean h.clean
  fatal := h.fatal
  start := by
    rw [Grammar.extent_append, Grammar.extent_cons, Cursor.extent_source, ← h.start]
    show e.start + (a.size + 1) = a.size + (1 + e.start)
    omega
  location := Source.lineColumn_below hs h.start_lt_size h.location
  cause := h.cause.of_charAt?_eq (Source.charAt?_below hs e.start)

end Lines

/-! ### The whole text -/

/-- **Tokenizing line by line.**  Where the lines in front are accepted, the rest is
    tokenized as if it stood alone.  Its rows follow theirs and a line feed, and its error
    is the error of the whole, each moved by what stands in front. -/
theorem tokenize_lines (policy : Policy) {a b : String}
    (hlength : a.length + 1 + b.length ≤ maxOffset) {ta : Tokenized}
    (ha : tokenize policy a = .ok (.ok ta)) :
    (∀ tb, tokenize policy b = .ok (.ok tb) →
      ∃ t, tokenize policy (a ++ "\n" ++ b) = .ok (.ok t) ∧
        t.table.tracksKinds = true ∧ t.table.Parallel ∧
        t.table.rows.toList = ta.table.rows.toList ++
          ⟨a.length, 1, some .newline⟩ :: tb.table.rows.toList.map (Row.shift (a.length + 1))) ∧
      ∀ e, tokenize policy b = .ok (.error e) →
        tokenize policy (a ++ "\n" ++ b) =
          .ok (.error (e.shift (a.length + 1) (1 + a.toList.count '\n'))) := by
  have hla : a.length ≤ maxOffset := by omega
  have hlb : b.length ≤ maxOffset := by omega
  have hs : (Source.ofString (a ++ "\n" ++ b)).toList =
      (Source.ofString a).toList ++ '\n' :: (Source.ofString b).toList := by
    rw [Source.toList_ofString hla, Source.toList_ofString hlb, Source.toList_ofString]
    · simp
    · rw [String.length_append, String.length_append]
      exact hlength
  obtain ⟨hclean, rfl⟩ := tokenize_eq_ok_iff.mp ha
  constructor
  · intro tb hb
    obtain ⟨hclean', rfl⟩ := tokenize_eq_ok_iff.mp hb
    refine ⟨_, tokenize_eq_ok_iff.mpr ⟨?_, rfl⟩, rfl, (Table.refines_ofLexemes _).parallel, ?_⟩
    · rw [hs, Grammar.lexemes_lines hclean]
      exact Policy.clean_lines hclean hclean'
    · show (Table.ofLexemes (placed 0 _)).rows.toList = _
      rw [hs, Grammar.lexemes_lines hclean, Grammar.placed_append, placed,
        Table.rows_ofLexemes_append, Cursor.extent_source, Nat.zero_add,
        Source.size_ofString hla, ← List.singleton_append, Table.rows_ofLexemes_append,
        Table.rows_ofLexemes_placed (a.length + 1)]
      rfl
  · intro e he
    obtain ⟨before, l, after, hfirst⟩ := tokenize_eq_error_iff.mp he
    have hbelow := hfirst.below hs hclean
    rw [Source.size_ofString hla, Source.toList_ofString hla] at hbelow
    exact tokenize_eq_error_iff.mpr ⟨_, _, _, hbelow⟩

/-- Below a comment that its line ends, a string is found and an open one is reported. -/
theorem tokenize_lines_below_comment :
    let a := "x --["
    let ta : Tokenized := ⟨Source.ofString a, .ofRows true [⟨0, 1, some .word⟩]⟩
    let tb : Tokenized := ⟨Source.ofString "'\n'", .ofRows true [⟨0, 3, some .string⟩]⟩
    a.length + 1 + "'\n'".length ≤ maxOffset ∧ tokenize .reject a = .ok (.ok ta) ∧
      tokenize .reject "'\n'" = .ok (.ok tb) ∧
      (∃ t, tokenize .reject (a ++ "\n" ++ "'\n'") = .ok (.ok t) ∧ t.table.rows.toList =
        [⟨0, 1, some .word⟩, ⟨5, 1, some .newline⟩, ⟨6, 3, some .string⟩]) ∧
      tokenize .reject "\n 'y" = .ok (.error ⟨.unterminatedString, 2, ⟨2, 1⟩⟩) ∧
      tokenize .reject (a ++ "\n" ++ "\n 'y") =
        .ok (.error ⟨.unterminatedString, 8, ⟨3, 1⟩⟩) := by
  intro a ta tb
  have hlength : a.length + 1 + "'\n'".length ≤ maxOffset := by decide
  have ha : tokenize .reject a = .ok (.ok ta) := by decide +kernel
  have hb : tokenize .reject "'\n'" = .ok (.ok tb) := by decide +kernel
  have he : tokenize .reject "\n 'y" = .ok (.error ⟨.unterminatedString, 2, ⟨2, 1⟩⟩) := by
    decide +kernel
  have hbelow : ScanError.shift (a.length + 1) (1 + a.toList.count '\n')
      ⟨.unterminatedString, 2, ⟨2, 1⟩⟩ = ⟨.unterminatedString, 8, ⟨3, 1⟩⟩ := by decide +kernel
  obtain ⟨t, ht, -, -, hrows⟩ := (tokenize_lines .reject hlength ha).1 tb hb
  have herror := (tokenize_lines .reject (by decide) ha).2 _ he
  rw [hbelow] at herror
  exact ⟨hlength, ha, hb, ⟨t, ht, hrows.trans (by decide +kernel)⟩, he, herror⟩

end ScriptTokenizer
