/-
  ScriptTokenizer/Proofs/ErrorPlaces.lean
  =======================================
  **Where an error points.**

  An error gives an offset, and it gives the place of that offset by line and
  column.  Both say where the first mistake begins.  There the text has what the
  error tells of: a quote or a block comment that is never closed, or the
  character that was found (`Cause.Heads`).

  That it is the first mistake can be said by two more scans.  The text before
  the offset is accepted, with the rows that the whole text has there.  The text
  from the offset on is rejected at once, for the same cause
  (`error_points_at_first_mistake`).  An error therefore owes nothing to what
  stands before it, though a string looks back and a block comment is told from
  other comments by the characters behind it: the cut at the offset lies between
  two lexemes, and there a text may be cut.
-/
import ScriptTokenizer.Proofs.Fragments

namespace ScriptTokenizer

open Grammar (placed extent)

/-! ### How a mistake looks -/

/-- A text that begins with the mistake: a quote with nothing behind it that closes the
    string, a block comment that nothing closes, or the character found. -/
inductive Cause.Heads (text : List Char) : Cause → Prop where
  | string {quote : Char} : text[0]? = some quote → quote = '\'' ∨ quote = '"' →
      (∀ k, text[k + 1]? = some quote → text[k]? = some '\\') → Heads text .unterminatedString
  | blockComment : ['-', '-', '[', '['] <+: text →
      (∀ k, 4 ≤ k → ¬ [']', ']'] <+: text.drop k) → Heads text .unterminatedBlockComment
  | character {found : Char} : text[0]? = some found → Heads text (.unrecognized found)

namespace Grammar

variable {text : List Char} {n : Nat}

theorem Begins.heads_string (h : Begins text .unterminatedString n) :
    Cause.Heads text .unterminatedString := by
  cases h with
  | unterminatedString hfirst hquote hnone =>
    refine .string hfirst hquote ?_
    intro k hk
    by_contra hback
    have hlt : k + 1 < text.length := (List.getElem?_eq_some_iff.mp hk).1
    have hopen := leastIndex?_eq_none_iff.mp hnone (k + 1) hlt
    have hcloses := closesString_iff.mpr ⟨Nat.le_add_left 1 k, hk, hback⟩
    rw [hopen] at hcloses
    cases hcloses
  | symbol _ hmem => simp [symbols] at hmem

theorem closesComment_of_prefix {k : Nat} (hk : 4 ≤ k) (h : [']', ']'] <+: text.drop k) :
    k < text.length ∧ closesComment text k = true := by
  obtain ⟨rest, hrest⟩ := h
  have hfirst : text[k]? = some ']' := by
    rw [← Nat.add_zero k, ← List.getElem?_drop, ← hrest]
    rfl
  have hsecond : text[k + 1]? = some ']' := by
    rw [← List.getElem?_drop, ← hrest]
    rfl
  exact ⟨(List.getElem?_eq_some_iff.mp hfirst).1, closesComment_iff.mpr ⟨hk, hfirst, hsecond⟩⟩

theorem Begins.heads_blockComment (h : Begins text .unterminatedBlockComment n) :
    Cause.Heads text .unterminatedBlockComment := by
  cases h with
  | unterminatedBlockComment hblock hnone =>
    refine .blockComment hblock ?_
    intro k hk hclose
    obtain ⟨hlt, hcloses⟩ := closesComment_of_prefix hk hclose
    rw [leastIndex?_eq_none_iff.mp hnone k hlt] at hcloses
    cases hcloses
  | symbol _ hmem => simp [symbols] at hmem

/-- No mistake begins with a blank. -/
theorem Begins.isBlank_eq_false {policy : Policy} {c : Char} {rest : List Char} {tag : Tag}
    (h : Begins (c :: rest) tag n) (hfatal : policy.isFatal tag = true) : isBlank c = false := by
  apply Bool.eq_false_iff.mpr
  intro hblank
  by_cases hc : c = '\n'
  · rw [h.newline_iff.mpr hc] at hfatal
    cases hfatal
  · rw [h.spacing_iff.mpr (isSpacing_iff.mpr ⟨hc, hblank⟩)] at hfatal
    cases hfatal

end Grammar

section Errors

variable {policy : Policy} {s : Source} {before after : List Lexeme} {l : Lexeme} {e : ScanError}

theorem Cause.Explains.heads {start n : Nat} {tag : Tag} {cause : Cause}
    (h : Cause.Explains s start tag cause) (hbegins : Grammar.Begins (s.toList.drop start) tag n) :
    cause.Heads (s.toList.drop start) := by
  cases h with
  | string => exact hbegins.heads_string
  | blockComment => exact hbegins.heads_blockComment
  | character hfound =>
    refine .character ?_
    rw [List.getElem?_drop, Nat.add_zero, ← Source.charAt?_eq, hfound]

/-- The text from an error on begins with the lexeme that is fatal. -/
theorem FirstFatal.begins (h : FirstFatal policy s before l after e) :
    Grammar.Begins (s.toList.drop e.start) l.tag l.length := by
  rw [h.start]
  exact (Grammar.begins_of_split h.split).1

theorem FirstFatal.charAt?_start (h : FirstFatal policy s before l after e) :
    ∃ c, s.charAt? e.start = some c ∧ isBlank c = false := by
  have hbegins := h.begins
  rcases htext : s.toList.drop e.start with _ | ⟨c, rest⟩
  · exact absurd htext hbegins.ne_nil
  · rw [htext] at hbegins
    refine ⟨c, ?_, hbegins.isBlank_eq_false h.fatal⟩
    rw [Source.charAt?_eq, ← Nat.add_zero e.start, ← List.getElem?_drop, htext]
    rfl

theorem FirstFatal.location_eq (h : FirstFatal policy s before l after e) :
    e.location = ⟨1 + (s.toList.take e.start).count '\n',
      ((s.toList.take e.start).rtakeWhile (· != '\n')).length⟩ := by
  have hlocation := h.location
  rw [Source.lineColumn_of_lt h.start_lt_size, LineColumn.foldl_behind_start] at hlocation
  exact (Except.ok.inj hlocation).symm

/-! ### Before an error and from it on -/

theorem FirstFatal.lexemes_before (h : FirstFatal policy s before l after e) :
    Grammar.lexemes (s.between 0 e.start).toList = before := by
  rw [Source.toList_between, List.drop_zero, Nat.sub_zero, h.start, Grammar.lexemes_take h.split]

/-- The lexemes before an error are those that end there at the latest. -/
theorem FirstFatal.filter_before (h : FirstFatal policy s before l after e) :
    (placed 0 (Grammar.lexemes s.toList)).filter (liesBetween 0 e.start) = placed 0 before := by
  have hpos : ∀ m ∈ [] ++ (before ++ l :: after), 0 < m.length := by
    rw [List.nil_append, ← h.split]
    exact fun _ => Grammar.length_pos_of_mem_lexemes
  have hfilter := filter_liesBetween hpos
  rwa [List.nil_append, ← h.split, Grammar.extent_nil, Nat.zero_add, ← h.start] at hfilter

theorem FirstFatal.accepts_before (h : FirstFatal policy s before l after e) :
    ∃ front, scan policy (s.between 0 e.start) = .ok front ∧
      front.outcome = .ok (Table.ofLexemes
        ((placed 0 (Grammar.lexemes s.toList)).filter (liesBetween 0 e.start))) := by
  obtain ⟨front, hscan⟩ := scan_total policy (s.between 0 e.start)
  refine ⟨front, hscan, (scan_accepts_iff hscan).mpr ?_⟩
  rw [h.lexemes_before, h.filter_before]
  exact ⟨h.clean, rfl⟩

theorem Source.charAt?_between_size (s : Source) (p : Nat) :
    (s.between p s.size).charAt? 0 = s.charAt? p := by
  rw [Source.charAt?_eq, Source.toList_between_size, List.getElem?_drop, Nat.add_zero,
    Source.charAt?_eq]

/-- From its error on, a text has nothing before the fatal lexeme. -/
theorem FirstFatal.from_start (h : FirstFatal policy s before l after e) :
    FirstFatal policy (s.between e.start s.size) [] l after ⟨e.cause, 0, LineColumn.start⟩ where
  split := by
    rw [Source.toList_between_size, h.start, Grammar.lexemes_drop h.split, List.nil_append]
  clean := by
    intro m hm
    cases hm
  fatal := h.fatal
  start := rfl
  location := by
    apply Source.lineColumn_of_lt
    rw [Source.size_between (Nat.le_refl _)]
    exact Nat.sub_pos_of_lt h.start_lt_size
  cause := h.cause.of_charAt?_eq (s.charAt?_between_size e.start)

end Errors

/-- **An error points at the first mistake.**  It begins inside the text, at a character that
    is no blank, and its line and column count what stands before it.  The mistake is there;
    the text before it is accepted with the rows it has in the whole text, and the text from
    it on is rejected for the same cause at its very start. -/
theorem error_points_at_first_mistake {policy : Policy} {s : Source} {report : Report}
    {e : ScanError} (hscan : scan policy s = .ok report) (herror : report.outcome = .error e) :
    ∃ es, Cursor.lexemes (Cursor.start s) = .ok (es, ⟨s, s.size⟩) ∧
      e.start < s.size ∧
      e.location.line = 1 + (s.toList.take e.start).count '\n' ∧
      e.location.column = ((s.toList.take e.start).rtakeWhile (· != '\n')).length ∧
      (∃ c, s.charAt? e.start = some c ∧ isBlank c = false) ∧
      e.cause.Heads (s.toList.drop e.start) ∧
      (∃ front, scan policy (s.between 0 e.start) = .ok front ∧
        front.outcome = .ok (Table.ofLexemes (es.filter (liesBetween 0 e.start)))) ∧
      ∃ back, scan policy (s.between e.start s.size) = .ok back ∧
        back.outcome = .error ⟨e.cause, 0, ⟨1, 0⟩⟩ := by
  obtain ⟨before, l, after, hfirst⟩ := (scan_rejects_iff hscan).mp herror
  obtain ⟨back, hback⟩ := scan_total policy (s.between e.start s.size)
  refine ⟨_, Cursor.lexemes_start s, hfirst.start_lt_size, ?_, ?_, hfirst.charAt?_start,
    hfirst.cause.heads hfirst.begins, hfirst.accepts_before, back, hback,
    hfirst.from_start.outcome hback⟩
  · rw [hfirst.location_eq]
  · rw [hfirst.location_eq]

/-- A comment that is never closed, in the second line, behind a string with a quote in it. -/
theorem error_points_at_open_comment :
    let s := Source.ofString "\\'a\\''\n\t--[[x]"
    let e : ScanError := ⟨.unterminatedBlockComment, 8, ⟨2, 1⟩⟩
    let front : Table := .ofRows true [⟨1, 5, some .string⟩, ⟨6, 1, some .newline⟩]
    scan .skip s = .ok ⟨[.skippedCharacter 0 (some '\\')], .error e⟩ ∧
      s.charAt? 8 = some '-' ∧ e.cause.Heads (s.toList.drop 8) ∧
      (∃ report, scan .skip (s.between 0 8) = .ok report ∧ report.outcome = .ok front) ∧
      ∃ report, scan .skip (s.between 8 s.size) = .ok report ∧
        report.outcome = .error ⟨.unterminatedBlockComment, 0, ⟨1, 0⟩⟩ := by
  intro s e front
  have hscan : scan .skip s = .ok ⟨[.skippedCharacter 0 (some '\\')], .error e⟩ := by
    decide +kernel
  have hread : Cursor.lexemes (Cursor.start s) =
      .ok ([(0, ⟨.unrecognized, 1⟩), (1, ⟨.string, 5⟩), (6, ⟨.newline, 1⟩), (7, ⟨.spacing, 1⟩),
        (8, ⟨.unterminatedBlockComment, 6⟩)], ⟨s, s.size⟩) := by
    decide +kernel
  have hchar : s.charAt? 8 = some '-' := by decide +kernel
  obtain ⟨es, hes, -, -, -, -, hheads, hfront, hback⟩ := error_points_at_first_mistake hscan rfl
  obtain ⟨rfl, -⟩ := Prod.mk.inj (Except.ok.inj (hes.symm.trans hread))
  exact ⟨hscan, hchar, hheads, hfront, hback⟩

end ScriptTokenizer
