/-
  ScriptTokenizer/Proofs/Likeness.lean
  ====================================
  **What the rules see of a character.**

  The rules ask two kinds of questions about a character.  Does it belong to one
  of three classes: word characters, digits, spacing?  And is it one of a few
  marks that have a rule of their own?  Two characters that get the same answers
  are alike.  A character outside the grammar gets none but negative ones, so all
  of these are alike, except for the backslash, which strings look back at.

  Texts that are alike character by character are read as the same lexemes, which
  is proved rule by rule (`Begins.of_alike`).  Their scans therefore agree: the
  tables are equal, or the errors are, up to the character that each finds in its
  own text (`alike_sources_scan_alike`).

  NUL is one of the characters outside the grammar.  A cursor compares with it to
  find the end of the text, and this leaves no trace: what a cursor reads is what
  the grammar says, and the grammar does not know of NUL at all.
-/
import Mathlib.Data.List.Forall2
import ScriptTokenizer.Proofs.Juxtaposition
import ScriptTokenizer.Proofs.Outcomes

namespace ScriptTokenizer

/-! ### Characters that are alike -/

/-- A character outside the grammar that no rule looks back at. -/
def isStray (c : Char) : Bool := (Grammar.lexeme [c]).tag == .unrecognized && c != '\\'

/-- Two characters that no rule tells apart: the same one, or two of one class. -/
inductive Alike : Char → Char → Prop where
  | same (c : Char) : Alike c c
  | word {c d : Char} : isWordChar c = true → isWordChar d = true → Alike c d
  | digit {c d : Char} : c.isDigit = true → d.isDigit = true → Alike c d
  | spacing {c d : Char} : isSpacing c = true → isSpacing d = true → Alike c d
  | stray {c d : Char} : isStray c = true → isStray d = true → Alike c d

/-- The characters that rules ask for one by one. -/
def marks : List Char := ['\n', '\'', '"', '\\', '.', '-'] ++ Grammar.symbols.map Prod.fst

/-- If no member of one class belongs to another, none of the other belongs to the one. -/
theorem excluded_symm {p q : Char → Bool} (h : ∀ c, p c = true → q c = false) {c : Char}
    (hc : q c = true) : p c = false := by
  apply Bool.eq_false_iff.mpr
  intro hp
  rw [h c hp] at hc
  cases hc

theorem classes_of_isStray {c : Char} (h : isStray c = true) :
    isWordChar c = false ∧ c.isDigit = false ∧ isSpacing c = false := by
  rw [isStray, Bool.and_eq_true, beq_iff_eq] at h
  have hbegins := Grammar.begins_lexeme c []
  rw [h.1] at hbegins
  refine ⟨?_, ?_, ?_⟩
  · exact Bool.eq_false_iff.mpr (mt hbegins.word_iff.mpr (by decide))
  · exact Bool.eq_false_iff.mpr (mt hbegins.number_iff.mpr (by decide))
  · exact Bool.eq_false_iff.mpr (mt hbegins.spacing_iff.mpr (by decide))

theorem classes_of_mem_marks {m : Char} (h : m ∈ marks) :
    isWordChar m = false ∧ m.isDigit = false ∧ isSpacing m = false ∧ isStray m = false := by
  have hall : marks.all (fun m => !isWordChar m && (!m.isDigit && (!isSpacing m && !isStray m))) =
      true := by
    decide
  simpa using List.all_eq_true.mp hall m h

namespace Alike

variable {c d m : Char}

theorem symm (h : Alike c d) : Alike d c := by
  cases h with
  | same => exact .same c
  | word hc hd => exact .word hd hc
  | digit hc hd => exact .digit hd hc
  | spacing hc hd => exact .spacing hd hc
  | stray hc hd => exact .stray hd hc

theorem isWordChar_eq (h : Alike c d) : isWordChar c = isWordChar d := by
  cases h with
  | same => rfl
  | word hc hd => rw [hc, hd]
  | digit hc hd => rw [isWordChar_of_isDigit hc, isWordChar_of_isDigit hd]
  | spacing hc hd => rw [isWordChar_of_isSpacing hc, isWordChar_of_isSpacing hd]
  | stray hc hd => rw [(classes_of_isStray hc).1, (classes_of_isStray hd).1]

theorem isDigit_eq (h : Alike c d) : c.isDigit = d.isDigit := by
  cases h with
  | same => rfl
  | word hc hd =>
    have hexcluded := @excluded_symm _ _ @isWordChar_of_isDigit
    rw [hexcluded hc, hexcluded hd]
  | digit hc hd => rw [hc, hd]
  | spacing hc hd => rw [isDigit_of_isSpacing hc, isDigit_of_isSpacing hd]
  | stray hc hd => rw [(classes_of_isStray hc).2.1, (classes_of_isStray hd).2.1]

theorem isSpacing_eq (h : Alike c d) : isSpacing c = isSpacing d := by
  cases h with
  | same => rfl
  | word hc hd =>
    have hexcluded := @excluded_symm _ _ @isWordChar_of_isSpacing
    rw [hexcluded hc, hexcluded hd]
  | digit hc hd =>
    have hexcluded := @excluded_symm _ _ @isDigit_of_isSpacing
    rw [hexcluded hc, hexcluded hd]
  | spacing hc hd => rw [hc, hd]
  | stray hc hd => rw [(classes_of_isStray hc).2.2, (classes_of_isStray hd).2.2]

/-- A mark is like nothing but itself. -/
theorem eq_mark (h : Alike c d) (hm : m ∈ marks) (hc : c = m) : d = m := by
  subst hc
  obtain ⟨hword, hdigit, hspacing, hstray⟩ := classes_of_mem_marks hm
  cases h with
  | same => rfl
  | word hc => simp [hword] at hc
  | digit hc => simp [hdigit] at hc
  | spacing hc => simp [hspacing] at hc
  | stray hc => simp [hstray] at hc

theorem mark_iff (h : Alike c d) (hm : m ∈ marks) : c = m ↔ d = m :=
  ⟨h.eq_mark hm, h.symm.eq_mark hm⟩

end Alike

/-! ### Texts that are alike -/

namespace Grammar

variable {x y : List Char}

theorem getElem?_mark_iff (h : List.Forall₂ Alike x y) {m : Char} (hm : m ∈ marks) (k : Nat) :
    x[k]? = some m ↔ y[k]? = some m := by
  induction h generalizing k with
  | nil => rfl
  | cons hcd _ ih =>
    cases k with
    | zero => simpa using hcd.mark_iff hm
    | succ k => exact ih k

theorem prefix_marks_iff (h : List.Forall₂ Alike x y) {ms : List Char}
    (hms : ms ⊆ marks) : ms <+: x ↔ ms <+: y := by
  rw [List.prefix_iff_getElem?, List.prefix_iff_getElem?]
  exact forall₂_congr fun i hi => getElem?_mark_iff h (hms (List.getElem_mem hi)) i

theorem runLength_eq_of_alike (h : List.Forall₂ Alike x y) {p : Char → Bool}
    (hp : ∀ {c d}, Alike c d → p c = p d) : runLength p x = runLength p y := by
  induction h with
  | nil => rfl
  | cons hcd _ ih => rw [runLength_cons, runLength_cons, hp hcd, ih]

theorem closesString_eq_of_alike (h : List.Forall₂ Alike x y) {quote : Char}
    (hquote : quote ∈ marks) : closesString quote x = closesString quote y := by
  funext k
  have hbackslash : '\\' ∈ marks := by decide
  rw [Bool.eq_iff_iff, closesString_iff, closesString_iff, getElem?_mark_iff h hquote, Ne,
    getElem?_mark_iff h hbackslash]

theorem closesComment_eq_of_alike (h : List.Forall₂ Alike x y) :
    closesComment x = closesComment y := by
  funext k
  have hbracket : ']' ∈ marks := by decide
  rw [Bool.eq_iff_iff, closesComment_iff, closesComment_iff, getElem?_mark_iff h hbracket,
    getElem?_mark_iff h hbracket]

theorem mem_marks_of_quote {quote : Char} (h : quote = '\'' ∨ quote = '"') : quote ∈ marks := by
  rcases h with rfl | rfl
  · decide
  · decide

theorem mem_marks_of_symbol {c : Char} {tag : Tag} (h : (c, tag) ∈ symbols) : c ∈ marks :=
  List.mem_append_right _ (List.mem_map_of_mem h)

/-- **Each rule applies to a text as to one that is like it.** -/
theorem Begins.of_alike {tag : Tag} {n : Nat} (hx : Begins x tag n)
    (h : List.Forall₂ Alike x y) : Begins y tag n := by
  have hdash : ['-', '-'] ⊆ marks := by simp [marks]
  have hopening : ['-', '-', '[', '['] ⊆ marks := by simp [marks, symbols]
  have hdot : '.' ∈ marks := by decide
  have hminus : '-' ∈ marks := by decide
  have hline : '\n' ∈ marks := by decide
  cases hx with
  | newline hfirst => exact .newline ((getElem?_mark_iff h hline 0).mp hfirst)
  | word hpos =>
    rw [runLength_eq_of_alike h Alike.isWordChar_eq] at hpos ⊢
    exact .word hpos
  | number hpos =>
    rw [runLength_eq_of_alike h Alike.isDigit_eq] at hpos ⊢
    exact .number hpos
  | spacing hpos =>
    rw [runLength_eq_of_alike h Alike.isSpacing_eq] at hpos ⊢
    exact .spacing hpos
  | string hfirst hquote hk =>
    have hmark := mem_marks_of_quote hquote
    rw [closesString_eq_of_alike h hmark, h.length_eq] at hk
    exact .string ((getElem?_mark_iff h hmark 0).mp hfirst) hquote hk
  | unterminatedString hfirst hquote hnone =>
    have hmark := mem_marks_of_quote hquote
    rw [closesString_eq_of_alike h hmark, h.length_eq] at hnone
    rw [h.length_eq]
    exact .unterminatedString ((getElem?_mark_iff h hmark 0).mp hfirst) hquote hnone
  | dot hfirst hsecond =>
    exact .dot ((getElem?_mark_iff h hdot 0).mp hfirst)
      (mt (getElem?_mark_iff h hdot 1).mpr hsecond)
  | dotDot hfirst hsecond hthird =>
    exact .dotDot ((getElem?_mark_iff h hdot 0).mp hfirst)
      ((getElem?_mark_iff h hdot 1).mp hsecond) (mt (getElem?_mark_iff h hdot 2).mpr hthird)
  | dotDotDot hfirst hsecond hthird =>
    exact .dotDotDot ((getElem?_mark_iff h hdot 0).mp hfirst)
      ((getElem?_mark_iff h hdot 1).mp hsecond) ((getElem?_mark_iff h hdot 2).mp hthird)
  | minus hfirst hsecond =>
    exact .minus ((getElem?_mark_iff h hminus 0).mp hfirst)
      (mt (getElem?_mark_iff h hminus 1).mpr hsecond)
  | lineComment hbegin hblock =>
    have hsame : ∀ {c d}, Alike c d → (c != '\n') = (d != '\n') := by
      intro c d hcd
      rw [Bool.eq_iff_iff, bne_iff_ne, bne_iff_ne]
      exact not_congr (hcd.mark_iff hline)
    rw [runLength_eq_of_alike h hsame]
    exact .lineComment ((prefix_marks_iff h hdash).mp hbegin)
      (mt (prefix_marks_iff h hopening).mpr hblock)
  | blockComment hblock hk =>
    rw [closesComment_eq_of_alike h, h.length_eq] at hk
    exact .blockComment ((prefix_marks_iff h hopening).mp hblock) hk
  | unterminatedBlockComment hblock hnone =>
    rw [closesComment_eq_of_alike h, h.length_eq] at hnone
    rw [h.length_eq]
    exact .unterminatedBlockComment ((prefix_marks_iff h hopening).mp hblock) hnone
  | symbol hfirst hmem =>
    exact .symbol ((getElem?_mark_iff h (mem_marks_of_symbol hmem) 0).mp hfirst) hmem
  | unrecognized hfirst hnewline hword hdigit hspacing hsingle hdouble hsymbol hdot' hminus' =>
    cases h with
    | nil => cases hfirst
    | cons hcd _ =>
      cases hfirst
      refine .unrecognized rfl (mt (hcd.mark_iff hline).mpr hnewline)
        (hcd.isWordChar_eq.symm.trans hword) (hcd.isDigit_eq.symm.trans hdigit)
        (hcd.isSpacing_eq.symm.trans hspacing) (mt (hcd.mark_iff (by decide)).mpr hsingle)
        (mt (hcd.mark_iff (by decide)).mpr hdouble) ?_ (mt (hcd.mark_iff hdot).mpr hdot')
        (mt (hcd.mark_iff hminus).mpr hminus')
      intro tag hmem
      have hsame := hcd.symm.eq_mark (mem_marks_of_symbol hmem) rfl
      rw [hsame] at hsymbol
      exact hsymbol tag hmem

/-- Texts that are alike are read as the same lexemes. -/
theorem lexemes_eq_of_alike (h : List.Forall₂ Alike x y) : lexemes x = lexemes y := by
  induction x using lexemes_induction generalizing y with
  | nil =>
    cases h
    rfl
  | step x l hbegins hlexemes ih =>
    have hrest := ih (List.forall₂_drop l.length h)
    rw [hlexemes, hrest]
    exact (lexemes_eq_cons_iff.mpr ⟨hbegins.of_alike h, rfl⟩).symm

end Grammar

/-! ### Scans that agree -/

theorem LineColumn.foldl_behind_eq_of_alike {x y : List Char} (h : List.Forall₂ Alike x y)
    (place : LineColumn) : x.foldl behind place = y.foldl behind place := by
  induction h generalizing place with
  | nil => rfl
  | @cons c d _ _ hcd _ ih =>
    have hstep : place.behind c = place.behind d := by
      simp only [behind, hcd.mark_iff (show '\n' ∈ marks by decide)]
    rw [List.foldl_cons, List.foldl_cons, hstep, ih]

/-- Causes that differ at most in the character found, which each takes from its own source. -/
inductive Cause.Corresponds (s s' : Source) (start : Nat) : Cause → Cause → Prop where
  | string : Corresponds s s' start .unterminatedString .unterminatedString
  | blockComment : Corresponds s s' start .unterminatedBlockComment .unterminatedBlockComment
  | character {found found' : Char} : s.charAt? start = some found →
      s'.charAt? start = some found' →
      Corresponds s s' start (.unrecognized found) (.unrecognized found')

/-- Equal tables, or errors of corresponding causes with the same start and location. -/
inductive OutcomesAgree (s s' : Source) :
    Except ScanError Table → Except ScanError Table → Prop where
  | table (t : Table) : OutcomesAgree s s' (.ok t) (.ok t)
  | error {cause cause' : Cause} {start : Nat} {location : LineColumn} :
      Cause.Corresponds s s' start cause cause' →
      OutcomesAgree s s' (.error ⟨cause, start, location⟩) (.error ⟨cause', start, location⟩)

section Scans

variable {s s' : Source}

theorem Source.size_eq_of_alike (h : List.Forall₂ Alike s.toList s'.toList) :
    s.size = s'.size := by
  rw [← s.length_toList, ← s'.length_toList, h.length_eq]

theorem Source.lineColumn_eq_of_alike (h : List.Forall₂ Alike s.toList s'.toList) {offset : Nat}
    (hlt : offset < s.size) : s'.lineColumn offset = s.lineColumn offset := by
  have hlt' := hlt
  rw [Source.size_eq_of_alike h] at hlt'
  rw [Source.lineColumn_of_lt hlt, Source.lineColumn_of_lt hlt',
    LineColumn.foldl_behind_eq_of_alike (List.forall₂_take offset h)]

/-- What explains an error in one source explains it in the other. -/
theorem Cause.Explains.of_size_eq (hsize : s.size = s'.size) {start : Nat} {tag : Tag}
    {cause : Cause} (h : Cause.Explains s start tag cause) :
    ∃ cause', Cause.Explains s' start tag cause' ∧
      Cause.Corresponds s s' start cause cause' := by
  cases h with
  | string => exact ⟨_, .string, .string⟩
  | blockComment => exact ⟨_, .blockComment, .blockComment⟩
  | character hfound =>
    have hlt : start < s'.size := by
      rw [← hsize]
      exact (Array.getElem?_eq_some_iff.mp hfound).1
    have hfound' : s'.charAt? start = some s'.chars[start] := Array.getElem?_eq_getElem hlt
    exact ⟨_, .character hfound', .character hfound hfound'⟩

theorem FirstFatal.of_alike {policy : Policy} {before after : List Lexeme} {l : Lexeme}
    {e : ScanError} (hfirst : FirstFatal policy s before l after e)
    (h : List.Forall₂ Alike s.toList s'.toList) :
    ∃ cause', Cause.Corresponds s s' e.start e.cause cause' ∧
      FirstFatal policy s' before l after ⟨cause', e.start, e.location⟩ := by
  obtain ⟨cause', hcause', hcorresponds⟩ :=
    hfirst.cause.of_size_eq (Source.size_eq_of_alike h)
  refine ⟨cause', hcorresponds, ?_, hfirst.clean, hfirst.fatal, hfirst.start, ?_, hcause'⟩
  · rw [← Grammar.lexemes_eq_of_alike h, hfirst.split]
  · rw [Source.lineColumn_eq_of_alike h hfirst.start_lt_size, hfirst.location]

theorem outcomesAgree_of_alike {policy : Policy} (h : List.Forall₂ Alike s.toList s'.toList)
    {report report' : Report} (hscan : scan policy s = .ok report)
    (hscan' : scan policy s' = .ok report') :
    OutcomesAgree s s' report.outcome report'.outcome := by
  rcases houtcome : report.outcome with e | t
  · obtain ⟨before, l, after, hfirst⟩ := (scan_rejects_iff hscan).mp houtcome
    obtain ⟨cause', hcorresponds, hfirst'⟩ := hfirst.of_alike h
    rw [hfirst'.outcome hscan']
    exact .error hcorresponds
  · obtain ⟨hclean, rfl⟩ := (scan_accepts_iff hscan).mp houtcome
    rw [Grammar.lexemes_eq_of_alike h] at hclean ⊢
    rw [(scan_accepts_iff hscan').mpr ⟨hclean, rfl⟩]
    exact .table _

end Scans

/-- **Scanning sees no more of a character than the rules do.**  Sources that are alike
    character by character have the same table, or errors that agree.  NUL is like all
    characters outside the grammar but the backslash, and an ASCII letter like all letters. -/
theorem alike_sources_scan_alike (policy : Policy) :
    (∀ s s' : Source, List.Forall₂ Alike s.toList s'.toList →
      ∃ report report', scan policy s = .ok report ∧ scan policy s' = .ok report' ∧
        OutcomesAgree s s' report.outcome report'.outcome) ∧
      (∀ c, isStray c = true → Alike nul c) ∧
      ∀ c d : Char, c.isAlpha = true → isAlphabetic d = true → Alike c d := by
  refine ⟨?_, ?_, ?_⟩
  · intro s s' h
    obtain ⟨report, hscan⟩ := scan_total policy s
    obtain ⟨report', hscan'⟩ := scan_total policy s'
    exact ⟨report, report', hscan, hscan', outcomesAgree_of_alike h hscan hscan'⟩
  · intro c hc
    exact .stray (by decide) hc
  · intro c d hc hd
    refine .word ?_ ?_
    · rw [isWordChar, isAlphabetic_of_isAlpha hc, Bool.or_true]
    · rw [isWordChar, hd, Bool.or_true]

/-- NUL within a string and behind it, against signs that are no part of the grammar. -/
theorem scan_nul_as_signs :
    let s := Source.ofString "a '\x00' \x00"
    let s' := Source.ofString "é\t'<' %"
    List.Forall₂ Alike s.toList s'.toList ∧
      scan .reject s = .ok ⟨[], .error ⟨.unrecognized '\x00', 6, ⟨1, 6⟩⟩⟩ ∧
      ∃ report', scan .reject s' = .ok report' ∧
        report'.outcome = .error ⟨.unrecognized '%', 6, ⟨1, 6⟩⟩ := by
  intro s s'
  have hchars : s.toList = ['a', ' ', '\'', '\x00', '\'', ' ', '\x00'] := by decide +kernel
  have hchars' : s'.toList = ['é', '\t', '\'', '<', '\'', ' ', '%'] := by decide +kernel
  have hfound : s'.charAt? 6 = some '%' := by decide +kernel
  have halike : List.Forall₂ Alike s.toList s'.toList := by
    rw [hchars, hchars']
    refine .cons (.word ?_ ?_) <| .cons (.spacing ?_ ?_) <| .cons (.same _) <|
      .cons (.stray ?_ ?_) <| .cons (.same _) <| .cons (.same _) <| .cons (.stray ?_ ?_) .nil
    all_goals decide +kernel
  have hnul : scan .reject s = .ok ⟨[], .error ⟨.unrecognized '\x00', 6, ⟨1, 6⟩⟩⟩ := by
    decide +kernel
  obtain ⟨hscans, -, -⟩ := alike_sources_scan_alike .reject
  obtain ⟨report, report', hscan, hscan', hagree⟩ := hscans s s' halike
  obtain rfl := Except.ok.inj (hnul.symm.trans hscan)
  refine ⟨halike, hnul, report', hscan', ?_⟩
  generalize report'.outcome = outcome at hagree
  cases hagree with
  | error hcorresponds =>
    cases hcorresponds with
    | character _ hfound' => rw [Option.some.inj (hfound'.symm.trans hfound)]

end ScriptTokenizer
