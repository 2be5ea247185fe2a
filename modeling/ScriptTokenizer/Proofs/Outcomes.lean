/-
  ScriptTokenizer/Proofs/Outcomes.lean
  ====================================
  **What a scan ends with, said of the text alone.**

  A scan runs along a text, but its outcome can be read off the lexemes of the
  text at once.  It is the table of the lexemes that are not dropped, if none is
  fatal (`scan_accepts_iff`), and otherwise the error of the first fatal one
  (`scan_rejects_iff`).  Two scans can therefore be compared by comparing two
  lists of lexemes, without following either scan step by step.

  The same holds of a text that is tokenized, which is a source made of the text
  and a scan of it (`tokenize_eq_ok_iff`, `tokenize_eq_error_iff`).
-/
import ScriptTokenizer.Proofs.ScanRuns

namespace ScriptTokenizer

open Grammar (placed extent)

variable {policy : Policy} {s : Source} {before after : List Lexeme} {l : Lexeme} {e : ScanError}

/-! ### Rejected sources -/

/-- The error is that of a fatal lexeme with none before it. -/
structure FirstFatal (policy : Policy) (s : Source) (before : List Lexeme) (l : Lexeme)
    (after : List Lexeme) (e : ScanError) : Prop where
  split : Grammar.lexemes s.toList = before ++ l :: after
  clean : ∀ m ∈ before, policy.isFatal m.tag = false
  fatal : policy.isFatal l.tag = true
  start : e.start = extent before
  location : s.lineColumn e.start = .ok e.location
  cause : Cause.Explains s e.start l.tag e.cause

theorem Cause.Explains.unique {start : Nat} {tag : Tag} {c d : Cause}
    (hc : Cause.Explains s start tag c) (hd : Cause.Explains s start tag d) : c = d := by
  cases hc with
  | string => cases hd; rfl
  | blockComment => cases hd; rfl
  | character hfound =>
    cases hd with
    | character hfound' =>
      rw [hfound] at hfound'
      rw [Option.some.inj hfound']

/-- What explains an error explains it wherever the same character stands. -/
theorem Cause.Explains.of_charAt?_eq {t : Source} {start start' : Nat} {tag : Tag} {cause : Cause}
    (hchar : t.charAt? start' = s.charAt? start) (h : Cause.Explains s start tag cause) :
    Cause.Explains t start' tag cause := by
  cases h with
  | string => exact .string
  | blockComment => exact .blockComment
  | character hfound => exact .character (hchar.trans hfound)

theorem FirstFatal.mem (h : FirstFatal policy s before l after e) :
    l ∈ Grammar.lexemes s.toList := by
  rw [h.split]
  exact List.mem_append_right before (List.mem_cons_self ..)

/-- An error begins at a character of the text. -/
theorem FirstFatal.start_lt_size (h : FirstFatal policy s before l after e) :
    e.start < s.size := by
  rw [h.start]
  exact (Cursor.next_of_split h.split).2

/-- A scan with an error has reported the lexemes before the fatal one. -/
theorem FirstFatal.scan_eq (h : FirstFatal policy s before l after e) :
    scan policy s = .ok ⟨eventsOf s (placed 0 before), .error e⟩ := by
  obtain ⟨cause, place, hplace, hcause, herror⟩ := scan_of_fatal h.split h.clean h.fatal
  rw [herror, ← h.start]
  rw [← h.start] at hplace hcause
  have hlocation : place = e.location := Except.ok.inj (hplace.symm.trans h.location)
  rw [hlocation, hcause.unique h.cause]

theorem FirstFatal.outcome (h : FirstFatal policy s before l after e) {report : Report}
    (hscan : scan policy s = .ok report) : report.outcome = .error e := by
  rw [← Except.ok.inj (h.scan_eq.symm.trans hscan)]

/-- A scan rejects a source exactly if it has a fatal lexeme, and then with the error of
    the first one. -/
theorem scan_rejects_iff {report : Report} (hscan : scan policy s = .ok report) :
    report.outcome = .error e ↔ ∃ before l after, FirstFatal policy s before l after e := by
  constructor
  · intro h
    rcases policy.clean_or_first_fatal (Grammar.lexemes s.toList) with
      hclean | ⟨before, l, after, hsplit, hclean, hfatal⟩
    · have haccepts := (scan_accepts_iff hscan).mpr ⟨hclean, rfl⟩
      rw [h] at haccepts
      cases haccepts
    · obtain ⟨cause, place, hplace, hcause, herror⟩ := scan_of_fatal hsplit hclean hfatal
      obtain rfl := Except.ok.inj (hscan.symm.trans herror)
      obtain rfl := Except.error.inj h
      exact ⟨before, l, after, hsplit, hclean, hfatal, rfl, hplace, hcause⟩
  · rintro ⟨before, l, after, h⟩
    exact h.outcome hscan

/-! ### Texts -/

theorem Source.toList_ofString {text : String} (h : text.length ≤ maxOffset) :
    (Source.ofString text).toList = text.toList :=
  Source.toList_ofChars (by rwa [String.length_toList])

theorem Source.size_ofString {text : String} (h : text.length ≤ maxOffset) :
    (Source.ofString text).size = text.length := by
  rw [← Source.length_toList, Source.toList_ofString h, String.length_toList]

theorem tokenize_of_scan {text : String} {report : Report}
    (h : scan policy (Source.ofString text) = .ok report) :
    tokenize policy text = .ok (report.outcome.map (Tokenized.mk (Source.ofString text))) := by
  simp only [tokenize, h]
  rfl

theorem tokenize_total (policy : Policy) (text : String) :
    ∃ outcome, tokenize policy text = .ok outcome := by
  obtain ⟨report, hscan⟩ := scan_total policy (Source.ofString text)
  exact ⟨_, tokenize_of_scan hscan⟩

theorem tokenize_eq_ok_iff {text : String} {t : Tokenized} :
    tokenize policy text = .ok (.ok t) ↔
      (∀ l ∈ Grammar.lexemes (Source.ofString text).toList, policy.isFatal l.tag = false) ∧
        t = ⟨Source.ofString text,
          Table.ofLexemes (placed 0 (Grammar.lexemes (Source.ofString text).toList))⟩ := by
  obtain ⟨report, hscan⟩ := scan_total policy (Source.ofString text)
  rw [tokenize_of_scan hscan, Except.ok.injEq]
  constructor
  · intro h
    rcases houtcome : report.outcome with e | table
    · rw [houtcome] at h
      cases h
    · obtain ⟨hclean, rfl⟩ := (scan_accepts_iff hscan).mp houtcome
      rw [houtcome] at h
      exact ⟨hclean, (Except.ok.inj h).symm⟩
  · rintro ⟨hclean, rfl⟩
    rw [(scan_accepts_iff hscan).mpr ⟨hclean, rfl⟩]
    rfl

theorem tokenize_eq_error_iff {text : String} :
    tokenize policy text = .ok (.error e) ↔
      ∃ before l after, FirstFatal policy (Source.ofString text) before l after e := by
  obtain ⟨report, hscan⟩ := scan_total policy (Source.ofString text)
  rw [← scan_rejects_iff hscan, tokenize_of_scan hscan, Except.ok.injEq]
  rcases report.outcome with e' | table
  · simp [Except.map]
  · simp [Except.map]

end ScriptTokenizer
