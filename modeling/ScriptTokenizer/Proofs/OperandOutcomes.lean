/-
  ScriptTokenizer/Proofs/OperandOutcomes.lean
  ===========================================
  **What becomes of an operand.**

  What was read is scanned, and its outcome is what the scan reports: the
  records of its events, and either the table, of which the command prints
  something, or the error (`Outcome.ComesOf`).  What could not be read is not
  scanned, and its outcome is the reason.

  Every operand has its outcome, whatever becomes of the others
  (`exists_handleOperands`): no operand ends a run early, and handling never
  faults, because the rows of a scan lie inside the text, so that its tokens can
  be printed.  What is printed of a text that scans is all that the command
  decides (`Outcome.ComesOf.quiet_eq`).
-/
import Mathlib.Data.List.Forall2
import ScriptTokenizer.CommandLine.Run
import ScriptTokenizer.Proofs.TokenRows

namespace ScriptTokenizer.CommandLine

open Grammar (placed)

/-- Where a function faults on no element of a list, it can be mapped over the list. -/
theorem exists_mapM_eq_ok {α β : Type} {f : α → Except Fault β} {R : α → β → Prop} {as : List α}
    (h : ∀ a ∈ as, ∃ b, R a b ∧ f a = .ok b) :
    ∃ bs, as.mapM f = .ok bs ∧ List.Forall₂ R as bs := by
  induction as with
  | nil => exact ⟨[], rfl, List.Forall₂.nil⟩
  | cons a as ih =>
    obtain ⟨⟨b, hb, hfirst⟩, hrest⟩ := List.forall_mem_cons.mp h
    obtain ⟨bs, hothers, hall⟩ := ih hrest
    refine ⟨b :: bs, ?_, List.Forall₂.cons hb hall⟩
    rw [List.mapM_cons, hfirst, hothers]
    rfl

theorem exists_left_of_mem {α β : Type} {R : α → β → Prop} {as : List α} {bs : List β} {b : β}
    (h : List.Forall₂ R as bs) (hb : b ∈ bs) : ∃ a ∈ as, R a b := by
  induction h with
  | nil => cases hb
  | @cons a _ as _ hfirst _ ih =>
    rcases List.mem_cons.mp hb with rfl | hb
    · exact ⟨a, List.mem_cons_self .., hfirst⟩
    · obtain ⟨a', ha, hrest⟩ := ih hb
      exact ⟨a', List.mem_cons_of_mem a ha, hrest⟩

theorem exists_right_of_mem {α β : Type} {R : α → β → Prop} {as : List α} {bs : List β} {a : α}
    (h : List.Forall₂ R as bs) (ha : a ∈ as) : ∃ b ∈ bs, R a b :=
  exists_left_of_mem h.flip ha

/-! ### Printing -/

section Printing

variable {policy : Policy} {s : Source}

/-- What was scanned can be printed. -/
theorem Command.exists_report (command : Command) (name : String)
    (hclean : ∀ l ∈ Grammar.lexemes s.toList, policy.isFatal l.tag = false) :
    ∃ text, command.report name ⟨s, Table.ofLexemes (placed 0 (Grammar.lexemes s.toList))⟩ =
      .ok text := by
  cases command with
  | lex =>
    have hline : ∀ row ∈ (Table.ofLexemes (placed 0 (Grammar.lexemes s.toList))).rows.toList,
        ∃ line, True ∧ tokenLine s row = .ok line := by
      intro row hrow
      have htext := (Source.text_eq_ok_iff ((tabulates_ofLexemes hclean).inside row hrow).2).mpr rfl
      rw [tokenLine, htext]
      exact ⟨_, trivial, rfl⟩
    obtain ⟨lines, hlines, -⟩ := exists_mapM_eq_ok hline
    rw [Command.report, tokenDump, hlines]
    exact ⟨_, rfl⟩
  | check => exact ⟨_, rfl⟩

end Printing

/-! ### Outcomes -/

namespace Outcome

/-- The records of what a scan of an operand reports. -/
def recordsOf (operand : NamedText) (report : Report) : List Record :=
  report.events.map (scanRecord (Source.ofString operand.text).size)

/-- What becomes of an operand: one that was read is scanned, any other is reported. -/
inductive ComesOf (command : Command) (policy : Policy) :
    Except String NamedText → Outcome → Prop where
  | unreadable {message : String} : ComesOf command policy (.error message) (.unreadable message)
  | scanned {operand : NamedText} {report : Report} {table : Table} {text : String} :
      scan policy (Source.ofString operand.text) = .ok report → report.outcome = .ok table →
      command.report operand.name ⟨Source.ofString operand.text, table⟩ = .ok text →
      ComesOf command policy (.ok operand) (.scanned text (recordsOf operand report))
  | failed {operand : NamedText} {report : Report} {error : ScanError} :
      scan policy (Source.ofString operand.text) = .ok report → report.outcome = .error error →
      ComesOf command policy (.ok operand) (.failed operand error (recordsOf operand report))

/-- An outcome without what is printed of the text. -/
def quiet : Outcome → Outcome
  | .scanned _ records => .scanned "" records
  | outcome => outcome

section Quiet

variable {command command' : Command} {policy : Policy} {answer : Except String NamedText}
  {outcome outcome' : Outcome}

@[simp] theorem records_quiet (outcome : Outcome) : outcome.quiet.records = outcome.records := by
  cases outcome <;> rfl

@[simp] theorem stderr_quiet (outcome : Outcome) : outcome.quiet.stderr = outcome.stderr := by
  cases outcome <;> rfl

end Quiet

end Outcome

/-! ### Handling -/

theorem exists_scanOperand (command : Command) (policy : Policy) (operand : NamedText) :
    ∃ outcome, Outcome.ComesOf command policy (.ok operand) outcome ∧
      scanOperand command policy operand = .ok outcome := by
  obtain ⟨report, hscan⟩ := scan_total policy (Source.ofString operand.text)
  rcases houtcome : report.outcome with error | table
  · refine ⟨_, .failed hscan houtcome, ?_⟩
    simp [scanOperand, hscan, houtcome, Outcome.recordsOf, bind, Except.bind, pure, Except.pure]
  · obtain ⟨hclean, rfl⟩ := (scan_accepts_iff hscan).mp houtcome
    obtain ⟨text, htext⟩ := command.exists_report operand.name hclean
    refine ⟨_, .scanned hscan houtcome htext, ?_⟩
    simp [scanOperand, hscan, houtcome, htext, Outcome.recordsOf, bind, Except.bind, pure,
      Except.pure]

/-- **One operand.**  Whatever was read has an outcome. -/
theorem exists_handleOperand (command : Command) (policy : Policy)
    (answer : Except String NamedText) :
    ∃ outcome, Outcome.ComesOf command policy answer outcome ∧
      handleOperand command policy answer = .ok outcome := by
  rcases answer with message | operand
  · exact ⟨_, .unreadable, rfl⟩
  · exact exists_scanOperand command policy operand

/-- **All operands** have the outcomes that come of what was read. -/
theorem exists_handleOperands (command : Command) (policy : Policy) (surroundings : Surroundings)
    (paths : List String) :
    ∃ outcomes, handleOperands command policy surroundings paths = .ok outcomes ∧
      List.Forall₂ (Outcome.ComesOf command policy) (readOperands surroundings paths) outcomes :=
  exists_mapM_eq_ok fun answer _ => exists_handleOperand command policy answer

/-! ### The operands of a command -/

section Runs

variable {args : List String} {operands : Operands} {surroundings : Surroundings}
  {outcomes : List Outcome}

theorem run_command (command : Command) (args : List String) (surroundings : Surroundings) :
    run (command.name :: args) surroundings = runCommand command args surroundings := by
  cases command <;> rfl

/-- A command works on operands that can be parsed and name something. -/
theorem Command.operands_eq_ok_iff {command : Command} :
    command.operands args = .ok operands ↔
      Operands.parse args = .ok operands ∧ operands.paths ≠ [] := by
  unfold Command.operands
  rcases Operands.parse args with e | parsed
  · simp
  · by_cases hpaths : parsed.paths.isEmpty = true
    · simp only [hpaths, if_pos, reduceCtorEq, Except.ok.injEq, false_iff, not_and, not_not]
      rintro rfl
      exact List.isEmpty_iff.mp hpaths
    · simp only [hpaths, Except.ok.injEq]
      constructor
      · rintro ⟨⟩
        exact ⟨rfl, fun hnil => hpaths (List.isEmpty_iff.mpr hnil)⟩
      · rintro ⟨rfl, -⟩
        rfl

/-- A run on such operands writes what has become of them. -/
theorem run_eq_collect {command : Command} (hparse : Operands.parse args = .ok operands)
    (hsome : operands.paths ≠ [])
    (hhandle : handleOperands command operands.policy surroundings operands.paths =
      .ok outcomes) :
    run (command.name :: args) surroundings = .ok (collect surroundings.filter outcomes) := by
  have hoperands : command.operands args = .ok operands :=
    Command.operands_eq_ok_iff.mpr ⟨hparse, hsome⟩
  rw [run_command]
  simp only [runCommand, hoperands, hhandle]
  rfl

end Runs

end ScriptTokenizer.CommandLine
