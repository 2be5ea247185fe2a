/-
  ScriptTokenizer/Proofs/OperandGrammar.lean
  ==========================================
  **Which arguments are operands.**

  Arguments are parsed one after the other, but no argument bears on how
  another one is understood: the paths are those that are left without the
  flags, the flag counts as given wherever it stands, and what is no operand is
  none in any company.  So parsing is a search for an unknown option, and what
  it answers without one can be said at once (`Operands.parse_eq_find?`).

  A command goes to work exactly if parsing succeeds and leaves it a path.  Then
  it reads all of them and scans what can be read (`exists_run_outcomes`);
  otherwise it reads nothing and fails.  So whether it scans anything is not for
  the arguments alone to say: there must be something to read (`scans_iff`).
-/
import ScriptTokenizer.Proofs.SeparateRuns

namespace ScriptTokenizer.CommandLine

/-! ### Arguments -/

/-- An argument that is written as an option and is none that there is. -/
def IsUnknown (arg : String) : Prop :=
  arg.toList.head? = some '-' ∧ arg ≠ standardInputName ∧ arg ≠ "--strict"

instance : DecidablePred IsUnknown := fun _ => inferInstanceAs (Decidable (_ ∧ _ ∧ _))

section Arguments

variable {operands : Operands} {arg : String} {args args' : List String}

theorem not_isUnknown_iff : ¬ IsUnknown arg ↔ arg = "--strict" ∨ IsPath arg := by
  unfold IsUnknown IsPath
  tauto

theorem Operands.add_unknown (h : IsUnknown arg) : operands.add arg = .error ⟨arg⟩ := by
  obtain ⟨hdash, hinput, hflag⟩ := h
  rw [Operands.add, if_neg hflag, if_neg hinput, if_pos hdash]

/-- **Parsing looks for an unknown option.**  Without one, the operands are the paths and the
    flag. -/
theorem Operands.parse_eq_find? (args : List String) :
    Operands.parse args =
      match args.find? fun arg => IsUnknown arg with
      | some arg => .error ⟨arg⟩
      | none => .ok ⟨if "--strict" ∈ args then .reject else .skip, pathsOf args⟩ := by
  rcases hfind : args.find? fun arg => IsUnknown arg with _ | arg
  · apply Operands.parse_eq
    intro arg harg
    have hknown := List.find?_eq_none.mp hfind arg harg
    exact not_isUnknown_iff.mp (by simpa using hknown)
  · obtain ⟨hunknown, before, after, rfl, hbefore⟩ := List.find?_eq_some_iff_append.mp hfind
    have hknown : ∀ arg ∈ before, arg = "--strict" ∨ IsPath arg := by
      intro arg harg
      exact not_isUnknown_iff.mp (by simpa using hbefore arg harg)
    rw [Operands.parse, List.foldlM_append, Operands.foldlM_add hknown]
    simp only [bind, Except.bind, List.foldlM_cons,
      Operands.add_unknown (of_decide_eq_true hunknown)]

theorem Operands.parse_eq_ok_iff :
    Operands.parse args = .ok operands ↔
      (∀ arg ∈ args, ¬ IsUnknown arg) ∧
        operands = ⟨if "--strict" ∈ args then .reject else .skip, pathsOf args⟩ := by
  rw [Operands.parse_eq_find?]
  rcases hfind : args.find? fun arg => IsUnknown arg with _ | arg
  · have hknown : ∀ arg ∈ args, ¬ IsUnknown arg := by
      simpa using List.find?_eq_none.mp hfind
    constructor
    · intro h
      exact ⟨hknown, (Except.ok.inj h).symm⟩
    · rintro ⟨-, rfl⟩
      rfl
  · obtain ⟨hunknown, -⟩ := List.find?_eq_some_iff_append.mp hfind
    simp only [reduceCtorEq, false_iff, not_and]
    intro hknown
    exact absurd (of_decide_eq_true hunknown) (hknown arg (List.mem_of_find?_eq_some hfind))

theorem Operands.parse_eq_error_iff {e : UnknownOption} :
    Operands.parse args = .error e ↔
      ∃ before after, args = before ++ e.option :: after ∧ (∀ arg ∈ before, ¬ IsUnknown arg) ∧
        IsUnknown e.option := by
  have hfirst : Operands.parse args = .error e ↔
      (args.find? fun arg => IsUnknown arg) = some e.option := by
    rw [Operands.parse_eq_find?]
    rcases args.find? fun arg => IsUnknown arg with _ | arg
    · simp
    · cases e
      simp
  rw [hfirst, List.find?_eq_some_iff_append]
  constructor
  · rintro ⟨hunknown, before, after, hargs, hbefore⟩
    exact ⟨before, after, hargs, by simpa using hbefore, of_decide_eq_true hunknown⟩
  · rintro ⟨before, after, hargs, hbefore, hunknown⟩
    exact ⟨decide_eq_true hunknown, before, after, hargs, by simpa using hbefore⟩

/-- Flags are no unknown options, so the paths have the same first one. -/
theorem find?_pathsOf (args : List String) :
    ((pathsOf args).find? fun arg => IsUnknown arg) = args.find? fun arg => IsUnknown arg := by
  rw [pathsOf, List.find?_filter]
  congr 1
  funext arg
  by_cases hflag : arg = "--strict"
  · simp [hflag, IsUnknown]
  · simp [hflag]

theorem Operands.parse_congr (hpaths : pathsOf args' = pathsOf args)
    (hflag : "--strict" ∈ args' ↔ "--strict" ∈ args) :
    Operands.parse args' = Operands.parse args := by
  rw [Operands.parse_eq_find?, Operands.parse_eq_find?, ← find?_pathsOf args', hpaths,
    find?_pathsOf]
  simp only [hflag]

theorem pathsOf_ne_nil_iff : pathsOf args ≠ [] ↔ ∃ arg ∈ args, arg ≠ "--strict" := by
  simp [pathsOf]

theorem Operands.paths_ne_nil_iff (hparse : Operands.parse args = .ok operands) :
    operands.paths ≠ [] ↔ ∃ arg ∈ args, arg ≠ "--strict" := by
  obtain ⟨-, rfl⟩ := Operands.parse_eq_ok_iff.mp hparse
  exact pathsOf_ne_nil_iff

/-- Parsing succeeds on paths and flags. -/
theorem Operands.exists_parse_iff : (∃ operands, Operands.parse args = .ok operands) ↔
    ∀ arg ∈ args, arg.toList.head? = some '-' → arg = standardInputName ∨ arg = "--strict" := by
  simp only [Operands.parse_eq_ok_iff, exists_and_left, exists_eq, and_true, IsUnknown]
  refine forall₂_congr fun arg _ => ?_
  tauto

/-- Parsing fails with a message on the first argument that is no operand. -/
theorem Operands.exists_message_iff {message : String} :
    (∃ e, Operands.parse args = .error e ∧ e.message = message) ↔
      ∃ before arg after, args = before ++ arg :: after ∧ (∀ a ∈ before, ¬ IsUnknown a) ∧
        IsUnknown arg ∧ message = "unknown option '" ++ arg ++ "'" := by
  constructor
  · rintro ⟨e, hparse, rfl⟩
    obtain ⟨before, after, hargs, hbefore, hunknown⟩ := Operands.parse_eq_error_iff.mp hparse
    exact ⟨before, e.option, after, hargs, hbefore, hunknown, rfl⟩
  · rintro ⟨before, arg, after, hargs, hbefore, hunknown, rfl⟩
    exact ⟨⟨arg⟩, Operands.parse_eq_error_iff.mpr ⟨before, after, hargs, hbefore, hunknown⟩, rfl⟩

end Arguments

/-! ### Scans -/

/-- A run of a command scans something: an outcome of its operands is that of a scan. -/
def Scans (command : Command) (args : List String) (surroundings : Surroundings) : Prop :=
  ∃ operands outcomes, command.operands args = .ok operands ∧
    handleOperands command operands.policy surroundings operands.paths = .ok outcomes ∧
    ∃ operand, ∃ outcome ∈ outcomes, Outcome.ComesOf command operands.policy (.ok operand) outcome

section Work

variable {command : Command} {policy : Policy} {operands : Operands} {args : List String}
  {surroundings : Surroundings}

/-- The outcome of a scan comes of nothing that could not be read. -/
theorem Outcome.ComesOf.ne_error {answer : Except String NamedText} {operand : NamedText}
    {outcome : Outcome} (h : Outcome.ComesOf command policy (.ok operand) outcome)
    (h' : Outcome.ComesOf command policy answer outcome) : ∃ operand', answer = .ok operand' := by
  cases h' with
  | unreadable => cases h
  | @scanned operand' => exact ⟨operand', rfl⟩
  | @failed operand' => exact ⟨operand', rfl⟩

/-- **A command scans what it can read**, and nothing else. -/
theorem scans_iff : Scans command args surroundings ↔
    ∃ operands, Operands.parse args = .ok operands ∧
      ∃ operand, .ok operand ∈ readOperands surroundings operands.paths := by
  constructor
  · rintro ⟨operands, outcomes, hoperands, hhandle, operand, outcome, hmem, hcomes⟩
    obtain ⟨outcomes', hhandle', hall⟩ :=
      exists_handleOperands command operands.policy surroundings operands.paths
    obtain rfl := Except.ok.inj (hhandle.symm.trans hhandle')
    obtain ⟨answer, hanswer, hcomes'⟩ := exists_left_of_mem hall hmem
    obtain ⟨operand', rfl⟩ := hcomes.ne_error hcomes'
    exact ⟨operands, (Command.operands_eq_ok_iff.mp hoperands).1, operand', hanswer⟩
  · rintro ⟨operands, hparse, operand, hread⟩
    have hsome : operands.paths ≠ [] := by
      intro hnil
      rw [hnil] at hread
      cases hread
    obtain ⟨outcomes, hhandle, hall⟩ :=
      exists_handleOperands command operands.policy surroundings operands.paths
    obtain ⟨outcome, hmem, hcomes⟩ := exists_right_of_mem hall hread
    exact ⟨operands, outcomes, Command.operands_eq_ok_iff.mpr ⟨hparse, hsome⟩, hhandle, operand,
      outcome, hmem, hcomes⟩

/-- **With operands** a command handles all of them. -/
theorem exists_run_outcomes (hparse : Operands.parse args = .ok operands)
    (hsome : operands.paths ≠ []) (command : Command) (surroundings : Surroundings) :
    ∃ outcomes, outcomes ≠ [] ∧
      List.Forall₂ (Outcome.ComesOf command operands.policy)
        (readOperands surroundings operands.paths) outcomes ∧
      handleOperands command operands.policy surroundings operands.paths = .ok outcomes ∧
      run (command.name :: args) surroundings = .ok (collect surroundings.filter outcomes) := by
  obtain ⟨outcomes, hhandle, hall⟩ :=
    exists_handleOperands command operands.policy surroundings operands.paths
  refine ⟨outcomes, ?_, hall, hhandle, run_eq_collect hparse hsome hhandle⟩
  rintro rfl
  have hlength := hall.length_eq
  rw [readOperands, List.length_mapIdx] at hlength
  exact hsome (List.eq_nil_of_length_eq_zero hlength)

/-- Without operands a command fails and prints nothing to the standard output, whatever there
    would be to read. -/
theorem exists_run_fails (command : Command)
    (h : ¬ ∃ operands, Operands.parse args = .ok operands ∧ operands.paths ≠ []) :
    ∃ exit, exit.code = 1 ∧ exit.stdout = "" ∧
      ∀ surroundings, run (command.name :: args) surroundings = .ok exit := by
  simp only [run_command, runCommand, Command.operands]
  rcases hparse : Operands.parse args with e | operands
  · exact ⟨_, rfl, rfl, fun _ => rfl⟩
  · have hnil : operands.paths = [] := by
      by_contra hsome
      exact h ⟨operands, hparse, hsome⟩
    simp only [hnil, List.isEmpty_nil, if_pos]
    exact ⟨_, rfl, rfl, fun _ => rfl⟩

/-- Where nothing can be read, every outcome is a failure, and nothing is printed of any. -/
theorem collect_of_unreadable {answers : List (Except String NamedText)} {outcomes : List Outcome}
    (filter : Option Filter) (hsome : outcomes ≠ [])
    (hall : List.Forall₂ (Outcome.ComesOf command policy) answers outcomes)
    (hnone : ∀ operand, .ok operand ∉ answers) :
    (collect filter outcomes).code = 1 ∧ (collect filter outcomes).stdout = "" := by
  have hunreadable : ∀ outcome ∈ outcomes, outcome.isFailure = true ∧ outcome.stdout = "" := by
    intro outcome hmem
    obtain ⟨answer, hanswer, hcomes⟩ := exists_left_of_mem hall hmem
    cases hcomes with
    | unreadable => exact ⟨rfl, rfl⟩
    | @scanned operand => exact absurd hanswer (hnone operand)
    | @failed operand => exact absurd hanswer (hnone operand)
  constructor
  · obtain ⟨outcome, hmem⟩ := List.exists_mem_of_ne_nil outcomes hsome
    have hany : outcomes.any Outcome.isFailure = true :=
      List.any_eq_true.mpr ⟨outcome, hmem, (hunreadable outcome hmem).1⟩
    simp only [collect, hany, if_pos]
  · have hempty : outcomes.map Outcome.stdout = outcomes.map fun _ => "" :=
      List.map_congr_left fun outcome hmem => (hunreadable outcome hmem).2
    show String.join (outcomes.map Outcome.stdout) = ""
    rw [hempty, ← String.toList_inj, String.toList_join]
    simp

/-- A run that scans nothing fails and prints nothing to the standard output. -/
theorem exists_run_of_not_scans (h : ¬ Scans command args surroundings) :
    ∃ exit, run (command.name :: args) surroundings = .ok exit ∧ exit.code = 1 ∧
      exit.stdout = "" := by
  by_cases hworks : ∃ operands, Operands.parse args = .ok operands ∧ operands.paths ≠ []
  · obtain ⟨operands, hparse, hsome⟩ := hworks
    obtain ⟨outcomes, hne, hall, -, hrun⟩ := exists_run_outcomes hparse hsome command surroundings
    refine ⟨_, hrun, collect_of_unreadable surroundings.filter hne hall ?_⟩
    intro operand hread
    exact h (scans_iff.mpr ⟨operands, hparse, operand, hread⟩)
  · obtain ⟨exit, hcode, hstdout, hrun⟩ := exists_run_fails command hworks
    exact ⟨exit, hrun surroundings, hcode, hstdout⟩

end Work

/-- **Operands are paths and flags.**  Parsing succeeds exactly if no argument is written as an
    option other than the flag; then the paths are the arguments without the flags, in their
    order, and the policy tells whether there is a flag at all, wherever it stands.  Otherwise
    the message names the first argument that is no operand.

    So a command scans something exactly if parsing succeeds and something can be read of what
    the arguments name besides the flag.  Then it handles every one of them, and what it writes
    is what comes of them.  If it scans nothing, it fails and prints nothing to the standard
    output; and if parsing fails or leaves no path, it does so whatever there would be to
    read. -/
theorem operands_are_paths_and_flags :
    (∀ args,
      ((∃ operands, Operands.parse args = .ok operands) ↔
        ∀ arg ∈ args, arg.toList.head? = some '-' → arg = "-" ∨ arg = "--strict") ∧
      (∀ operands, Operands.parse args = .ok operands →
        operands.paths = args.filter (fun arg => arg ≠ "--strict") ∧
          (operands.policy = .reject ↔ "--strict" ∈ args)) ∧
      (∀ args', pathsOf args' = pathsOf args → ("--strict" ∈ args' ↔ "--strict" ∈ args) →
        Operands.parse args' = Operands.parse args) ∧
      ∀ message, (∃ e, Operands.parse args = .error e ∧ e.message = message) ↔
        ∃ before arg after, args = before ++ arg :: after ∧
          (∀ a ∈ before, ¬ IsUnknown a) ∧ IsUnknown arg ∧
          message = "unknown option '" ++ arg ++ "'") ∧
    ∀ (command : Command) args surroundings,
      (Scans command args surroundings ↔
        ∃ operands, Operands.parse args = .ok operands ∧
          ∃ operand, .ok operand ∈ readOperands surroundings operands.paths) ∧
      (∀ operands, Operands.parse args = .ok operands → (∃ arg ∈ args, arg ≠ "--strict") →
        ∃ outcomes exit, outcomes ≠ [] ∧
          List.Forall₂ (Outcome.ComesOf command operands.policy)
            (readOperands surroundings operands.paths) outcomes ∧
          handleOperands command operands.policy surroundings operands.paths = .ok outcomes ∧
          run (command.name :: args) surroundings = .ok exit ∧
          exit.stdout = String.join (outcomes.map Outcome.stdout) ∧
          (surroundings.filter = none →
            exit.stderr = String.join (outcomes.map Outcome.stderr)) ∧
          (exit.code = 0 ↔ ∀ outcome ∈ outcomes, outcome.isFailure = false)) ∧
      (¬ Scans command args surroundings →
        ∃ exit, run (command.name :: args) surroundings = .ok exit ∧ exit.code = 1 ∧
          exit.stdout = "") ∧
      (¬ ((∃ operands, Operands.parse args = .ok operands) ∧ ∃ arg ∈ args, arg ≠ "--strict") →
        ∃ exit, exit.code = 1 ∧ exit.stdout = "" ∧
          ∀ surroundings, run (command.name :: args) surroundings = .ok exit) := by
  refine ⟨fun args => ⟨Operands.exists_parse_iff, ?_, ?_, fun _ => Operands.exists_message_iff⟩,
    fun command args surroundings => ⟨scans_iff, ?_, exists_run_of_not_scans, ?_⟩⟩
  · intro operands hparse
    obtain ⟨-, rfl⟩ := Operands.parse_eq_ok_iff.mp hparse
    refine ⟨rfl, ?_⟩
    by_cases hflag : "--strict" ∈ args <;> simp [hflag]
  · intro args' hpaths hflag
    exact Operands.parse_congr hpaths hflag
  · intro operands hparse hsome
    obtain ⟨outcomes, hne, hall, hhandle, hrun⟩ := exists_run_outcomes hparse
      ((Operands.paths_ne_nil_iff hparse).mpr hsome) command surroundings
    refine ⟨outcomes, _, hne, hall, hhandle, hrun, rfl, ?_, ?_⟩
    · intro htrace
      simp only [collect, htrace, String.empty_append]
    · simp [collect]
  · intro hnothing
    apply exists_run_fails
    rintro ⟨operands, hparse, hsome⟩
    exact hnothing ⟨⟨operands, hparse⟩, (Operands.paths_ne_nil_iff hparse).mp hsome⟩

/-- A file that is not there is no reason to stop before the next one is scanned. -/
theorem scans_behind_missing_file :
    let args := ["missing.lua", "--strict", "-"]
    let surroundings : Surroundings :=
      { fileAt := fun _ => .error .notFound
        standardInput := .stream [.piece "x=1".toUTF8]
        filter := none }
    Operands.parse args = .ok ⟨.reject, ["missing.lua", "-"]⟩ ∧
      (∃ arg ∈ args, arg ≠ "--strict") ∧ Scans .check args surroundings ∧
      ∃ exit, run ("check" :: args) surroundings = .ok exit ∧ exit.code ≠ 0 ∧
        exit.stdout = "'<stdin>': ok (3 tokens)\n" := by
  intro args surroundings
  have hparse : Operands.parse args = .ok ⟨.reject, ["missing.lua", "-"]⟩ := by decide
  have hsome : ∃ arg ∈ args, arg ≠ "--strict" := by decide
  obtain ⟨hscans, hworks, -, -⟩ := operands_are_paths_and_flags.2 .check args surroundings
  have hread : .ok ⟨"<stdin>", "x=1"⟩ ∈ readOperands surroundings ["missing.lua", "-"] := by
    decide +kernel
  obtain ⟨outcomes, exit, -, -, hhandle, hrun, hstdout, -, hcode⟩ := hworks _ hparse hsome
  have houtcomes : handleOperands .check .reject surroundings ["missing.lua", "-"] =
      .ok [.unreadable "cannot find file 'missing.lua'",
        .scanned "'<stdin>': ok (3 tokens)\n" [scanRecord 3 (.complete 3)]] := by
    decide +kernel
  obtain rfl := Except.ok.inj (houtcomes.symm.trans hhandle)
  refine ⟨hparse, hsome, hscans.mpr ⟨_, hparse, _, hread⟩, exit, hrun, ?_, ?_⟩
  · intro hzero
    exact absurd (hcode.mp hzero _ (List.mem_cons_self ..)) (by decide)
  · rw [hstdout]
    decide +kernel

/-- A command whose only file is not there scans nothing, and no scan is in its trace. -/
theorem missing_file_is_not_scanned :
    let args := ["missing.lua"]
    let surroundings : Surroundings :=
      { fileAt := fun _ => .error .notFound
        standardInput := .stream []
        filter := some [⟨"luja_lexer", .debug⟩] }
    (∃ operands, Operands.parse args = .ok operands) ∧ (∃ arg ∈ args, arg ≠ "--strict") ∧
      ¬ Scans .lex args surroundings ∧
      run ("lex" :: args) surroundings = .ok ⟨1, "", "cannot find file 'missing.lua'\n"⟩ := by
  intro args surroundings
  have hparse : Operands.parse args = .ok ⟨.skip, args⟩ := by decide
  refine ⟨⟨_, hparse⟩, by decide, ?_, by decide +kernel⟩
  intro hscans
  obtain ⟨operands, hparse', operand, hread⟩ := scans_iff.mp hscans
  obtain rfl := Except.ok.inj (hparse.symm.trans hparse')
  have hunreadable : readOperands surroundings args =
      [.error "cannot find file 'missing.lua'"] := by
    decide +kernel
  rw [hunreadable] at hread
  cases List.mem_singleton.mp hread

example : Operands.parse ["", "b", "--strict", "-", "b"] = .ok ⟨.reject, ["", "b", "-", "b"]⟩ := by
  decide

end ScriptTokenizer.CommandLine
