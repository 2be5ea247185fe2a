/-
  ScriptTokenizer/Proofs/SeparateRuns.lean
  ========================================
  **A run on many operands is the runs on each of them.**

  Each operand is read and scanned by itself, and what it adds to the outputs
  stands behind what those before it add.  The one thing that operands share is
  the standard input.  So if at most one of them reads it, each has the outcome
  that it has alone (`exists_handleOperands_alone`), whatever the order in which
  they come to it.

  A path alone takes its flags along: the flags of a run are all that one path
  can notice of its other arguments (`Operands.parse_alone`).
-/
import ScriptTokenizer.Proofs.Arrivals
import ScriptTokenizer.Proofs.OperandOutcomes

namespace ScriptTokenizer.CommandLine

/-! ### Arguments -/

/-- An argument that names something to read. -/
def IsPath (arg : String) : Prop := arg = standardInputName ∨ arg.toList.head? ≠ some '-'

instance : DecidablePred IsPath := fun _ => inferInstanceAs (Decidable (_ ∨ _))

def flagsOf (args : List String) : List String := args.filter fun arg => arg = "--strict"

def pathsOf (args : List String) : List String := args.filter fun arg => arg ≠ "--strict"

section Arguments

variable {operands : Operands} {arg path : String} {args : List String}

theorem IsPath.ne_flag (h : IsPath arg) : arg ≠ "--strict" := by
  rintro rfl
  rcases h with h | h
  · exact absurd h (by decide)
  · exact h rfl

theorem Operands.add_flag : operands.add "--strict" = .ok ⟨.reject, operands.paths⟩ := rfl

theorem Operands.add_path (h : IsPath arg) :
    operands.add arg = .ok ⟨operands.policy, operands.paths ++ [arg]⟩ := by
  unfold Operands.add
  rw [if_neg h.ne_flag]
  by_cases hinput : arg = standardInputName
  · rw [if_pos hinput]
  · rw [if_neg hinput, if_neg (h.resolve_left hinput)]

theorem Operands.foldlM_add (h : ∀ arg ∈ args, arg = "--strict" ∨ IsPath arg) :
    args.foldlM Operands.add operands =
      .ok ⟨if "--strict" ∈ args then .reject else operands.policy,
        operands.paths ++ pathsOf args⟩ := by
  induction args generalizing operands with
  | nil => simp [pathsOf, pure, Except.pure]
  | cons arg args ih =>
    obtain ⟨hfirst, hrest⟩ := List.forall_mem_cons.mp h
    rw [List.foldlM_cons]
    rcases hfirst with rfl | hpath
    · rw [Operands.add_flag]
      simp only [bind, Except.bind]
      rw [ih hrest]
      simp [pathsOf]
    · rw [Operands.add_path hpath]
      simp only [bind, Except.bind]
      rw [ih hrest]
      simp [pathsOf, hpath.ne_flag, hpath.ne_flag.symm]

/-- The operands are the paths in their order, wherever the flag stands between them. -/
theorem Operands.parse_eq (h : ∀ arg ∈ args, arg = "--strict" ∨ IsPath arg) :
    Operands.parse args =
      .ok ⟨if "--strict" ∈ args then .reject else .skip, pathsOf args⟩ := by
  rw [Operands.parse, Operands.foldlM_add h]
  rfl

/-- One of the paths with all of the flags is parsed as that path alone. -/
theorem Operands.parse_alone (h : ∀ arg ∈ args, arg = "--strict" ∨ IsPath arg)
    (hpath : path ∈ pathsOf args) :
    Operands.parse (flagsOf args ++ [path]) =
      .ok ⟨if "--strict" ∈ args then .reject else .skip, [path]⟩ := by
  obtain ⟨hmem, hne⟩ := List.mem_filter.mp hpath
  have hne' : path ≠ "--strict" := of_decide_eq_true hne
  have hargs : ∀ arg ∈ flagsOf args ++ [path], arg = "--strict" ∨ IsPath arg := by
    intro arg harg
    rcases List.mem_append.mp harg with hflag | hlast
    · exact Or.inl (of_decide_eq_true (List.mem_filter.mp hflag).2)
    · obtain rfl := List.mem_singleton.mp hlast
      exact h arg hmem
  have hpaths : pathsOf (flagsOf args ++ [path]) = [path] := by
    simp [pathsOf, flagsOf, hne']
  have hflag : "--strict" ∈ flagsOf args ++ [path] ↔ "--strict" ∈ args := by
    simp [flagsOf, hne'.symm]
  rw [Operands.parse_eq hargs, hpaths]
  simp only [hflag]

end Arguments

/-! ### Operands alone -/

section Alone

variable {paths : List String}

/-- What is read of an operand that is alone. -/
theorem readOperands_singleton (surroundings : Surroundings) (path : String) :
    readOperands surroundings [path] = [readOperand surroundings 0 path] :=
  readOperands_eq_map (Nat.le_trans List.count_le_length (Nat.le_refl 1))

/-- **Operands side by side** have the outcomes that each has alone. -/
theorem exists_handleOperands_alone (command : Command) (policy : Policy)
    (surroundings : Surroundings) (honce : paths.count standardInputName ≤ 1) :
    ∃ outcomes, handleOperands command policy surroundings paths = .ok outcomes ∧
      List.Forall₂
        (fun path outcome => handleOperands command policy surroundings [path] = .ok [outcome])
        paths outcomes := by
  have halone : ∀ answer ∈ paths.map (readOperand surroundings 0), ∃ outcome,
      handleOperand command policy answer = .ok outcome ∧
        handleOperand command policy answer = .ok outcome := by
    intro answer _
    obtain ⟨outcome, -, hhandle⟩ := exists_handleOperand command policy answer
    exact ⟨outcome, hhandle, hhandle⟩
  obtain ⟨outcomes, hall, heach⟩ := exists_mapM_eq_ok halone
  refine ⟨outcomes, ?_, (List.forall₂_map_left_iff.mp heach).imp ?_⟩
  · rw [handleOperands, readOperands_eq_map honce, hall]
  · intro path outcome hhandle
    rw [handleOperands, readOperands_singleton, List.mapM_cons, hhandle]
    rfl

end Alone

/-! ### Whole runs -/

section Runs

variable {args : List String} {surroundings : Surroundings}

/-- Without a trace, what outcomes add to the outputs stands one behind the other. -/
theorem collect_none (outcomes : List Outcome) :
    (collect none outcomes).stdout =
        String.join ((outcomes.map fun outcome => collect none [outcome]).map Exit.stdout) ∧
      (collect none outcomes).stderr =
        String.join ((outcomes.map fun outcome => collect none [outcome]).map Exit.stderr) ∧
      (collect none outcomes).code =
        if ∀ exit ∈ outcomes.map fun outcome => collect none [outcome], exit.code = 0
        then 0 else 1 := by
  refine ⟨?_, ?_, ?_⟩
  · simp [collect, Function.comp_def]
  · simp [collect, Function.comp_def]
  · have hfailure : (∀ exit ∈ outcomes.map fun outcome => collect none [outcome], exit.code = 0) ↔
        outcomes.any Outcome.isFailure = false := by
      simp [collect]
    simp only [hfailure]
    cases hany : outcomes.any Outcome.isFailure <;> simp [collect, hany]

/-- **A run on many operands is the runs on each of them.**  The arguments are flags and paths
    in any order, and at most one path is that of the standard input.  Then every path has a
    run of its own with the same flags, and the run on all of them writes what these write,
    in the order of the operands, and fails exactly if one of them does. -/
theorem run_on_each_operand (command : Command)
    (hargs : ∀ arg ∈ args, arg = "--strict" ∨ IsPath arg) (hsome : pathsOf args ≠ [])
    (honce : (pathsOf args).count standardInputName ≤ 1) (htrace : surroundings.filter = none) :
    ∃ exits exit,
      List.Forall₂
        (fun path exit => run (command.name :: (flagsOf args ++ [path])) surroundings = .ok exit)
        (pathsOf args) exits ∧
      run (command.name :: args) surroundings = .ok exit ∧
      exit.stdout = String.join (exits.map Exit.stdout) ∧
      exit.stderr = String.join (exits.map Exit.stderr) ∧
      exit.code = if ∀ exit ∈ exits, exit.code = 0 then 0 else 1 := by
  obtain ⟨outcomes, hhandle, halone⟩ := exists_handleOperands_alone command
    (if "--strict" ∈ args then .reject else .skip) surroundings honce
  refine ⟨outcomes.map fun outcome => collect none [outcome], collect none outcomes, ?_, ?_,
    collect_none outcomes⟩
  · have hpaths : ∀ path ∈ pathsOf args, path ∈ pathsOf args := fun _ h => h
    have halone' := (List.forall₂_and_left _ _).mpr ⟨hpaths, halone⟩
    refine List.forall₂_map_right_iff.mpr (halone'.imp ?_)
    rintro path outcome ⟨hpath, hhandle⟩
    have hparse := Operands.parse_alone hargs hpath
    have hrun := run_eq_collect hparse (List.cons_ne_nil path []) hhandle
    rwa [htrace] at hrun
  · have hrun := run_eq_collect (Operands.parse_eq hargs) hsome hhandle
    rwa [htrace] at hrun

/-- Operands that scan, one of them twice, and one that does not scan or cannot be read. -/
theorem run_on_five_operands :
    let args := ["b.lua", "--strict", "-", "a.lua", "c.lua", "a.lua"]
    let surroundings : Surroundings :=
      { fileAt := fun path =>
          if path = "a.lua" then .ok "x=1".toUTF8
          else if path = "b.lua" then .ok "x @".toUTF8
          else .error .notFound
        standardInput := .stream [.piece "y".toUTF8]
        filter := none }
    (∀ arg ∈ args, arg = "--strict" ∨ IsPath arg) ∧ pathsOf args ≠ [] ∧
      (pathsOf args).count standardInputName ≤ 1 ∧ surroundings.filter = none ∧
      ∃ exits,
        List.Forall₂ (fun path exit => run ["check", "--strict", path] surroundings = .ok exit)
          ["b.lua", "-", "a.lua", "c.lua", "a.lua"] exits ∧
        String.join (exits.map Exit.stdout) =
          "'<stdin>': ok (1 tokens)\n'a.lua': ok (3 tokens)\n'a.lua': ok (3 tokens)\n" ∧
        ¬ ∀ exit ∈ exits, exit.code = 0 := by
  intro args surroundings
  have hargs : ∀ arg ∈ args, arg = "--strict" ∨ IsPath arg := by decide
  have hsome : pathsOf args ≠ [] := by decide
  have honce : (pathsOf args).count standardInputName ≤ 1 := by decide
  have htrace : surroundings.filter = none := rfl
  obtain ⟨exits, exit, halone, hrun, hstdout, -, hcode⟩ :=
    run_on_each_operand .check hargs hsome honce htrace
  have hwrites : (run ("check" :: args) surroundings).map Exit.stdout = .ok
      "'<stdin>': ok (1 tokens)\n'a.lua': ok (3 tokens)\n'a.lua': ok (3 tokens)\n" := by
    decide +kernel
  have hfails : (run ("check" :: args) surroundings).map Exit.code = .ok 1 := by decide +kernel
  have hcheck : run ("check" :: args) surroundings = .ok exit := hrun
  rw [hcheck] at hwrites hfails
  refine ⟨hargs, hsome, honce, htrace, exits, halone, ?_, ?_⟩
  · exact hstdout.symm.trans (Except.ok.inj hwrites)
  · intro hall
    rw [if_pos hall] at hcode
    exact absurd (hcode.symm.trans (Except.ok.inj hfails)) (by decide)

end Runs

end ScriptTokenizer.CommandLine
