/-
  ScriptTokenizer/Proofs/PolicyComparison.lean
  ============================================
  **The two policies part at characters outside the grammar only.**

  Whether the characters outside the grammar are skipped or rejected makes no
  difference to how a text is read, only to which lexemes are fatal.  What is
  fatal when they are skipped is fatal when they are rejected, and the
  difference is just these characters.  So both policies come to the same table
  or to the same error unless there is one of them, and where there is one,
  rejecting ends with an error there, earlier than anything at which skipping
  ends (`policies_compare`).

  That such a character is met before, and not after, the error at which
  skipping ends is due to the errors that are left: a text that ends in the
  middle of a string or of a block comment has no lexeme behind it.
-/
import ScriptTokenizer.Proofs.Outcomes

namespace ScriptTokenizer

open Grammar (placed extent)

/-! ### What the policies find fatal -/

def Cause.IsUnterminated (cause : Cause) : Prop :=
  cause = .unterminatedString ∨ cause = .unterminatedBlockComment

def Cause.IsUnrecognized (cause : Cause) : Prop := ∃ found, cause = .unrecognized found

theorem Cause.IsUnterminated.not_isUnrecognized {cause : Cause} (h : cause.IsUnterminated) :
    ¬ cause.IsUnrecognized := by
  rintro ⟨found, rfl⟩
  rcases h with h | h <;> cases h

theorem Policy.isFatal_reject (tag : Tag) :
    Policy.reject.isFatal tag = true ↔ Policy.skip.isFatal tag = true ∨ tag = .unrecognized := by
  cases tag <;> decide

theorem Policy.not_isFatal_skip {tag : Tag} (h : Policy.reject.isFatal tag = false) :
    Policy.skip.isFatal tag = false ∧ tag ≠ .unrecognized := by
  rw [Bool.eq_false_iff, Ne, Policy.isFatal_reject, not_or] at h
  exact ⟨Bool.eq_false_iff.mpr h.1, h.2⟩

section Causes

variable {s : Source} {start : Nat} {tag : Tag} {cause : Cause}

theorem Cause.Explains.isUnterminated_iff (h : Cause.Explains s start tag cause) :
    cause.IsUnterminated ↔ Policy.skip.isFatal tag = true := by
  cases h with
  | string => simp [Cause.IsUnterminated, Policy.isFatal]
  | blockComment => simp [Cause.IsUnterminated, Policy.isFatal]
  | character => simp [Cause.IsUnterminated, Policy.isFatal]

theorem Cause.Explains.isUnrecognized_iff (h : Cause.Explains s start tag cause) :
    cause.IsUnrecognized ↔ tag = .unrecognized := by
  cases h with
  | string => simp [Cause.IsUnrecognized]
  | blockComment => simp [Cause.IsUnrecognized]
  | character => simp [Cause.IsUnrecognized]

end Causes

/-- A construct that the text ends in the middle of reaches to the end of the text. -/
theorem Grammar.Begins.length_eq_of_isFatal_skip {text : List Char} {tag : Tag} {n : Nat}
    (h : Grammar.Begins text tag n) (hfatal : Policy.skip.isFatal tag = true) :
    n = text.length := by
  cases h with
  | unterminatedString => rfl
  | unterminatedBlockComment => rfl
  | symbol _ hmem =>
    have hall : ∀ e ∈ Grammar.symbols, Policy.skip.isFatal e.2 = false := by decide
    rw [hall _ hmem] at hfatal
    cases hfatal
  | _ => cases hfatal

theorem Grammar.nothing_behind_unterminated {text : List Char} {before after : List Lexeme}
    {l : Lexeme} (hsplit : Grammar.lexemes text = before ++ l :: after)
    (hfatal : Policy.skip.isFatal l.tag = true) : after = [] := by
  obtain ⟨hbegins, hafter⟩ := Grammar.begins_of_split hsplit
  have hlength := hbegins.length_eq_of_isFatal_skip hfatal
  rw [← hafter, hlength, ← List.drop_drop, List.drop_length, Grammar.lexemes_nil]

/-! ### The cases -/

/-- How the scans of one source compare. -/
inductive Comparison where
  | sameTable
  /-- Only the scan that skips accepts. -/
  | onlySkipping
  | sameError
  /-- The scan that rejects ends at an earlier character. -/
  | earlierError
deriving DecidableEq, Repr

/-- What each case says of the outcomes, of skipping and of rejecting. -/
def Comparison.Holds : Comparison → Except ScanError Table → Except ScanError Table → Prop
  | .sameTable, .ok t, .ok u => t = u
  | .onlySkipping, .ok _, .error e => e.cause.IsUnrecognized
  | .sameError, .error d, .error e => d = e ∧ d.cause.IsUnterminated
  | .earlierError, .error d, .error e =>
      d.cause.IsUnterminated ∧ e.cause.IsUnrecognized ∧ e.start < d.start
  | _, _, _ => False

theorem Comparison.Holds.unique {c d : Comparison} {skip reject : Except ScanError Table}
    (hc : c.Holds skip reject) (hd : d.Holds skip reject) : c = d := by
  have hcauses : ∀ {e e' : ScanError}, e = e' ∧ e.cause.IsUnterminated →
      ¬ e'.cause.IsUnrecognized := by
    rintro e e' ⟨rfl, h⟩
    exact h.not_isUnrecognized
  rcases skip with e | t <;> rcases reject with e' | t'
  · cases c with
    | sameError =>
      cases d with
      | sameError => rfl
      | earlierError => exact absurd hd.2.1 (hcauses hc)
      | _ => cases hd
    | earlierError =>
      cases d with
      | sameError => exact absurd hc.2.1 (hcauses hd)
      | earlierError => rfl
      | _ => cases hd
    | _ => cases hc
  · cases c <;> cases hc
  · cases c with
    | onlySkipping =>
      cases d with
      | onlySkipping => rfl
      | _ => cases hd
    | _ => cases hc
  · cases c with
    | sameTable =>
      cases d with
      | sameTable => rfl
      | _ => cases hd
    | _ => cases hc

/-! ### Two scans of one source -/

section TwoScans

variable {s : Source} {before after before' after' : List Lexeme} {l l' : Lexeme}
  {d e : ScanError} {skip reject : Report}

theorem FirstFatal.isUnterminated (h : FirstFatal .skip s before l after d) :
    d.cause.IsUnterminated :=
  h.cause.isUnterminated_iff.mpr h.fatal

/-- Where the first lexeme that rejecting finds fatal is no character outside the grammar,
    it is the first one that skipping finds fatal. -/
theorem FirstFatal.skip_of_reject (h : FirstFatal .reject s before l after e)
    (hfatal : Policy.skip.isFatal l.tag = true) : FirstFatal .skip s before l after e :=
  { h with
    clean := fun m hm => (Policy.not_isFatal_skip (h.clean m hm)).1
    fatal := hfatal }

/-- A character outside the grammar ends one scan before the other one ends. -/
theorem FirstFatal.start_lt (hreject : FirstFatal .reject s before l after e)
    (hskip : FirstFatal .skip s before' l' after' d) (htag : l.tag = .unrecognized) :
    e.start < d.start := by
  have hne : l ≠ l' := by
    rintro rfl
    have hfatal := hskip.fatal
    rw [htag] at hfatal
    cases hfatal
  have hnot : l' ∉ before := by
    intro hmem
    have hclean := (Policy.not_isFatal_skip (hreject.clean l' hmem)).1
    rw [hskip.fatal] at hclean
    cases hclean
  have hpos : 0 < l.length := Grammar.length_pos_of_mem_lexemes hreject.mem
  rw [hreject.start, hskip.start]
  rcases List.append_eq_append_iff.mp (hreject.split.symm.trans hskip.split) with
    ⟨between, rfl, hrest⟩ | ⟨between, rfl, hrest⟩
  · rcases between with _ | ⟨m, between⟩
    · exact absurd (List.cons.inj hrest).1 hne
    · obtain ⟨rfl, -⟩ := List.cons.inj hrest
      rw [Grammar.extent_append, Grammar.extent_cons]
      omega
  · rcases between with _ | ⟨m, between⟩
    · exact absurd (List.cons.inj hrest).1.symm hne
    · obtain ⟨rfl, -⟩ := List.cons.inj hrest
      exact absurd (List.mem_append_right before' (List.mem_cons_self ..)) hnot

/-- Each pair of outcomes is one of the four cases. -/
theorem exists_comparison (hskip : scan .skip s = .ok skip)
    (hreject : scan .reject s = .ok reject) :
    ∃ c : Comparison, c.Holds skip.outcome reject.outcome := by
  rcases hd : skip.outcome with d | t <;> rcases he : reject.outcome with e | u
  · obtain ⟨before, l, after, hfirst⟩ := (scan_rejects_iff hreject).mp he
    obtain ⟨before', l', after', hfirst'⟩ := (scan_rejects_iff hskip).mp hd
    rcases (Policy.isFatal_reject l.tag).mp hfirst.fatal with hfatal | htag
    · have hsame := (hfirst.skip_of_reject hfatal).outcome hskip
      rw [hd] at hsame
      exact ⟨.sameError, Except.error.inj hsame, hfirst'.isUnterminated⟩
    · exact ⟨.earlierError, hfirst'.isUnterminated, hfirst.cause.isUnrecognized_iff.mpr htag,
        hfirst.start_lt hfirst' htag⟩
  · obtain ⟨hclean, -⟩ := (scan_accepts_iff hreject).mp he
    obtain ⟨before, l, after, hfirst⟩ := (scan_rejects_iff hskip).mp hd
    have hl := (Policy.not_isFatal_skip (hclean l hfirst.mem)).1
    rw [hfirst.fatal] at hl
    cases hl
  · obtain ⟨hclean, -⟩ := (scan_accepts_iff hskip).mp hd
    obtain ⟨before, l, after, hfirst⟩ := (scan_rejects_iff hreject).mp he
    rcases (Policy.isFatal_reject l.tag).mp hfirst.fatal with hfatal | htag
    · rw [hclean l hfirst.mem] at hfatal
      cases hfatal
    · exact ⟨.onlySkipping, hfirst.cause.isUnrecognized_iff.mpr htag⟩
  · obtain ⟨-, ht⟩ := (scan_accepts_iff hskip).mp hd
    obtain ⟨-, hu⟩ := (scan_accepts_iff hreject).mp he
    exact ⟨.sameTable, ht.trans hu.symm⟩

/-- The scan that rejects ends with a character outside the grammar exactly if there is
    one. -/
theorem rejects_unrecognized_iff (hreject : scan .reject s = .ok reject) :
    (∃ e, reject.outcome = .error e ∧ e.cause.IsUnrecognized) ↔
      ∃ l ∈ Grammar.lexemes s.toList, l.tag = .unrecognized := by
  constructor
  · rintro ⟨e, he, hcause⟩
    obtain ⟨before, l, after, hfirst⟩ := (scan_rejects_iff hreject).mp he
    exact ⟨l, hfirst.mem, hfirst.cause.isUnrecognized_iff.mp hcause⟩
  · rintro ⟨m, hm, htag⟩
    have hfatal : Policy.reject.isFatal m.tag = true := (Policy.isFatal_reject _).mpr (Or.inr htag)
    rcases he : reject.outcome with e | t
    · refine ⟨e, rfl, ?_⟩
      obtain ⟨before, l, after, hfirst⟩ := (scan_rejects_iff hreject).mp he
      rw [hfirst.cause.isUnrecognized_iff]
      rcases (Policy.isFatal_reject l.tag).mp hfirst.fatal with hskip | htag'
      · -- nothing stands behind `l`, so the character is `l` or stands before it
        obtain rfl := Grammar.nothing_behind_unterminated hfirst.split hskip
        rw [hfirst.split, List.mem_append, List.mem_singleton] at hm
        rcases hm with hm | rfl
        · rw [hfirst.clean m hm] at hfatal
          cases hfatal
        · exact htag
      · exact htag'
    · obtain ⟨hclean, -⟩ := (scan_accepts_iff hreject).mp he
      rw [hclean m hm] at hfatal
      cases hfatal

end TwoScans

/-- A comparison is one of the agreeing cases exactly if the scan that rejects does not end
    at a character outside the grammar. -/
theorem Comparison.Holds.agrees_iff {c : Comparison} {skip reject : Except ScanError Table}
    (hc : c.Holds skip reject) :
    Comparison.sameTable.Holds skip reject ∨ Comparison.sameError.Holds skip reject ↔
      ¬ ∃ e, reject = .error e ∧ e.cause.IsUnrecognized := by
  constructor
  · rintro hagrees ⟨e, rfl, hcause⟩
    rcases skip with d | t
    · rcases hagrees with h | ⟨rfl, h⟩
      · cases h
      · exact h.not_isUnrecognized hcause
    · rcases hagrees with h | h <;> cases h
  · intro hnone
    cases c with
    | sameTable => exact Or.inl hc
    | sameError => exact Or.inr hc
    | onlySkipping =>
      rcases skip with d | t <;> rcases reject with e | u
      · cases hc
      · cases hc
      · exact absurd ⟨e, rfl, hc⟩ hnone
      · cases hc
    | earlierError =>
      rcases skip with d | t <;> rcases reject with e | u
      · exact absurd ⟨e, rfl, hc.2.1⟩ hnone
      · cases hc
      · cases hc
      · cases hc

/-- **How skipping and rejecting compare.**  On every source exactly one of the four cases
    holds, and the scan that skips never ends at a character outside the grammar.  The
    outcomes are the same exactly if no such character is read. -/
theorem policies_compare (s : Source) :
    ∃ es skip reject, Cursor.lexemes (Cursor.start s) = .ok (es, ⟨s, s.size⟩) ∧
      scan .skip s = .ok skip ∧ scan .reject s = .ok reject ∧
      (∃! c : Comparison, c.Holds skip.outcome reject.outcome) ∧
      (∀ e, skip.outcome = .error e → ¬ e.cause.IsUnrecognized) ∧
      (Comparison.sameTable.Holds skip.outcome reject.outcome ∨
          Comparison.sameError.Holds skip.outcome reject.outcome ↔
        ∀ e ∈ es, e.2.tag ≠ .unrecognized) := by
  obtain ⟨skip, hskip⟩ := scan_total .skip s
  obtain ⟨reject, hreject⟩ := scan_total .reject s
  obtain ⟨c, hc⟩ := exists_comparison hskip hreject
  refine ⟨_, skip, reject, Cursor.lexemes_start s, hskip, hreject, ?_, ?_, ?_⟩
  · exact ⟨c, hc, fun d hd => hd.unique hc⟩
  · intro e he
    obtain ⟨before, l, after, hfirst⟩ := (scan_rejects_iff hskip).mp he
    exact hfirst.isUnterminated.not_isUnrecognized
  · rw [hc.agrees_iff, rejects_unrecognized_iff hreject,
      Grammar.forall_mem_placed_iff (P := fun l => l.tag ≠ .unrecognized)]
    simp only [not_exists, not_and, ne_eq]

end ScriptTokenizer
