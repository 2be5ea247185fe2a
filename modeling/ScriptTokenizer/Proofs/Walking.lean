/-
  ScriptTokenizer/Proofs/Walking.lean
  ===================================
  **Walking never leaves the table.**

  A navigator that was made for a table stands before its first token or on one
  of its tokens, and whatever moves are tried, in whatever order, it goes on to
  do so (`exists_walk_eq_place`).  One move changes nothing but the index, and
  the index by one or back to where the navigator began; a move that would leave
  the table fails.  All that a single move can do is said once, by the four
  `_iff` lemmas below, and a walk is a fold of single moves.

  The number of the next token is kept as an offset, and what does not fit would
  be cut off.  It always fits, but that is no property of a move.  It holds
  because tables are filled by pushes, which bounds their size.

  From before the first token, moves forward visit every token once and in
  order, and moves backward from there visit them in the opposite order; neither
  goes further (`visits_forward`, `visits_backward`).
-/
import ScriptTokenizer.Navigator
import ScriptTokenizer.Proofs.TableGrowth

namespace ScriptTokenizer

/-- A call that may move a navigator. -/
inductive Move where
  | next
  | previous
  | reset
deriving DecidableEq, Repr

namespace Navigator

/-! ### Single moves -/

/-- The navigator with another index. -/
def place (nav : Navigator) (index : Option Nat) : Navigator := { nav with index := index }

def attempt (nav : Navigator) : Move → Except OutOfRange Navigator
  | .next => nav.next
  | .previous => nav.previous
  | .reset => .ok nav.reset

/-- Where a move leaves a navigator.  A move that fails leaves it in its place. -/
def perform (nav : Navigator) (move : Move) : Navigator :=
  match nav.attempt move with
  | .ok nav' => nav'
  | .error _ => nav

/-- Where one move after the other leaves a navigator. -/
def walk (nav : Navigator) (moves : List Move) : Navigator := moves.foldl perform nav

/-- The navigators that can be made for a source and a table. -/
inductive Made (source : Source) (table : Table) : Navigator → Prop where
  | new : Made source table (Navigator.new source table)
  | startingAt {i : Nat} {nav : Navigator} :
      Navigator.startingAt source table i = .ok nav → Made source table nav

/-- The index stands for no token, or for a token of the table. -/
def Holds (nav : Navigator) (index : Option Nat) : Prop := ∀ i, index = some i → i < nav.size

section Moves

variable {nav nav' : Navigator} {e : OutOfRange} {index : Option Nat} {i : Nat}

@[simp] theorem place_place (nav : Navigator) (i j : Option Nat) :
    (nav.place i).place j = nav.place j := rfl

theorem nextIndex_eq (nav : Navigator) : nav.nextIndex = nav.index.elim 0 (· + 1) := by
  unfold nextIndex
  cases nav.index <;> rfl

theorem index_of_nextIndex {n : Nat} (hpos : 0 < n) (h : nav.nextIndex = n) :
    nav.index = some (n - 1) := by
  rw [nextIndex_eq] at h
  rcases hindex : nav.index with _ | i
  · rw [hindex] at h
    exact absurd h (Nat.ne_of_lt hpos)
  · rw [hindex] at h
    rw [← h]
    rfl

theorem hasNext_iff : nav.hasNext = true ↔ nav.nextIndex < nav.size := by
  simp [hasNext]

theorem next_eq_ok_iff :
    nav.next = .ok nav' ↔
      nav.nextIndex < nav.size ∧ nav' = nav.place (some (wrapOffset nav.nextIndex)) := by
  unfold next
  by_cases h : nav.nextIndex < nav.size
  · rw [if_pos (hasNext_iff.mpr h), Except.ok.injEq, eq_comm]
    exact (and_iff_right h).symm
  · rw [if_neg (mt hasNext_iff.mp h)]
    simp [h]

theorem next_eq_error_iff :
    nav.next = .error e ↔ nav.size ≤ nav.nextIndex ∧ e = nav.outOfRange .forward := by
  unfold next
  by_cases h : nav.nextIndex < nav.size
  · rw [if_pos (hasNext_iff.mpr h)]
    simp [Nat.not_le_of_lt h]
  · rw [if_neg (mt hasNext_iff.mp h), Except.error.injEq, eq_comm]
    exact (and_iff_right (Nat.le_of_not_lt h)).symm

theorem previous_eq_ok_iff :
    nav.previous = .ok nav' ↔ ∃ i, nav.index = some (i + 1) ∧ nav' = nav.place (some i) := by
  unfold previous
  rcases nav.index with _ | _ | i
  · simp
  · simp
  · simp [place, eq_comm]

theorem previous_eq_error_iff :
    nav.previous = .error e ↔
      (nav.index = none ∨ nav.index = some 0) ∧ e = nav.outOfRange .backward := by
  unfold previous
  rcases nav.index with _ | _ | i
  · simp [eq_comm]
  · simp [eq_comm]
  · simp

theorem hasPrevious_iff : nav.hasPrevious = true ↔ ∃ i, nav.index = some (i + 1) := by
  unfold hasPrevious
  rcases nav.index with _ | _ | i <;> simp

/-- In a table whose numbers are offsets nothing is cut off a number. -/
theorem wrapOffset_nextIndex (hsize : nav.size ≤ maxOffset + 1) (h : nav.nextIndex < nav.size) :
    wrapOffset nav.nextIndex = nav.nextIndex :=
  wrapOffset_of_le (by omega)

/-- **One move** changes the index at most, and not to that of a token outside the table. -/
theorem exists_perform_eq_place (hsize : nav.size ≤ maxOffset + 1) (hhome : nav.Holds nav.home)
    (hindex : nav.Holds nav.index) (move : Move) :
    ∃ index, nav.perform move = nav.place index ∧ nav.Holds index := by
  unfold perform
  rcases hmove : nav.attempt move with e | nav'
  · exact ⟨nav.index, rfl, hindex⟩
  · cases move with
    | next =>
      obtain ⟨hlt, rfl⟩ := next_eq_ok_iff.mp hmove
      refine ⟨_, rfl, ?_⟩
      rw [wrapOffset_nextIndex hsize hlt]
      rintro i ⟨⟩
      exact hlt
    | previous =>
      obtain ⟨i, hi, rfl⟩ := previous_eq_ok_iff.mp hmove
      refine ⟨_, rfl, ?_⟩
      rintro j ⟨⟩
      have hlt := hindex (i + 1) hi
      omega
    | reset =>
      obtain rfl := Except.ok.inj hmove
      exact ⟨nav.home, rfl, hhome⟩

/-- **A walk** does no more than a move. -/
theorem exists_walk_eq_place (hsize : nav.size ≤ maxOffset + 1) (hhome : nav.Holds nav.home)
    (hindex : nav.Holds nav.index) (moves : List Move) :
    ∃ index, nav.walk moves = nav.place index ∧ nav.Holds index := by
  induction moves generalizing nav with
  | nil => exact ⟨nav.index, rfl, hindex⟩
  | cons move moves ih =>
    obtain ⟨index, hperform, hholds⟩ := exists_perform_eq_place hsize hhome hindex move
    obtain ⟨index', hwalk, hholds'⟩ := @ih (nav.place index) hsize hhome hholds
    refine ⟨index', ?_, hholds'⟩
    rw [walk, List.foldl_cons, hperform]
    exact hwalk

theorem startingAt_eq_ok_iff {source : Source} {table : Table} :
    Navigator.startingAt source table i = .ok nav ↔
      i < table.size ∧ nav = ⟨source, table, some i, some i⟩ := by
  unfold Navigator.startingAt
  by_cases hi : i < table.size
  · rw [if_pos hi, Except.ok.injEq, eq_comm]
    exact (and_iff_right hi).symm
  · rw [if_neg hi]
    simp [hi]

theorem Made.holds {source : Source} {table : Table} (h : Made source table nav) :
    nav.source = source ∧ nav.table = table ∧ nav.Holds nav.home ∧ nav.Holds nav.index := by
  cases h with
  | new => exact ⟨rfl, rfl, by simp [Holds, Navigator.new], by simp [Holds, Navigator.new]⟩
  | @startingAt i _ hstart =>
    obtain ⟨hi, rfl⟩ := startingAt_eq_ok_iff.mp hstart
    have hholds : Navigator.Holds ⟨source, table, some i, some i⟩ (some i) := by
      rintro j ⟨⟩
      exact hi
    exact ⟨rfl, rfl, hholds, hholds⟩

end Moves

/-! ### Sweeps -/

/-- Moves of one kind succeed one after the other and visit these tokens. -/
inductive Visits (step : Navigator → Except OutOfRange Navigator) :
    Navigator → List Nat → Navigator → Prop where
  | nil {nav : Navigator} : Visits step nav [] nav
  | cons {nav nav' last : Navigator} {i : Nat} {is : List Nat} :
      step nav = .ok nav' → nav'.index = some i → Visits step nav' is last →
      Visits step nav (i :: is) last

/-- Moves forward visit as many tokens as there are. -/
theorem visits_forward (nav : Navigator) (hsize : nav.size ≤ maxOffset + 1) {n : Nat}
    (h : nav.nextIndex + n ≤ nav.size) :
    ∃ last, Visits next nav (List.range' nav.nextIndex n) last ∧
      last.nextIndex = nav.nextIndex + n ∧ last.size = nav.size := by
  induction n generalizing nav with
  | zero => exact ⟨nav, Visits.nil, rfl, rfl⟩
  | succ n ih =>
    have hlt : nav.nextIndex < nav.size := by omega
    have hnext : nav.next = .ok (nav.place (some nav.nextIndex)) := by
      refine next_eq_ok_iff.mpr ⟨hlt, ?_⟩
      rw [wrapOffset_nextIndex hsize hlt]
    have hindex : (nav.place (some nav.nextIndex)).nextIndex = nav.nextIndex + 1 := rfl
    have hrest : (nav.place (some nav.nextIndex)).nextIndex + n ≤ nav.size := by omega
    obtain ⟨last, hvisits, hlast, hkeeps⟩ :=
      ih (nav.place (some nav.nextIndex)) hsize hrest
    rw [hindex] at hvisits hlast
    refine ⟨last, ?_, by omega, hkeeps⟩
    rw [List.range'_succ]
    exact Visits.cons hnext rfl hvisits

/-- Moves backward from a token visit all tokens before it. -/
theorem visits_backward (nav : Navigator) {n : Nat} (h : nav.index = some n) :
    ∃ first, Visits previous nav (List.range n).reverse first ∧ first.index = some 0 ∧
      first.size = nav.size := by
  induction n generalizing nav with
  | zero => exact ⟨nav, Visits.nil, h, rfl⟩
  | succ n ih =>
    have hprevious : nav.previous = .ok (nav.place (some n)) := previous_eq_ok_iff.mpr ⟨n, h, rfl⟩
    obtain ⟨first, hvisits, hfirst, hkeeps⟩ := ih (nav.place (some n)) rfl
    refine ⟨first, ?_, hfirst, hkeeps⟩
    rw [List.range_succ, List.reverse_append]
    exact Visits.cons hprevious rfl hvisits

/-! ### Whole walks -/

/-- What every move does from here, and when it fails. -/
structure MovesByOne (nav : Navigator) : Prop where
  inside : ∀ i, nav.index = some i → i < nav.size
  hasNext : nav.hasNext = true ↔ ∃ nav', nav.next = .ok nav'
  hasPrevious : nav.hasPrevious = true ↔ ∃ nav', nav.previous = .ok nav'
  /-- The number of the next token fits into an offset. -/
  fits : nav.hasNext = true → nav.nextIndex ≤ maxOffset
  forward : ∀ nav', nav.next = .ok nav' →
    nav' = nav.place (some (nav.index.elim 0 fun i => i + 1))
  backward : ∀ nav', nav.previous = .ok nav' →
    ∃ i, nav.index = some (i + 1) ∧ nav' = nav.place (some i)
  atEnd : ∀ e, nav.next = .error e →
    nav.perform .next = nav ∧ e = ⟨.forward, nav.index, min nav.size maxOffset⟩
  atStart : ∀ e, nav.previous = .error e →
    nav.perform .previous = nav ∧ e = ⟨.backward, nav.index, min nav.size maxOffset⟩
  forthAndBack : ∀ i nav', nav.index = some i → nav.next = .ok nav' → nav'.previous = .ok nav
  backAndForth : ∀ nav', nav.previous = .ok nav' → nav'.next = .ok nav

theorem place_index (nav : Navigator) : nav.place nav.index = nav := rfl

theorem perform_of_error {nav : Navigator} {move : Move} {e : OutOfRange}
    (h : nav.attempt move = .error e) : nav.perform move = nav := by
  unfold perform
  rw [h]

theorem movesByOne {nav : Navigator} (hsize : nav.size ≤ maxOffset + 1)
    (hindex : nav.Holds nav.index) : nav.MovesByOne where
  inside := hindex
  hasNext := by
    rw [hasNext_iff]
    constructor
    · intro h
      exact ⟨_, next_eq_ok_iff.mpr ⟨h, rfl⟩⟩
    · rintro ⟨nav', h⟩
      exact (next_eq_ok_iff.mp h).1
  hasPrevious := by
    rw [hasPrevious_iff]
    constructor
    · rintro ⟨i, h⟩
      exact ⟨_, previous_eq_ok_iff.mpr ⟨i, h, rfl⟩⟩
    · rintro ⟨nav', h⟩
      obtain ⟨i, hi, -⟩ := previous_eq_ok_iff.mp h
      exact ⟨i, hi⟩
  fits := by
    intro h
    have hlt := hasNext_iff.mp h
    omega
  forward := by
    intro nav' h
    obtain ⟨hlt, rfl⟩ := next_eq_ok_iff.mp h
    rw [wrapOffset_nextIndex hsize hlt, nextIndex_eq]
  backward := fun _ h => previous_eq_ok_iff.mp h
  atEnd := fun _ h => ⟨perform_of_error h, (next_eq_error_iff.mp h).2⟩
  atStart := fun _ h => ⟨perform_of_error h, (previous_eq_error_iff.mp h).2⟩
  forthAndBack := by
    intro i nav' hi h
    obtain ⟨hlt, rfl⟩ := next_eq_ok_iff.mp h
    rw [wrapOffset_nextIndex hsize hlt, nextIndex_eq, hi]
    refine previous_eq_ok_iff.mpr ⟨i, rfl, ?_⟩
    rw [place_place, ← hi, place_index]
  backAndForth := by
    intro nav' h
    obtain ⟨i, hi, rfl⟩ := previous_eq_ok_iff.mp h
    have hlt : i + 1 < nav.size := hindex (i + 1) hi
    refine next_eq_ok_iff.mpr ⟨hlt, ?_⟩
    have hwrap : wrapOffset (i + 1) = i + 1 := wrapOffset_of_le (by omega)
    show nav = nav.place (some (wrapOffset (i + 1)))
    rw [hwrap, ← hi, place_index]

/-- **Walking never leaves the table.**  A walk may begin before the first token or on any
    token.  After any moves a navigator still stands before the first token or on a token,
    keeps its source, its table and its home, and moves by one token or fails.  If it began
    before the first token it can always be reset and moved over all tokens, each once and in
    order, and from the last one back over all of them. -/
theorem walk_keeps_to_the_table {source : Source} {table : Table} {nav : Navigator}
    (htable : table.Built) (hmade : Made source table nav) :
    (∀ i, i < table.size → ∃ made, Navigator.startingAt source table i = .ok made ∧
      made.index = some i ∧ made.home = some i) ∧
    (∀ moves, (nav.walk moves).source = source ∧ (nav.walk moves).table = table ∧
      (nav.walk moves).home = nav.home ∧ (nav.walk moves).MovesByOne) ∧
    (nav = Navigator.new source table → ∀ moves, ∃ last,
      Visits next (nav.walk moves).reset (List.range table.size) last ∧
      last.next = .error ⟨.forward, last.index, min table.size maxOffset⟩ ∧
      (0 < table.size → ∃ first,
        Visits previous last (List.range (table.size - 1)).reverse first ∧
        first.previous = .error ⟨.backward, some 0, min table.size maxOffset⟩)) := by
  obtain ⟨rfl, rfl, hhome, hindex⟩ := hmade.holds
  have hsize : nav.size ≤ maxOffset + 1 := htable.size_le
  refine ⟨?_, ?_, ?_⟩
  · intro i hi
    exact ⟨_, startingAt_eq_ok_iff.mpr ⟨hi, rfl⟩, rfl, rfl⟩
  · intro moves
    obtain ⟨index, hwalk, hholds⟩ := exists_walk_eq_place hsize hhome hindex moves
    rw [hwalk]
    exact ⟨rfl, rfl, rfl, movesByOne hsize hholds⟩
  · intro hnew moves
    obtain ⟨index, hwalk, -⟩ := exists_walk_eq_place hsize hhome hindex moves
    have hnone : nav.home = none := by rw [hnew]; rfl
    have hreset : (nav.walk moves).reset = nav.place none := by
      rw [hwalk, ← hnone]
      rfl
    have hbefore : (nav.place none).nextIndex = 0 := rfl
    have hall : (nav.place none).nextIndex + nav.size ≤ nav.size :=
      Nat.le_of_eq (Nat.zero_add nav.size)
    obtain ⟨last, hforward, hlast, hkeeps⟩ := visits_forward (nav.place none) hsize hall
    rw [hbefore, Nat.zero_add] at hlast
    rw [hbefore, ← List.range_eq_range'] at hforward
    have hlimit : last.size = nav.table.size := hkeeps
    refine ⟨last, by rwa [hreset], ?_, ?_⟩
    · refine next_eq_error_iff.mpr ⟨by rw [hlast, hlimit]; exact Nat.le_refl _, ?_⟩
      rw [outOfRange, hlimit]
    · intro hpos
      have hindex : last.index = some (nav.table.size - 1) := index_of_nextIndex hpos hlast
      obtain ⟨first, hbackward, hfirst, hkept⟩ := visits_backward last hindex
      refine ⟨first, hbackward, previous_eq_error_iff.mpr ⟨Or.inr hfirst, ?_⟩⟩
      rw [outOfRange, hfirst, hkept, hlimit]

/-- A walk over a table whose last token starts at the largest offset. -/
theorem walk_over_two_tokens :
    let source := Source.ofString "x"
    let table : Table := .ofRows false [⟨0, 3, none⟩, ⟨maxOffset, 1, none⟩]
    let nav := Navigator.new source table
    table.Built ∧ Made source table nav ∧
      (nav.walk [.previous, .next, .next, .next]).index = some 1 ∧
      (nav.walk [.previous, .next, .next, .next]).MovesByOne ∧
      ∃ last, Visits next (nav.walk [.next, .next]).reset [0, 1] last ∧
        last.next = .error ⟨.forward, last.index, 2⟩ ∧
        ∃ first, Visits previous last [0] first ∧
          first.previous = .error ⟨.backward, some 0, 2⟩ := by
  intro source table nav
  have hpush : (Table.empty false).push 0 3 .word = .ok (.ofRows false [⟨0, 3, none⟩]) := rfl
  have hpush' : Table.push (.ofRows false [⟨0, 3, none⟩]) maxOffset 1 .string = .ok table := rfl
  have htable : table.Built :=
    Table.Built.push (Table.Built.push (Table.Built.empty false) (Nat.zero_le maxOffset) hpush)
      (Nat.le_refl maxOffset) hpush'
  have hmade : Made source table nav := Made.new
  obtain ⟨-, hwalks, hsweeps⟩ := walk_keeps_to_the_table htable hmade
  obtain ⟨last, hforward, hend, hback⟩ := hsweeps rfl [.next, .next]
  obtain ⟨first, hbackward, hstart⟩ := hback (by decide)
  exact ⟨htable, hmade, by decide, (hwalks [.previous, .next, .next, .next]).2.2.2, last, hforward,
    hend, first, hbackward, hstart⟩

end Navigator

end ScriptTokenizer
