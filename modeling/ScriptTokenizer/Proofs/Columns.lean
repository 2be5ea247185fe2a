/-
  ScriptTokenizer/Proofs/Columns.lean
  ===================================
  **Three columns are one list of rows.**

  Nothing in a table says that its columns belong together, and they do not
  while it grows, one after another.  But what is written behind the columns of
  some rows leaves the columns of these rows and one more, and a fault leaves
  those of the same rows, because it comes before any column has grown
  (`write_ofRows`).  It has compared nothing but the ends of two columns, and
  these are the last row (`check_ofRows`).

  So a table with the columns of rows is that list of rows (`Refines`): reading
  across the columns gives the rows back, as many as the table has tokens, as
  long as either all of them have a kind or none has.
-/
import ScriptTokenizer.Table

namespace ScriptTokenizer.Table

/-! ### Pushing rows -/

/-- May a token follow this row?  What a table asks of the ends of its columns. -/
def checkBehind (last : Option Row) (start span : Nat) : Except Fault Unit :=
  if span = 0 then .error (.emptyToken start)
  else
    match last with
    | none => .ok ()
    | some last =>
      match addOffsets last.start last.span with
      | .error fault => .error fault
      | .ok stop => if stop ≤ start then .ok () else .error (.overlap start)

/-- The row of a token. -/
def rowOf (tracksKinds : Bool) (start span : Nat) (kind : Kind) : Row :=
  ⟨start, span, if tracksKinds then some kind else none⟩

/-- Append a token to a list of rows. -/
def pushRow (tracksKinds : Bool) (rows : List Row) (start span : Nat) (kind : Kind) :
    Except Fault (List Row) :=
  match checkBehind rows.getLast? start span with
  | .error fault => .error fault
  | .ok () => .ok (rows ++ [rowOf tracksKinds start span kind])

/-- A table is this list of rows: it has their columns, and kinds in all rows or in none. -/
structure Refines (t : Table) (rows : List Row) : Prop where
  columns : t = ofRows t.tracksKinds rows
  tracked : ∀ row ∈ rows, row.kind.isSome = t.tracksKinds

/-- The columns go in step: the rows across them are all that the table has. -/
def Parallel (t : Table) : Prop := t.Refines t.rows.toList

variable {t t' : Table} {tracksKinds : Bool} {rows : List Row} {start span : Nat} {kind : Kind}

/-- **What a table takes**: a token with characters, from the end of the last one on. -/
theorem checkBehind_eq_ok_iff {last? : Option Row} :
    checkBehind last? start span = .ok () ↔
      0 < span ∧ ∀ last, last? = some last →
        last.start + last.span ≤ maxOffset ∧ last.start + last.span ≤ start := by
  unfold checkBehind
  by_cases hspan : span = 0
  · simp [hspan]
  · rw [if_neg hspan]
    rcases last? with _ | last
    · simp [Nat.pos_of_ne_zero hspan]
    · simp only [addOffsets, Option.some.injEq, forall_eq', Nat.pos_of_ne_zero hspan, true_and]
      by_cases hmax : last.start + last.span ≤ maxOffset
      · simp [hmax]
      · simp [hmax]

theorem check_ofRows :
    (ofRows tracksKinds rows).check start span = checkBehind rows.getLast? start span := by
  unfold check checkBehind ofRows
  simp only [List.back?_toArray, List.getLast?_map]
  rcases rows.getLast? with _ | last
  · rfl
  · rfl

theorem append_eq : append start span kind t = .ok ()
    ⟨t.tracksKinds, t.startColumn.push start, t.spanColumn.push span,
      if t.tracksKinds then t.kindColumn.push kind else t.kindColumn⟩ := by
  obtain ⟨_ | _, starts, spans, kinds⟩ := t
  · rfl
  · rfl

theorem append_ofRows :
    append start span kind (ofRows tracksKinds rows) =
      .ok () (ofRows tracksKinds (rows ++ [rowOf tracksKinds start span kind])) := by
  rw [append_eq]
  cases tracksKinds with
  | false => simp [ofRows, rowOf]
  | true => simp [ofRows, rowOf]

theorem write_of_error {fault : Fault} (h : t.check start span = .error fault) :
    write start span kind t = .error fault t := by
  show (liftExcept (t.check start span) >>= fun _ => append start span kind : Writing Unit) t = _
  rw [h]
  rfl

theorem write_of_ok (h : t.check start span = .ok ()) :
    write start span kind t = append start span kind t := by
  show (liftExcept (t.check start span) >>= fun _ => append start span kind : Writing Unit) t = _
  rw [h]
  rfl

/-- A fault leaves a table as it was. -/
theorem table_of_write_error {fault : Fault} (h : write start span kind t = .error fault t') :
    t' = t := by
  rcases hcheck : t.check start span with fault' | ⟨⟩
  · rw [write_of_error hcheck] at h
    cases h
    rfl
  · rw [write_of_ok hcheck, append_eq] at h
    cases h

/-- **Columns refine rows.**  What is written behind the columns of rows is a push on the
    rows; what may not be written leaves these columns as they are. -/
theorem write_ofRows :
    write start span kind (ofRows tracksKinds rows) =
      match pushRow tracksKinds rows start span kind with
      | .ok rows' => .ok () (ofRows tracksKinds rows')
      | .error fault => .error fault (ofRows tracksKinds rows) := by
  rcases hcheck : checkBehind rows.getLast? start span with fault | _
  · rw [write_of_error (check_ofRows.trans hcheck), pushRow, hcheck]
  · rw [write_of_ok (check_ofRows.trans hcheck), append_ofRows, pushRow, hcheck]

/-! ### Reading rows -/

/-- Rows can be read across their columns. -/
theorem across_columns (h : ∀ row ∈ rows, row.kind.isSome = tracksKinds) :
    across (rows.map Row.start) (rows.map Row.span) (rows.filterMap Row.kind) = rows := by
  induction rows with
  | nil => rfl
  | cons row rows ih =>
    obtain ⟨hrow, hrows⟩ := List.forall_mem_cons.mp h
    obtain ⟨rowStart, rowSpan, _ | rowKind⟩ := row
    · -- no row has a kind, so there are no kinds to be read off
      have hkinds : rows.filterMap Row.kind = [] := by
        rw [List.filterMap_eq_nil_iff]
        intro other hother
        have hnone := (hrows other hother).trans hrow.symm
        simpa using hnone
      have hrest := ih hrows
      rw [hkinds] at hrest
      simp [hkinds, across, hrest]
    · simp [across, ih hrows]

theorem rows_ofRows (h : ∀ row ∈ rows, row.kind.isSome = tracksKinds) :
    (ofRows tracksKinds rows).rows = rows.toArray := by
  simp [Table.rows, starts, spans, kinds, ofRows, across_columns h]

theorem refines_ofRows (h : ∀ row ∈ rows, row.kind.isSome = tracksKinds) :
    (ofRows tracksKinds rows).Refines rows := ⟨rfl, h⟩

theorem Refines.rows_eq (h : t.Refines rows) : t.rows = rows.toArray := by
  rw [h.columns]
  exact rows_ofRows h.tracked

theorem Refines.parallel (h : t.Refines rows) : t.Parallel := by
  rw [Parallel, h.rows_eq]
  exact h

theorem Refines.size_eq (h : t.Refines rows) : t.size = rows.length := by
  rw [h.columns]
  simp [size, ofRows]

/-- Every token has a row. -/
theorem Parallel.exists_row? (h : t.Parallel) {i : Nat} (hi : i < t.size) :
    ∃ row ∈ t.rows.toList, t.row? i = some row := by
  have hlt : i < t.rows.size := by
    rw [← Array.length_toList, ← h.size_eq]
    exact hi
  exact ⟨_, Array.getElem_mem_toList hlt, Array.getElem?_eq_getElem hlt⟩

/-- Behind the rows no column has anything. -/
theorem Refines.beyond (h : t.Refines rows) {i : Nat} (hi : rows.length ≤ i) :
    t.start i = .error .outOfBounds ∧ t.span i = .error .outOfBounds ∧
      t.kind i = .error (.noSuchToken i rows.length) := by
  have hsize : ¬ i < t.size := by
    rw [h.size_eq]
    omega
  have hstart : t.startColumn[i]? = none := Array.getElem?_eq_none (Nat.not_lt.mp hsize)
  have hspan : t.spanColumn[i]? = none := by
    rw [h.columns]
    simpa [ofRows] using hi
  refine ⟨by rw [start, hstart], by rw [span, hspan], ?_⟩
  rw [kind, if_neg hsize, h.size_eq]

theorem refines_empty (tracksKinds : Bool) : (Table.empty tracksKinds).Refines [] where
  columns := rfl
  tracked := by simp

/-- One token written, on the columns and on the rows. -/
theorem Refines.write_eq_ok_iff (h : t.Refines rows) :
    write start span kind t = .ok () t' ↔
      checkBehind rows.getLast? start span = .ok () ∧
        t' = ofRows t.tracksKinds (rows ++ [rowOf t.tracksKinds start span kind]) := by
  have hwrite : write start span kind t =
      match pushRow t.tracksKinds rows start span kind with
      | .ok rows' => .ok () (ofRows t.tracksKinds rows')
      | .error fault => .error fault t := by
    have hcolumns := @write_ofRows t.tracksKinds rows start span kind
    rwa [← h.columns] at hcolumns
  rw [hwrite, pushRow]
  rcases checkBehind rows.getLast? start span with fault | _
  · simp
  · simp [eq_comm]

theorem push_eq_ok_iff :
    t.push start span kind = .ok t' ↔ write start span kind t = .ok () t' := by
  rw [push]
  rcases write start span kind t with ⟨⟨⟩, after⟩ | ⟨fault, after⟩
  · simp
  · simp

theorem Refines.push_eq_ok_iff (h : t.Refines rows) :
    t.push start span kind = .ok t' ↔
      checkBehind rows.getLast? start span = .ok () ∧
        t' = ofRows t.tracksKinds (rows ++ [rowOf t.tracksKinds start span kind]) :=
  Table.push_eq_ok_iff.trans h.write_eq_ok_iff

theorem Refines.push (h : t.Refines rows) (hpush : t.push start span kind = .ok t') :
    t'.Refines (rows ++ [rowOf t.tracksKinds start span kind]) := by
  obtain ⟨-, rfl⟩ := h.push_eq_ok_iff.mp hpush
  apply refines_ofRows
  intro row hrow
  rcases List.mem_append.mp hrow with hold | hnew
  · exact h.tracked row hold
  · obtain rfl := List.mem_singleton.mp hnew
    cases t.tracksKinds <;> rfl

end ScriptTokenizer.Table
