/-
  ScriptTokenizer/Proofs/TableGrowth.lean
  =======================================
  **How many tokens a table can have.**

  A table grows at its end only, by tokens that have characters and start no
  earlier than the last one ends (`Table.checkBehind_eq_ok_iff`).  However often
  a push was refused, its columns are those of one list of rows, to which a push
  adds one (`Table.Built.refines`, `Table.Built.rows_push`).

  So each token starts at least one character behind the one before it, and the
  token with number `i` does not start before `i` (`Table.Built.row`).  A push
  looks at the last token only, and still no two tokens overlap
  (`Table.Built.ordered`).

  Nothing else bounds a table.  That the numbers of tokens fit into offsets
  follows because starts are offsets (`Table.Built.size_le`): a table that
  pushes have built has at most one token more than the largest offset says.
-/
import ScriptTokenizer.Proofs.Columns

namespace ScriptTokenizer.Table

variable {t t' : Table} {start span : Nat} {kind : Kind}

/-- The tables that accepted pushes build, all of them with offsets for starts. -/
inductive Built : Table → Prop where
  | empty (tracksKinds : Bool) : Built (Table.empty tracksKinds)
  | push {t t' : Table} {start span : Nat} {kind : Kind} :
      Built t → start ≤ maxOffset → t.push start span kind = .ok t' → Built t'

/-- The columns of a table belong together. -/
theorem Built.refines (h : t.Built) : t.Refines t.rows.toList := by
  induction h with
  | empty tracksKinds => exact refines_empty tracksKinds
  | push _ _ hpush ih =>
    have hnext := ih.push hpush
    rwa [hnext.rows_eq]

/-- A push adds one row, and only one that fits behind the last. -/
theorem Built.rows_push (h : t.Built) (hpush : t.push start span kind = .ok t') :
    t'.rows = t.rows.push (rowOf t.tracksKinds start span kind) ∧ 0 < span ∧
      ∀ last, t.rows.back? = some last →
        last.start + last.span ≤ maxOffset ∧ last.start + last.span ≤ start := by
  obtain ⟨hspan, hlast⟩ :=
    checkBehind_eq_ok_iff.mp (h.refines.push_eq_ok_iff.mp hpush).1
  refine ⟨?_, hspan, ?_⟩
  · rw [(h.refines.push hpush).rows_eq, ← Array.toList_push]
  · rwa [Array.getLast?_toList] at hlast

/-- A token does not start before its number. -/
theorem Built.row (h : t.Built) {i : Nat} {row : Row} (hrow : t.row? i = some row) :
    i ≤ row.start ∧ row.start ≤ maxOffset ∧ 0 < row.span := by
  induction h generalizing i row with
  | empty tracksKinds =>
    rw [row?, (refines_empty tracksKinds).rows_eq] at hrow
    cases hrow
  | @push t t' start span kind hbuilt hstart hpush ih =>
    obtain ⟨hrows, hspan, hlast⟩ := hbuilt.rows_push hpush
    rw [row?, hrows, Array.getElem?_push] at hrow
    split at hrow
    · next hi =>
      obtain rfl := Option.some.inj hrow
      refine ⟨?_, hstart, hspan⟩
      -- the new token follows the last one, whose number is one less
      rcases hback : t.rows.back? with _ | last
      · have hempty : t.rows.size = 0 := by simpa using hback
        omega
      · have hnumber : t.row? (t.rows.size - 1) = some last := by
          rwa [row?, ← Array.back?_eq_getElem?]
        have hbefore := ih hnumber
        have hends := hlast last hback
        show i ≤ start
        omega
    · exact ih hrow

/-- Tokens do not overlap: each one ends before those with greater numbers start. -/
theorem Built.ordered (h : t.Built) {i j : Nat} {a b : Row} (hij : i < j)
    (ha : t.row? i = some a) (hb : t.row? j = some b) : a.start + a.span ≤ b.start := by
  induction h generalizing j b with
  | empty tracksKinds =>
    rw [row?, (refines_empty tracksKinds).rows_eq] at hb
    cases hb
  | @push t t' start span kind hbuilt _ hpush ih =>
    obtain ⟨hrows, -, hlast⟩ := hbuilt.rows_push hpush
    have hj : j ≤ t.rows.size := by
      have hlt := (Array.getElem?_eq_some_iff.mp hb).1
      rw [hrows, Array.size_push] at hlt
      omega
    rw [row?, hrows, Array.getElem?_push, if_neg (by omega)] at ha
    rw [row?, hrows, Array.getElem?_push] at hb
    split at hb
    · obtain rfl := Option.some.inj hb
      -- the new token was compared with the last one only
      have hbelow : t.rows.size - 1 < t.rows.size := by omega
      have hnumber : t.row? (t.rows.size - 1) = some t.rows[t.rows.size - 1] :=
        Array.getElem?_eq_getElem hbelow
      have hends := (hlast _ (Array.back?_eq_getElem?.trans hnumber)).2
      rcases Nat.lt_or_ge i (t.rows.size - 1) with hbefore | hsame
      · have hstop := ih hbefore ha hnumber
        have hspan := (hbuilt.row hnumber).2.2
        show a.start + a.span ≤ start
        omega
      · obtain rfl : i = t.rows.size - 1 := by omega
        obtain rfl := Option.some.inj (ha.symm.trans hnumber)
        exact hends
    · exact ih hij ha hb

/-- There is a number for every token among the offsets. -/
theorem Built.size_le (h : t.Built) : t.size ≤ maxOffset + 1 := by
  have hsize : t.size = t.rows.size := h.refines.size_eq
  rw [hsize]
  rcases Nat.eq_zero_or_pos t.rows.size with hempty | hpos
  · omega
  · have hlast : t.rows.size - 1 < t.rows.size := Nat.sub_lt hpos Nat.one_pos
    have hbounds := h.row (Array.getElem?_eq_getElem hlast)
    omega

end ScriptTokenizer.Table
