/-
  ScriptTokenizer/Proofs/Addressing.lean
  ======================================
  **Line and column address a text as offsets do.**

  A place is computed by passing characters one by one.  Seen on the lines of a
  text it has a closed form: an offset lies on the line that its place names, at
  the column that its place names, and is the sum of what comes before
  (`Addresses`).  Read from the place to the offset this is a formula, so no two
  offsets share a place; and it holds at every offset, on a line feed, directly
  behind one and at the end.

  The proof goes along the lines of the text (`lines_induction`).  The first line
  is read off at once, and every other one is a line of the text below the first,
  where places have the same columns and smaller line numbers.

  That places are ordered as offsets are needs no lines: each character that is
  passed moves a place behind itself (`lt_behind`).
-/
import ScriptTokenizer.Proofs.CurrentToken
import ScriptTokenizer.Proofs.Places

namespace ScriptTokenizer

/-! ### Lines of a text -/

/-- The lines of a text.  A line feed stands between each two, so what follows the last one
    is a line too, and a text without line feeds is one line. -/
def linesOf (text : List Char) : List (List Char) := text.splitOn '\n'

theorem linesOf_of_notMem {a : List Char} (h : '\n' ∉ a) : linesOf a = [a] :=
  List.splitOn_eq_singleton h

theorem linesOf_append {a : List Char} (h : '\n' ∉ a) (b : List Char) :
    linesOf (a ++ '\n' :: b) = a :: linesOf b := by
  unfold linesOf
  rw [List.splitOn_append_cons_self, List.splitOn_eq_singleton h]
  rfl

/-- Induction along the lines of a text: the last line, and a line above others. -/
@[elab_as_elim]
theorem lines_induction {motive : List Char → Prop} (text : List Char)
    (last : ∀ a, '\n' ∉ a → motive a)
    (line : ∀ a b, '\n' ∉ a → motive b → motive (a ++ '\n' :: b)) : motive text := by
  generalize hn : text.count '\n' = n
  induction n generalizing text with
  | zero => exact last text (List.count_eq_zero.mp hn)
  | succ n ih =>
    have hmem : '\n' ∈ text := List.count_pos_iff.mp (by omega)
    obtain ⟨a, b, rfl, ha⟩ := List.eq_append_cons_of_mem hmem
    apply line a b ha
    apply ih
    simpa [List.count_eq_zero.mpr ha] using hn

/-- The offset at which a line begins: all lines before it, and the line feed behind each. -/
def lineStart : List (List Char) → Nat → Nat
  | [], _ => 0
  | _ :: _, 0 => 0
  | line :: lines, n + 1 => line.length + 1 + lineStart lines n

/-- The place stands for the offset: it names a line, a column on it or directly behind it,
    and the offset is what comes before that column. -/
structure Addresses (lines : List (List Char)) (offset : Nat) (place : LineColumn) : Prop where
  line_pos : 1 ≤ place.line
  line_le : place.line ≤ lines.length
  column_le : ∀ line, lines[place.line - 1]? = some line → place.column ≤ line.length
  offset_eq : offset = lineStart lines (place.line - 1) + place.column

namespace Addresses

variable {lines : List (List Char)} {k j : Nat} {place : LineColumn}

/-- On the first line the column is the offset. -/
theorem first {a : List Char} (hk : k ≤ a.length) : Addresses (a :: lines) k ⟨1, k⟩ := by
  refine ⟨Nat.le_refl 1, ?_, ?_, ?_⟩
  · simp
  · simpa using hk
  · simp [lineStart]

/-- What is addressed on some lines is addressed one line further down below another line. -/
theorem below (h : Addresses lines k place) (a : List Char) :
    Addresses (a :: lines) (a.length + 1 + k) ⟨place.line + 1, place.column⟩ := by
  obtain ⟨hpos, hle, hcolumn, hoffset⟩ := h
  obtain ⟨n, hn⟩ := Nat.exists_eq_add_of_le' hpos
  rw [hn, Nat.add_sub_cancel] at hcolumn hoffset
  refine ⟨Nat.le_add_left .., ?_, ?_, ?_⟩
  · simpa using hle
  · intro line hline
    apply hcolumn
    simpa [hn] using hline
  · simp only [hn, Nat.add_sub_cancel, lineStart]
    omega

/-- A place stands for one offset. -/
theorem unique (hk : Addresses lines k place) (hj : Addresses lines j place) : k = j :=
  hk.offset_eq.trans hj.offset_eq.symm

end Addresses

/-! ### Places on lines -/

namespace LineColumn

theorem foldl_behind_of_notMem {a : List Char} (h : '\n' ∉ a) :
    a.foldl behind start = ⟨1, a.length⟩ := by
  have hcount : a.count '\n' = 0 := List.count_eq_zero.mpr h
  have hall : a.rtakeWhile (· != '\n') = a := by
    apply List.rtakeWhile_eq_self_iff.mpr
    intro c hc
    apply bne_iff_ne.mpr
    rintro rfl
    exact h hc
  rw [foldl_behind_start, hcount, hall]

/-- **The place of an offset addresses it** on the lines of the text. -/
theorem addresses_foldl_behind {text : List Char} {k : Nat} (hk : k ≤ text.length) :
    Addresses (linesOf text) k ((text.take k).foldl behind start) := by
  have hfirst : ∀ a : List Char, '\n' ∉ a → ∀ i, i ≤ a.length →
      (a.take i).foldl behind start = ⟨1, i⟩ := by
    intro a ha i hi
    rw [foldl_behind_of_notMem fun hmem => ha (List.mem_of_mem_take hmem),
      List.length_take_of_le hi]
  induction text using lines_induction generalizing k with
  | last a ha =>
    rw [linesOf_of_notMem ha, hfirst a ha k hk]
    exact Addresses.first hk
  | line a b ha ih =>
    rw [linesOf_append ha]
    rcases Nat.lt_or_ge a.length k with hlt | hle
    · -- the offset lies below the first line
      obtain ⟨i, rfl⟩ := Nat.exists_eq_add_of_lt hlt
      have hi : i ≤ b.length := by
        simp at hk
        omega
      have htake : (a ++ '\n' :: b).take (a.length + i + 1) = a ++ '\n' :: b.take i := by
        rw [Nat.add_assoc, List.take_length_add_append, List.take_succ_cons]
      have hbelow := (ih hi).below a
      rw [htake, foldl_behind_lines, List.count_eq_zero.mpr ha]
      rwa [Nat.add_right_comm] at hbelow
    · rw [List.take_append_of_le_length hle, hfirst a ha k hle]
      exact Addresses.first hle

/-! ### The order of places -/

theorem lt_iff {p q : LineColumn} :
    p < q ↔ p.line < q.line ∨ p.line = q.line ∧ p.column < q.column := by
  show compare p q = .lt ↔ _
  simp [compare_eq, Ordering.then_eq_lt, Nat.compare_eq_lt]

theorem lt_trans {p q r : LineColumn} (hpq : p < q) (hqr : q < r) : p < r := by
  rw [lt_iff] at *
  omega

/-- A character moves a place behind itself. -/
theorem lt_behind (p : LineColumn) (c : Char) : p < p.behind c := by
  rw [lt_iff]
  unfold behind
  split
  · exact Or.inl (Nat.lt_succ_self _)
  · exact Or.inr ⟨rfl, Nat.lt_succ_self _⟩

theorem lt_foldl_behind {cs : List Char} (hne : cs ≠ []) (p : LineColumn) :
    p < cs.foldl behind p := by
  induction cs generalizing p with
  | nil => exact absurd rfl hne
  | cons c cs ih =>
    rcases cs with _ | ⟨d, cs⟩
    · exact lt_behind p c
    · exact lt_trans (lt_behind p c) (ih (List.cons_ne_nil d cs) (p.behind c))

theorem foldl_behind_take_lt {text : List Char} {i j : Nat} (hij : i < j)
    (hj : j ≤ text.length) :
    (text.take i).foldl behind start < (text.take j).foldl behind start := by
  obtain ⟨n, rfl⟩ := Nat.exists_eq_add_of_lt hij
  have hne : (text.drop i).take (n + 1) ≠ [] := by
    intro hnil
    have hlength := congrArg List.length hnil
    simp at hlength
    omega
  rw [Nat.add_assoc, List.take_add, List.foldl_append]
  exact lt_foldl_behind hne _

end LineColumn

/-! ### Places in a source -/

section Sources

variable {s : Source} {i j : Nat}

/-- The place of an offset of the text, or of its end. -/
theorem Source.lineColumn_of_le (hsize : s.size < maxOffset) (hi : i ≤ s.size) :
    s.lineColumn i = .ok ((s.toList.take i).foldl LineColumn.behind LineColumn.start) := by
  have hmin : min i s.size = i := Nat.min_eq_left hi
  have hlt : min i s.size < maxOffset := by omega
  have h := Source.lineColumn_eq hlt
  rwa [hmin] at h

/-- Of two offsets, the place of the greater one is the greater. -/
theorem Source.lineColumn_lt (hsize : s.size < maxOffset) (hij : i < j) (hj : j ≤ s.size) :
    ∃ p q, s.lineColumn i = .ok p ∧ s.lineColumn j = .ok q ∧ p < q := by
  have hi : i ≤ s.size := by omega
  exact ⟨_, _, Source.lineColumn_of_le hsize hi, Source.lineColumn_of_le hsize hj,
    LineColumn.foldl_behind_take_lt hij hj⟩

/-- A token starts behind the tokens with smaller numbers. -/
theorem Tabulates.start_lt {es : List (Nat × Lexeme)} {t : Table} {a b : Row}
    (h : Tabulates s es t) (hij : i < j) (ha : t.row? i = some a) (hb : t.row? j = some b) :
    a.start < b.start := by
  obtain ⟨hi, rfl⟩ := Array.getElem?_eq_some_iff.mp ha
  obtain ⟨hj, rfl⟩ := Array.getElem?_eq_some_iff.mp hb
  exact (List.pairwise_iff_getElem.mp h.ordered i j hi hj hij).1

/-- A navigator that starts on a token stands on its row. -/
theorem Navigator.standsOn_of_startingAt {t : Table} {nav : Navigator} (hparallel : t.Parallel)
    (h : Navigator.startingAt s t i = .ok nav) :
    ∃ row ∈ t.rows.toList, t.row? i = some row ∧ nav.source = s ∧ nav.StandsOn row := by
  obtain ⟨hi, rfl⟩ := Navigator.startingAt_eq_ok_iff.mp h
  obtain ⟨row, hmem, hrow⟩ := hparallel.exists_row? hi
  exact ⟨row, hmem, hrow, rfl, i, rfl, hrow⟩

/-- **Line and column address a text as offsets do.**  In a text shorter than the largest
    offset every offset has a place, and the place addresses it on the lines of the text.  So
    different offsets have different places, and places are ordered as offsets are.  The
    tokens of a scan therefore stand at greater places the greater their numbers are. -/
theorem places_address_offsets (hsize : s.size < maxOffset) :
    (∀ offset, ∃ place, s.lineColumn offset = .ok place ∧
      Addresses (linesOf s.toList) (min offset s.size) place) ∧
    (∀ i j, i ≤ s.size → j ≤ s.size → s.lineColumn i = s.lineColumn j → i = j) ∧
    (∀ i j, i < j → j ≤ s.size →
      ∃ p q, s.lineColumn i = .ok p ∧ s.lineColumn j = .ok q ∧ p < q) ∧
    ∀ policy report t, scan policy s = .ok report → report.outcome = .ok t →
      ∀ i j a b, i < j → Navigator.startingAt s t i = .ok a → Navigator.startingAt s t j = .ok b →
        ∃ p q, a.lineColumn = .ok p ∧ b.lineColumn = .ok q ∧ p < q := by
  have haddresses : ∀ k, k ≤ s.size → Addresses (linesOf s.toList) k
      ((s.toList.take k).foldl LineColumn.behind LineColumn.start) := by
    intro k hk
    exact LineColumn.addresses_foldl_behind hk
  refine ⟨?_, ?_, fun i j => Source.lineColumn_lt hsize, ?_⟩
  · intro offset
    refine ⟨_, Source.lineColumn_eq (by omega), ?_⟩
    exact haddresses _ (Nat.min_le_right offset s.size)
  · intro i j hi hj hsame
    rw [Source.lineColumn_of_le hsize hi, Source.lineColumn_of_le hsize hj,
      Except.ok.injEq] at hsame
    have hplace := haddresses i hi
    rw [hsame] at hplace
    exact hplace.unique (haddresses j hj)
  · intro policy report t hscan ht i j a b hij ha hb
    obtain ⟨hclean, rfl⟩ := (scan_accepts_iff hscan).mp ht
    have htabulates := tabulates_ofLexemes hclean
    obtain ⟨row, -, hrow, rfl, hstands⟩ :=
      Navigator.standsOn_of_startingAt htabulates.parallel ha
    obtain ⟨row', hmem, hrow', hsource, hstands'⟩ :=
      Navigator.standsOn_of_startingAt htabulates.parallel hb
    have hlt := htabulates.start_lt hij hrow hrow'
    have hinside := htabulates.inside row' hmem
    have hplace' := hstands'.lineColumn_eq (by rw [hsource]; omega)
    rw [hsource] at hplace'
    refine ⟨_, _, hstands.lineColumn_eq (by omega), hplace', ?_⟩
    apply LineColumn.foldl_behind_take_lt hlt
    rw [Source.length_toList]
    omega

/-- Places on, before and behind the line feed of a string. -/
theorem places_around_a_long_string :
    let s := Source.ofString "a\n'\n' b"
    let t : Table := .ofRows true
      [⟨0, 1, some .word⟩, ⟨1, 1, some .newline⟩, ⟨2, 3, some .string⟩, ⟨6, 1, some .word⟩]
    s.size < maxOffset ∧ linesOf s.toList = [['a'], ['\''], ['\'', ' ', 'b']] ∧
      Addresses (linesOf s.toList) 3 ⟨2, 1⟩ ∧ Addresses (linesOf s.toList) 7 ⟨3, 3⟩ ∧
      (s.lineColumn 2 = s.lineColumn 4 → 2 = 4) ∧
      (∃ p q, s.lineColumn 3 = .ok p ∧ s.lineColumn 4 = .ok q ∧ p < q) ∧
      ∃ a b p q, Navigator.startingAt s t 2 = .ok a ∧ Navigator.startingAt s t 3 = .ok b ∧
        a.lineColumn = .ok p ∧ b.lineColumn = .ok q ∧ p < q := by
  intro s t
  have hsize : s.size < maxOffset := by decide
  have hscan : scan .reject s = .ok ⟨[.complete 4], .ok t⟩ := by decide +kernel
  obtain ⟨haddress, hunique, hordered, htokens⟩ := places_address_offsets hsize
  obtain ⟨place, hplace, hon⟩ := haddress 3
  obtain ⟨place', hplace', hbehind⟩ := haddress 99
  have hthird : s.lineColumn 3 = .ok ⟨2, 1⟩ := by decide +kernel
  have hend : s.lineColumn 99 = .ok ⟨3, 3⟩ := by decide +kernel
  obtain rfl := Except.ok.inj (hthird.symm.trans hplace)
  obtain rfl := Except.ok.inj (hend.symm.trans hplace')
  obtain ⟨p, q, hp, hq, hlt⟩ :=
    htokens .reject _ t hscan rfl 2 3 _ _ (by decide) rfl rfl
  exact ⟨hsize, by decide +kernel, hon, hbehind, hunique 2 4 (by decide) (by decide),
    hordered 3 4 (by decide) (by decide), _, _, p, q, rfl, rfl, hp, hq, hlt⟩

end Sources

end ScriptTokenizer
