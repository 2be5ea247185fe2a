/-
  ScriptTokenizer/Proofs/Fragments.lean
  =====================================
  **A text may be cut between two lexemes.**

  Reading stops at positions that lie between lexemes.  What stands between two
  of them is read alone as it is read in its place (`reread_between_boundaries`).
  On the left that is so because a lexeme begins anew: a string does look back,
  but never past the quote that opens it.  On the right it is so because a
  lexeme asks for no more than the character behind it, and asks only whether
  that character joins; where the text ends none does (`lexemes_take_append`).

  So every lexeme is one by itself, the mistakes included, and every token of an
  accepted text is accepted alone, as a single row.
-/
import ScriptTokenizer.Proofs.Layout

namespace ScriptTokenizer

open Grammar (placed extent)

/-! ### Lexemes of a cut text -/

namespace Grammar

theorem mem_head?_of_take_append {u z : List Char} {n : Nat}
    (hz : ∀ c ∈ z.head?, c ∈ (u.drop n).head?) : ∀ c ∈ (u.take n ++ z).head?, c ∈ u.head? := by
  intro c hc
  cases u with
  | nil => simpa using hz c (by simpa using hc)
  | cons d u =>
    cases n with
    | zero => exact hz c hc
    | succ n => exact hc

/-- Up to the end of a lexeme a text is read the same with another rest, as long as that
    rest is empty or begins with the same character. -/
theorem lexemes_take_append {text z : List Char} {before after : List Lexeme}
    (h : lexemes text = before ++ after)
    (hz : ∀ c ∈ z.head?, c ∈ (text.drop (extent before)).head?) :
    lexemes (text.take (extent before) ++ z) = before ++ lexemes z := by
  induction before generalizing text with
  | nil => rfl
  | cons l before ih =>
    obtain ⟨hbegins, hrest⟩ := lexemes_eq_cons_iff.mp h
    rw [extent_cons, ← List.drop_drop] at hz
    have hlength : (text.take l.length).length = l.length :=
      List.length_take_of_le hbegins.length_le
    obtain ⟨htake, hhead⟩ := hbegins.take_drop
    have hhead' : ∀ c ∈ ((text.drop l.length).take (extent before) ++ z).head?,
        joins l.tag c = false := by
      intro c hc
      exact hhead c (mem_head?_of_take_append hz c hc)
    have happend := (lexemes_append_iff htake.ne_nil).mpr
      ⟨⟨by rwa [hlength], hhead'⟩, ih hrest hz⟩
    rw [hlength] at happend
    rw [extent_cons, List.take_add, List.append_assoc, happend, List.cons_append]

theorem lexemes_take {text : List Char} {before after : List Lexeme}
    (h : lexemes text = before ++ after) : lexemes (text.take (extent before)) = before := by
  have hcut := lexemes_take_append (z := []) h (by simp)
  rwa [List.append_nil, lexemes_nil, List.append_nil] at hcut

/-- What is read between two lexemes is read there alone. -/
theorem lexemes_drop_take {text : List Char} {before middle after : List Lexeme}
    (h : lexemes text = before ++ (middle ++ after)) :
    lexemes ((text.drop (extent before)).take (extent middle)) = middle :=
  lexemes_take (lexemes_drop h)

end Grammar

/-! ### Parts of a source -/

/-- What stands between two offsets of a source, as a source of its own. -/
def Source.between (s : Source) (p q : Nat) : Source :=
  ⟨s.chars.extract p q, by
    have hmax := s.size_le
    rw [Array.size_extract]
    omega⟩

theorem Source.toList_between (s : Source) (p q : Nat) :
    (s.between p q).toList = (s.toList.drop p).take (q - p) := by
  rw [Source.toList, Source.between, Array.toList_extract, List.extract_eq_take_drop]
  rfl

theorem Source.toList_between_size (s : Source) (p : Nat) :
    (s.between p s.size).toList = s.toList.drop p := by
  rw [Source.toList_between, ← s.length_toList, ← List.length_drop, List.take_length]

theorem Source.size_between {s : Source} {p q : Nat} (hq : q ≤ s.size) :
    (s.between p q).size = q - p := by
  rw [Source.size, Source.between, Array.size_extract]
  rw [Source.size] at hq
  omega

/-! ### Boundaries -/

/-- A position that a cursor comes to by reading lexemes from the start of a source. -/
def Source.IsBoundary (s : Source) (p : Nat) : Prop :=
  ∃ n ls, Cursor.readings n (Cursor.start s) = .ok ls ⟨s, p⟩

/-- Does a lexeme lie between two positions? -/
def liesBetween (p q : Nat) (e : Nat × Lexeme) : Bool := p ≤ e.1 && e.1 + e.2.length ≤ q

theorem liesBetween_iff {p q : Nat} {e : Nat × Lexeme} :
    liesBetween p q e = true ↔ p ≤ e.1 ∧ e.1 + e.2.length ≤ q := by
  rw [liesBetween, Bool.and_eq_true, decide_eq_true_eq, decide_eq_true_eq]

section Boundaries

variable {s : Source} {p q : Nat}

theorem Source.isBoundary_iff :
    s.IsBoundary p ↔ ∃ n, p = extent ((Grammar.lexemes s.toList).take n) := by
  have hreadings : ∀ n, Cursor.readings n (Cursor.start s) =
      .ok ((Grammar.lexemes s.toList).takeD n ⟨.eof, 0⟩)
        ⟨s, extent ((Grammar.lexemes s.toList).take n)⟩ := by
    intro n
    have h := Cursor.readings_eq (s := s) (p := 0) (Nat.lt_add_left s.size padding_pos) n
    rwa [List.drop_zero, Nat.zero_add] at h
  constructor
  · rintro ⟨n, ls, h⟩
    rw [hreadings n] at h
    cases h
    exact ⟨n, rfl⟩
  · rintro ⟨n, rfl⟩
    exact ⟨n, _, hreadings n⟩

/-- Two boundaries cut the lexemes of a source in three. -/
theorem Source.IsBoundary.split (hp : s.IsBoundary p) (hq : s.IsBoundary q) (hpq : p ≤ q) :
    ∃ before middle after, Grammar.lexemes s.toList = before ++ (middle ++ after) ∧
      p = extent before ∧ q = p + extent middle := by
  obtain ⟨n, rfl⟩ := Source.isBoundary_iff.mp hp
  obtain ⟨m, rfl⟩ := Source.isBoundary_iff.mp hq
  generalize Grammar.lexemes s.toList = ls at *
  rcases Nat.le_total n m with hle | hle
  · have hmiddle : ls.take n ++ (ls.take m).drop n = ls.take m := by
      have h := List.take_append_drop n (ls.take m)
      rwa [List.take_take, Nat.min_eq_left hle] at h
    refine ⟨ls.take n, (ls.take m).drop n, ls.drop m, ?_, rfl, ?_⟩
    · rw [← List.append_assoc, hmiddle, List.take_append_drop]
    · rw [← Grammar.extent_append, hmiddle]
  · refine ⟨ls.take n, [], ls.drop n, (List.take_append_drop n ls).symm, rfl, ?_⟩
    have hback := Grammar.extent_take_le (ls.take n) m
    rw [List.take_take, Nat.min_eq_left hle] at hback
    exact Nat.le_antisymm hback hpq

/-- The lexemes between two boundaries are those of the middle. -/
theorem filter_liesBetween {before middle after : List Lexeme}
    (hpos : ∀ l ∈ before ++ (middle ++ after), 0 < l.length) :
    (placed 0 (before ++ (middle ++ after))).filter
        (liesBetween (extent before) (extent before + extent middle)) =
      placed (extent before) middle := by
  rw [List.forall_mem_append, List.forall_mem_append] at hpos
  obtain ⟨hbefore, -, hafter⟩ := hpos
  rw [Grammar.placed_append, Grammar.placed_append, Nat.zero_add, List.filter_append,
    List.filter_append]
  have hleft : (placed 0 before).filter
      (liesBetween (extent before) (extent before + extent middle)) = [] := by
    apply List.filter_eq_nil_iff.mpr
    intro e he hbetween
    have hlength := hbefore e.2 (Grammar.snd_mem_of_mem_placed he)
    have hends := (Grammar.bounds_of_mem_placed he).2
    have hstarts := (liesBetween_iff.mp hbetween).1
    omega
  have hright : (placed (extent before + extent middle) after).filter
      (liesBetween (extent before) (extent before + extent middle)) = [] := by
    apply List.filter_eq_nil_iff.mpr
    intro e he hbetween
    have hlength := hafter e.2 (Grammar.snd_mem_of_mem_placed he)
    have hstarts := (Grammar.bounds_of_mem_placed he).1
    have hends := (liesBetween_iff.mp hbetween).2
    omega
  have hmiddle : (placed (extent before) middle).filter
      (liesBetween (extent before) (extent before + extent middle)) =
      placed (extent before) middle := by
    apply List.filter_eq_self.mpr
    intro e he
    exact liesBetween_iff.mpr (Grammar.bounds_of_mem_placed he)
  rw [hleft, hmiddle, hright, List.nil_append, List.append_nil]

end Boundaries

/-! ### Rereading -/

/-- Placed lexemes, counted from where the first of them begins. -/
theorem Grammar.map_sub_placed (n : Nat) (ls : List Lexeme) :
    (placed n ls).map (fun e => (e.1 - n, e.2)) = placed 0 ls := by
  have hplaced : placed n ls = (placed 0 ls).map fun e => (n + e.1, e.2) :=
    Grammar.placed_add n 0 ls
  simp [hplaced, Function.comp_def]

theorem Cursor.lexemes_between {s : Source} {p q : Nat} (hp : s.IsBoundary p)
    (hq : s.IsBoundary q) (hpq : p ≤ q) :
    lexemes (start (s.between p q)) =
      .ok (((placed 0 (Grammar.lexemes s.toList)).filter (liesBetween p q)).map
        (fun e => (e.1 - p, e.2)), ⟨s.between p q, q - p⟩) := by
  obtain ⟨before, middle, after, hsplit, rfl, rfl⟩ := hp.split hq hpq
  have hpos : ∀ l ∈ before ++ (middle ++ after), 0 < l.length := by
    rw [← hsplit]
    exact fun _ => Grammar.length_pos_of_mem_lexemes
  have hinside : extent before + extent middle ≤ s.size := by
    rw [← extent_source, hsplit, Grammar.extent_append, Grammar.extent_append]
    omega
  have hmiddle : Grammar.lexemes (s.between (extent before)
      (extent before + extent middle)).toList = middle := by
    rw [Source.toList_between, Nat.add_sub_cancel_left, Grammar.lexemes_drop_take hsplit]
  rw [lexemes_start, hmiddle, Source.size_between hinside, hsplit, filter_liesBetween hpos,
    Grammar.map_sub_placed]

/-- A lexeme is read alone as itself. -/
theorem Grammar.lexemes_of_mem_placed {text : List Char} {e : Nat × Lexeme}
    (h : e ∈ placed 0 (Grammar.lexemes text)) :
    Grammar.lexemes ((text.drop e.1).take e.2.length) = [e.2] := by
  obtain ⟨before, after, hsplit, hstart⟩ := Grammar.mem_placed_iff.mp h
  rw [Nat.zero_add] at hstart
  have halone : Grammar.lexemes ((text.drop (extent before)).take (extent [e.2])) = [e.2] :=
    Grammar.lexemes_drop_take hsplit
  rwa [hstart]

/-- A token is accepted alone, whatever becomes of characters outside the grammar. -/
theorem scan_between_of_mem_rows {again : Policy} {s : Source} {row : Row}
    (hrow : row ∈ (Table.ofLexemes (placed 0 (Grammar.lexemes s.toList))).rows.toList) :
    ∃ alone, scan again (s.between row.start (row.start + row.span)) = .ok alone ∧
      alone.outcome = .ok (.ofRows true [⟨0, row.span, row.kind⟩]) := by
  obtain ⟨e, he, ⟨kind, hkind⟩, rfl⟩ := mem_rows_ofLexemes.mp hrow
  have hlexemes : Grammar.lexemes (s.between e.1 (e.1 + e.2.length)).toList = [e.2] := by
    rw [Source.toList_between, Nat.add_sub_cancel_left, Grammar.lexemes_of_mem_placed he]
  obtain ⟨alone, hscan⟩ := scan_total again (s.between e.1 (e.1 + e.2.length))
  refine ⟨alone, hscan, (scan_accepts_iff hscan).mpr ⟨?_, ?_⟩⟩
  · intro l hl
    rw [hlexemes, List.mem_singleton] at hl
    rw [hl]
    exact Policy.isFatal_of_kind? hkind
  · simp [hlexemes, placed, Table.ofLexemes, Row.ofLexeme, hkind]

/-- **A text may be cut between two lexemes.**  What stands between two boundaries is read
    alone as the lexemes that lie between them, up to its own end.  So is every single
    lexeme, and every token of an accepted source is accepted alone as one row. -/
theorem reread_between_boundaries (s : Source) :
    ∃ es, Cursor.lexemes (Cursor.start s) = .ok (es, ⟨s, s.size⟩) ∧
      (∀ p q, s.IsBoundary p → s.IsBoundary q → p ≤ q →
        Cursor.lexemes (Cursor.start (s.between p q)) =
          .ok ((es.filter (liesBetween p q)).map (fun e => (e.1 - p, e.2)),
            ⟨s.between p q, q - p⟩)) ∧
      (∀ e ∈ es, Cursor.readAll ((s.toList.drop e.1).take e.2.length) = .ok [e.2]) ∧
      ∀ policy report t, scan policy s = .ok report → report.outcome = .ok t →
        ∀ row ∈ t.rows.toList, ∀ again : Policy, ∃ alone,
          scan again (s.between row.start (row.start + row.span)) = .ok alone ∧
            alone.outcome = .ok (.ofRows true [⟨0, row.span, row.kind⟩]) := by
  refine ⟨_, Cursor.lexemes_start s, ?_, ?_, ?_⟩
  · intro p q hp hq hpq
    exact Cursor.lexemes_between hp hq hpq
  · intro e he
    rw [Cursor.readAll_eq, Grammar.lexemes_of_mem_placed he]
    rw [List.length_take, List.length_drop, s.length_toList]
    have hmax : s.size ≤ maxOffset := s.size_le
    omega
  · intro policy report t hscan ht row hrow again
    obtain ⟨-, rfl⟩ := (scan_accepts_iff hscan).mp ht
    exact scan_between_of_mem_rows hrow

/-- A string is cut off from the backslash before it and from the open comment behind it. -/
theorem reread_string_behind_backslash :
    let s := Source.ofString "\\'a\\''--[["
    s.IsBoundary 1 ∧ s.IsBoundary 6 ∧
      Cursor.lexemes (Cursor.start (s.between 1 6)) =
        .ok ([(0, ⟨.string, 5⟩)], ⟨s.between 1 6, 5⟩) := by
  intro s
  have hp : s.IsBoundary 1 := Source.isBoundary_iff.mpr ⟨1, by decide +kernel⟩
  have hq : s.IsBoundary 6 := Source.isBoundary_iff.mpr ⟨2, by decide +kernel⟩
  have hread : Cursor.lexemes (Cursor.start s) =
      .ok ([(0, ⟨.unrecognized, 1⟩), (1, ⟨.string, 5⟩), (6, ⟨.unterminatedBlockComment, 4⟩)],
        ⟨s, s.size⟩) := by
    decide +kernel
  obtain ⟨es, hes, hbetween, -, -⟩ := reread_between_boundaries s
  obtain ⟨rfl, -⟩ := Prod.mk.inj (Except.ok.inj (hes.symm.trans hread))
  exact ⟨hp, hq, hbetween 1 6 hp hq (by decide)⟩

end ScriptTokenizer
