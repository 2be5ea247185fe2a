/-
  ScriptTokenizer/Proofs/GrammarLocality.lean
  ===========================================
  **How far a lexeme looks.**

  Whether a lexeme ends somewhere depends on its own characters and on at most
  one character behind them (`begins_append_iff`).  Which character would draw
  the lexeme further is a matter of its tag alone (`joins`): a run goes on with
  its class, dots with a dot, a minus sign with another one; a line comment goes
  on with anything but a line feed, and what the text ends in the middle of goes
  on with anything.  All other lexemes are complete by themselves.

  The rules for comments look further ahead than one character, but never past
  their own end.  That a `--` is not the beginning of a `--[[` is already known
  from the character behind it, because a line comment ends at line feeds only.
-/
import ScriptTokenizer.Proofs.GrammarRules

namespace ScriptTokenizer.Grammar

/-- Would this character, directly behind a lexeme with this tag, belong to it? -/
def joins (tag : Tag) (c : Char) : Bool :=
  match tag with
  | .word => isWordChar c
  | .number => c.isDigit
  | .spacing => isSpacing c
  | .dot | .dotDot => c == '.'
  | .minus => c == '-'
  | .lineComment => c != '\n'
  | .unterminatedString | .unterminatedBlockComment => true
  | _ => false

/-! ### Texts that go on -/

variable {x y : List Char}

theorem getElem?_length_append : (x ++ y)[x.length]? = y.head? := by
  rw [List.getElem?_append_right (Nat.le_refl _), Nat.sub_self, List.head?_eq_getElem?]

/-- A run ends where its text does, or before a character of another class. -/
theorem runLength_append_eq_iff {p : Char → Bool} :
    runLength p (x ++ y) = x.length ↔
      runLength p x = x.length ∧ ∀ c ∈ y.head?, p c = false := by
  induction x with
  | nil =>
    cases y with
    | nil => simp [runLength]
    | cons c y => cases hc : p c <;> simp [runLength, hc]
  | cons d x ih =>
    rw [List.cons_append, runLength_cons, runLength_cons, List.length_cons]
    cases hd : p d with
    | true => simpa using ih
    | false => simp

theorem closesString_append {quote : Char} {k : Nat} (hk : k < x.length) :
    closesString quote (x ++ y) k = closesString quote x k := by
  unfold closesString
  rw [List.getElem?_append_left hk, List.getElem?_append_left (by omega)]

theorem closesComment_append {k : Nat} (hk : k + 1 < x.length) :
    closesComment (x ++ y) k = closesComment x k := by
  unfold closesComment
  rw [List.getElem?_append_left hk, List.getElem?_append_left (by omega)]

theorem leastIndex?_eq_some_congr {p q : Nat → Bool} {k m n : Nat} (hm : k < m) (hn : k < n)
    (hpq : ∀ j ≤ k, p j = q j) : leastIndex? m p = some k ↔ leastIndex? n q = some k := by
  rw [leastIndex?_eq_some_iff, leastIndex?_eq_some_iff, hpq k (Nat.le_refl k)]
  constructor
  · rintro ⟨-, hk, hfirst⟩
    exact ⟨hn, hk, fun j hj => (hpq j (Nat.le_of_lt hj)).symm.trans (hfirst j hj)⟩
  · rintro ⟨-, hk, hfirst⟩
    exact ⟨hm, hk, fun j hj => (hpq j (Nat.le_of_lt hj)).trans (hfirst j hj)⟩

/-- What closes a string is there without the rest of the text. -/
theorem leastIndex?_closesString_append {quote : Char} {k : Nat} (hk : k < x.length) :
    leastIndex? (x ++ y).length (closesString quote (x ++ y)) = some k ↔
      leastIndex? x.length (closesString quote x) = some k := by
  refine leastIndex?_eq_some_congr ?_ hk ?_
  · rw [List.length_append]
    omega
  · intro j hj
    exact closesString_append (by omega)

theorem leastIndex?_closesComment_append {k : Nat} (hk : k + 1 < x.length) :
    leastIndex? (x ++ y).length (closesComment (x ++ y)) = some k ↔
      leastIndex? x.length (closesComment x) = some k := by
  refine leastIndex?_eq_some_congr ?_ (by omega) ?_
  · rw [List.length_append]
    omega
  · intro j hj
    exact closesComment_append (by omega)

/-- `--[[` does not come about by what follows a line feed. -/
theorem not_blockOpening_append (hline : ['-', '-'] <+: x) (hblock : ¬ ['-', '-', '[', '['] <+: x)
    (hend : ∀ c ∈ y.head?, c = '\n') : ¬ ['-', '-', '[', '['] <+: x ++ y := by
  intro h
  rcases Nat.lt_or_ge x.length 4 with hlt | hge
  · have htwo : 2 ≤ x.length := hline.length_le
    have hbracket : (x ++ y)[x.length]? = some '[' := by
      obtain ⟨z, hz⟩ := h
      rw [← hz]
      obtain hlen | hlen : x.length = 2 ∨ x.length = 3 := by omega
      · rw [hlen]; rfl
      · rw [hlen]; rfl
    rw [getElem?_length_append] at hbracket
    exact absurd (hend '[' hbracket) (by decide)
  · exact hblock (List.prefix_of_prefix_length_le h (List.prefix_append x y) hge)

/-! ### Where a lexeme ends -/

theorem joins_symbol {c : Char} {tag : Tag} (h : (c, tag) ∈ symbols) (d : Char) :
    joins tag d = false := by
  have hall : ∀ e ∈ symbols, joins e.2 d = false := by simp [symbols, joins]
  exact hall (c, tag) h

/-- The character behind a text is not the one that its continuation lacks there. -/
theorem head_ne_of_getElem? {d : Char} {n : Nat} (hn : n = x.length)
    (h : (x ++ y)[n]? ≠ some d) : ∀ c ∈ y.head?, (c == d) = false := by
  intro c hc
  rw [hn, getElem?_length_append] at h
  rw [beq_eq_false_iff_ne]
  rintro rfl
  exact h hc

theorem getElem?_ne_of_head {d : Char} {n : Nat} (hn : n = x.length)
    (h : ∀ c ∈ y.head?, (c == d) = false) : (x ++ y)[n]? ≠ some d := by
  rw [hn, getElem?_length_append]
  intro hd
  exact absurd (h d hd) (by simp)

/-- A lexeme that a text begins with is there without the rest of the text. -/
theorem Begins.of_append {tag : Tag} {n : Nat} (h : Begins (x ++ y) tag n) (hn : n = x.length) :
    Begins x tag n ∧ ∀ c ∈ y.head?, joins tag c = false := by
  have hpos : 0 < x.length := by
    have := h.length_pos
    omega
  have hzero : (x ++ y)[0]? = x[0]? := List.getElem?_append_left hpos
  cases h with
  | newline hfirst => exact ⟨.newline (hzero ▸ hfirst), fun _ _ => rfl⟩
  | symbol hfirst hmem => exact ⟨.symbol (hzero ▸ hfirst) hmem, fun c _ => joins_symbol hmem c⟩
  | unrecognized hfirst hline hword hdigit hspacing hsingle hdouble hsymbol hdot hminus =>
    exact ⟨.unrecognized (hzero ▸ hfirst) hline hword hdigit hspacing hsingle hdouble hsymbol hdot
      hminus, fun _ _ => rfl⟩
  | word =>
    obtain ⟨hx, hend⟩ := runLength_append_eq_iff.mp hn
    rw [hn, ← hx]
    exact ⟨.word (by omega), hend⟩
  | number =>
    obtain ⟨hx, hend⟩ := runLength_append_eq_iff.mp hn
    rw [hn, ← hx]
    exact ⟨.number (by omega), hend⟩
  | spacing =>
    obtain ⟨hx, hend⟩ := runLength_append_eq_iff.mp hn
    rw [hn, ← hx]
    exact ⟨.spacing (by omega), hend⟩
  | string hfirst hquote hk =>
    have hk' := (leastIndex?_closesString_append (by omega)).mp hk
    exact ⟨.string (hzero ▸ hfirst) hquote hk', fun _ _ => rfl⟩
  | unterminatedString hfirst hquote hnone =>
    obtain rfl : y = [] := by simpa using hn
    rw [List.append_nil] at hfirst hnone ⊢
    exact ⟨.unterminatedString hfirst hquote hnone, by simp⟩
  | dot hfirst hsecond =>
    refine ⟨.dot (hzero ▸ hfirst) ?_, head_ne_of_getElem? hn hsecond⟩
    rw [List.getElem?_eq_none (by omega)]
    simp
  | dotDot hfirst hsecond hthird =>
    rw [List.getElem?_append_left (by omega)] at hsecond
    refine ⟨.dotDot (hzero ▸ hfirst) hsecond ?_, head_ne_of_getElem? hn hthird⟩
    rw [List.getElem?_eq_none (by omega)]
    simp
  | dotDotDot hfirst hsecond hthird =>
    rw [List.getElem?_append_left (by omega)] at hsecond hthird
    exact ⟨.dotDotDot (hzero ▸ hfirst) hsecond hthird, fun _ _ => rfl⟩
  | minus hfirst hsecond =>
    refine ⟨.minus (hzero ▸ hfirst) ?_, head_ne_of_getElem? hn hsecond⟩
    rw [List.getElem?_eq_none (by omega)]
    simp
  | lineComment hline hblock =>
    obtain ⟨hx, hend⟩ := runLength_append_eq_iff.mp hn
    have htwo : 2 ≤ x.length := by
      obtain ⟨z, hz⟩ := hline
      rw [← hn, ← hz]
      simp [runLength_cons]
    have hline' := List.prefix_of_prefix_length_le hline (List.prefix_append x y) htwo
    have hblock' : ¬ ['-', '-', '[', '['] <+: x :=
      fun h => hblock (h.trans (List.prefix_append x y))
    rw [hn, ← hx]
    exact ⟨.lineComment hline' hblock', hend⟩
  | blockComment hblock hk =>
    have hfour : 4 ≤ x.length := by
      have hcloses := closesComment_iff.mp (leastIndex?_eq_some_iff.mp hk).2.1
      omega
    have hblock' := List.prefix_of_prefix_length_le hblock (List.prefix_append x y) hfour
    have hk' := (leastIndex?_closesComment_append (by omega)).mp hk
    exact ⟨.blockComment hblock' hk', fun _ _ => rfl⟩
  | unterminatedBlockComment hblock hnone =>
    obtain rfl : y = [] := by simpa using hn
    rw [List.append_nil] at hblock hnone ⊢
    exact ⟨.unterminatedBlockComment hblock hnone, by simp⟩

/-- The lexeme at the start of a text, and what stands behind it. -/
theorem Begins.take_drop {text : List Char} {tag : Tag} {n : Nat} (h : Begins text tag n) :
    Begins (text.take n) tag n ∧ ∀ c ∈ (text.drop n).head?, joins tag c = false := by
  have hlength : (text.take n).length = n := List.length_take_of_le h.length_le
  refine Begins.of_append ?_ hlength.symm
  rwa [List.take_append_drop]

theorem eq_nil_of_joins (h : ∀ c ∈ y.head?, true = false) : y = [] := by
  cases y with
  | nil => rfl
  | cons c y => exact absurd (h c rfl) (by simp)

theorem Begins.append {tag : Tag} {n : Nat} (h : Begins x tag n) (hn : n = x.length)
    (hend : ∀ c ∈ y.head?, joins tag c = false) : Begins (x ++ y) tag n := by
  have hpos : 0 < x.length := List.length_pos_iff.mpr h.ne_nil
  have hzero : (x ++ y)[0]? = x[0]? := List.getElem?_append_left hpos
  cases h with
  | newline hfirst => exact .newline (hzero.trans hfirst)
  | symbol hfirst hmem => exact .symbol (hzero.trans hfirst) hmem
  | unrecognized hfirst hline hword hdigit hspacing hsingle hdouble hsymbol hdot hminus =>
    exact .unrecognized (hzero.trans hfirst) hline hword hdigit hspacing hsingle hdouble hsymbol
      hdot hminus
  | word =>
    have hrun := runLength_append_eq_iff.mpr ⟨hn, hend⟩
    rw [hn, ← hrun]
    exact .word (by omega)
  | number =>
    have hrun := runLength_append_eq_iff.mpr ⟨hn, hend⟩
    rw [hn, ← hrun]
    exact .number (by omega)
  | spacing =>
    have hrun := runLength_append_eq_iff.mpr ⟨hn, hend⟩
    rw [hn, ← hrun]
    exact .spacing (by omega)
  | string hfirst hquote hk =>
    have hk' := (leastIndex?_closesString_append (y := y) (by omega)).mpr hk
    exact .string (hzero.trans hfirst) hquote hk'
  | unterminatedString hfirst hquote hnone =>
    obtain rfl := eq_nil_of_joins hend
    rw [List.append_nil]
    exact .unterminatedString hfirst hquote hnone
  | dot hfirst => exact .dot (hzero.trans hfirst) (getElem?_ne_of_head hn hend)
  | dotDot hfirst hsecond =>
    refine .dotDot (hzero.trans hfirst) ?_ (getElem?_ne_of_head hn hend)
    rwa [List.getElem?_append_left (by omega)]
  | dotDotDot hfirst hsecond hthird =>
    refine .dotDotDot (hzero.trans hfirst) ?_ ?_
    · rwa [List.getElem?_append_left (by omega)]
    · rwa [List.getElem?_append_left (by omega)]
  | minus hfirst => exact .minus (hzero.trans hfirst) (getElem?_ne_of_head hn hend)
  | lineComment hline hblock =>
    have hrun := runLength_append_eq_iff.mpr ⟨hn, hend⟩
    rw [hn, ← hrun]
    refine .lineComment (hline.trans (List.prefix_append x y)) ?_
    refine not_blockOpening_append hline hblock ?_
    intro c hc
    simpa [joins] using hend c hc
  | blockComment hblock hk =>
    have hk' := (leastIndex?_closesComment_append (y := y) (by omega)).mpr hk
    exact .blockComment (hblock.trans (List.prefix_append x y)) hk'
  | unterminatedBlockComment hblock hnone =>
    obtain rfl := eq_nil_of_joins hend
    rw [List.append_nil]
    exact .unterminatedBlockComment hblock hnone

/-- **A lexeme ends where the next character does not join it.** -/
theorem begins_append_iff {tag : Tag} :
    Begins (x ++ y) tag x.length ↔
      Begins x tag x.length ∧ ∀ c ∈ y.head?, joins tag c = false := by
  constructor
  · intro h
    exact h.of_append rfl
  · rintro ⟨h, hend⟩
    exact h.append rfl hend

end ScriptTokenizer.Grammar
