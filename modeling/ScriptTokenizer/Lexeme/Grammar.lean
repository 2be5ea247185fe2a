/-
  ScriptTokenizer/Lexeme/Grammar.lean
  ===================================
  **The lexical grammar, as a function of the text that is left.**

  What lexeme a text begins with is said here without a cursor, without padding
  and without an end that has to be detected: by the longest run of a class of
  characters, by a fixed beginning, or by the least index at which a closing
  mark stands.  Reading lexemes off a cursor is a way to compute this.
-/
import ScriptTokenizer.Lexeme
import ScriptTokenizer.Text.Alphabetic
import ScriptTokenizer.Text.Blank

namespace ScriptTokenizer.Grammar

/-- The least index below a bound that satisfies a condition. -/
def leastIndex? (bound : Nat) (p : Nat → Bool) : Option Nat := (List.range bound).find? p

theorem leastIndex?_eq_some_iff {bound k : Nat} {p : Nat → Bool} :
    leastIndex? bound p = some k ↔ k < bound ∧ p k = true ∧ ∀ j < k, p j = false := by
  unfold leastIndex?
  rw [List.find?_range_eq_some]
  simp only [Bool.not_eq_true', List.mem_range]
  constructor
  · rintro ⟨hp, hk, hleast⟩
    exact ⟨hk, hp, hleast⟩
  · rintro ⟨hk, hp, hleast⟩
    exact ⟨hp, hk, hleast⟩

theorem leastIndex?_eq_none_iff {bound : Nat} {p : Nat → Bool} :
    leastIndex? bound p = none ↔ ∀ j < bound, p j = false := by
  unfold leastIndex?
  rw [List.find?_range_eq_none]
  simp only [Bool.not_eq_true']

/-- The longest run at the start of a text of characters of one class. -/
def runLength (p : Char → Bool) (text : List Char) : Nat := (text.takeWhile p).length

theorem runLength_cons (p : Char → Bool) (c : Char) (rest : List Char) :
    runLength p (c :: rest) = if p c then runLength p rest + 1 else 0 := by
  unfold runLength
  rw [List.takeWhile_cons]
  split <;> rfl

theorem runLength_le (p : Char → Bool) (text : List Char) : runLength p text ≤ text.length :=
  (List.takeWhile_prefix p).length_le

/-- Within its length, a run holds characters of its class only. -/
theorem holds_of_lt_runLength {p : Char → Bool} {text : List Char} {k : Nat} {c : Char}
    (hk : k < runLength p text) (hc : text[k]? = some c) : p c = true := by
  induction text generalizing k with
  | nil => cases hc
  | cons d rest ih =>
    rw [runLength_cons] at hk
    cases hd : p d with
    | true =>
      rw [if_pos hd] at hk
      cases k with
      | zero =>
        cases hc
        exact hd
      | succ k => exact ih (Nat.lt_of_succ_lt_succ hk) hc
    | false =>
      rw [hd, if_neg Bool.false_ne_true] at hk
      cases hk

/-- The character behind a run does not belong to its class. -/
theorem fails_at_runLength {p : Char → Bool} {text : List Char} {c : Char}
    (hc : text[runLength p text]? = some c) : p c = false := by
  induction text with
  | nil => cases hc
  | cons d rest ih =>
    rw [runLength_cons] at hc
    cases hd : p d with
    | true =>
      rw [if_pos hd, List.getElem?_cons_succ] at hc
      exact ih hc
    | false =>
      rw [hd, if_neg Bool.false_ne_true, List.getElem?_cons_zero] at hc
      cases hc
      exact hd

/-- Index `k` of a text that begins with a quote holds a quote that closes it. -/
def closesString (quote : Char) (text : List Char) (k : Nat) : Bool :=
  1 ≤ k && text[k]? == some quote && text[k - 1]? != some '\\'

/-- Index `k` of a text that begins with `--[[` holds the `]]` that closes it. -/
def closesComment (text : List Char) (k : Nat) : Bool :=
  4 ≤ k && text[k]? == some ']' && text[k + 1]? == some ']'

theorem closesString_iff {quote : Char} {text : List Char} {k : Nat} :
    closesString quote text k = true ↔
      1 ≤ k ∧ text[k]? = some quote ∧ text[k - 1]? ≠ some '\\' := by
  simp only [closesString, Bool.and_eq_true, decide_eq_true_eq, beq_iff_eq, bne_iff_ne, and_assoc]

theorem closesComment_iff {text : List Char} {k : Nat} :
    closesComment text k = true ↔ 4 ≤ k ∧ text[k]? = some ']' ∧ text[k + 1]? = some ']' := by
  simp only [closesComment, Bool.and_eq_true, decide_eq_true_eq, beq_iff_eq, and_assoc]

/-- The string at the start of a text that begins with a quote. -/
def string (quote : Char) (text : List Char) : Lexeme :=
  match leastIndex? text.length (closesString quote text) with
  | some k => ⟨.string, k + 1⟩
  | none => ⟨.unterminatedString, text.length⟩

/-- The block comment at the start of a text that begins with `--[[`. -/
def blockComment (text : List Char) : Lexeme :=
  match leastIndex? text.length (closesComment text) with
  | some k => ⟨.blockComment, k + 2⟩
  | none => ⟨.unterminatedBlockComment, text.length⟩

/-- The dots at the start of a text that begins with one. -/
def dots (text : List Char) : Lexeme :=
  if ['.', '.', '.'].isPrefixOf text then ⟨.dotDotDot, 3⟩
  else if ['.', '.'].isPrefixOf text then ⟨.dotDot, 2⟩
  else ⟨.dot, 1⟩

/-- The minus sign or comment at the start of a text that begins with `-`. -/
def minus (text : List Char) : Lexeme :=
  if ['-', '-', '[', '['].isPrefixOf text then blockComment text
  else if ['-', '-'].isPrefixOf text then ⟨.lineComment, runLength (· != '\n') text⟩
  else ⟨.minus, 1⟩

/-- The characters that are lexemes by themselves, each with its tag. -/
def symbols : List (Char × Tag) :=
  [('{', .leftBrace), ('}', .rightBrace), ('(', .leftParen), (')', .rightParen),
   ('[', .leftBracket), (']', .rightBracket), (':', .colon), ('?', .question),
   (';', .semicolon), (',', .comma), ('#', .hash), ('=', .equal), ('+', .plus),
   ('*', .star), ('!', .bang), ('~', .tilde)]

/-- The lexeme at the start of a text that begins with the character `c`. -/
def lexemeFrom (c : Char) (text : List Char) : Lexeme :=
  if c == '\n' then ⟨.newline, 1⟩
  else if isWordChar c then ⟨.word, runLength isWordChar text⟩
  else if c.isDigit then ⟨.number, runLength Char.isDigit text⟩
  else if c == '\'' || c == '"' then string c text
  else match symbols.lookup c with
    | some tag => ⟨tag, 1⟩
    | none =>
      if c == '.' then dots text
      else if c == '-' then minus text
      else if isSpacing c then ⟨.spacing, runLength isSpacing text⟩
      else ⟨.unrecognized, 1⟩

/-- The lexeme that a text begins with. -/
def lexeme : List Char → Lexeme
  | [] => ⟨.eof, 0⟩
  | c :: rest => lexemeFrom c (c :: rest)

theorem lexeme_cons (c : Char) (rest : List Char) :
    lexeme (c :: rest) = lexemeFrom c (c :: rest) := rfl

/-! ### Every lexeme but the end has characters -/

theorem runLength_pos {p : Char → Bool} {c : Char} {rest : List Char} (h : p c = true) :
    0 < runLength p (c :: rest) := by
  simp [runLength, h]

theorem string_length_pos (quote c : Char) (rest : List Char) :
    0 < (string quote (c :: rest)).length := by
  unfold string
  split <;> simp

theorem blockComment_length_pos (c : Char) (rest : List Char) :
    0 < (blockComment (c :: rest)).length := by
  unfold blockComment
  split <;> simp

theorem dots_length_pos (text : List Char) : 0 < (dots text).length := by
  unfold dots
  split
  · simp
  · split <;> simp

theorem minus_length_pos (rest : List Char) : 0 < (minus ('-' :: rest)).length := by
  unfold minus
  split
  · exact blockComment_length_pos '-' rest
  · split
    · exact runLength_pos (by decide)
    · simp

theorem lexeme_length_pos (c : Char) (rest : List Char) : 0 < (lexeme (c :: rest)).length := by
  simp only [lexeme, lexemeFrom]
  split
  · simp
  split
  · next h => exact runLength_pos h
  split
  · next h => exact runLength_pos h
  split
  · exact string_length_pos c c rest
  split
  · simp
  split
  · exact dots_length_pos (c :: rest)
  split
  · next h =>
    have hc : c = '-' := by simpa using h
    rw [hc]
    exact minus_length_pos rest
  split
  · next h => exact runLength_pos h
  · simp

/-- All lexemes of a text, in order. -/
def lexemes (text : List Char) : List Lexeme :=
  match text with
  | [] => []
  | c :: rest => lexeme (c :: rest) :: lexemes ((c :: rest).drop (lexeme (c :: rest)).length)
termination_by text.length
decreasing_by
  have := lexeme_length_pos c rest
  simp only [List.length_drop, List.length_cons]
  omega

/-- Lexemes that follow each other from a position on, each with the position where
    it begins. -/
def placed (p : Nat) : List Lexeme → List (Nat × Lexeme)
  | [] => []
  | l :: rest => (p, l) :: placed (p + l.length) rest

end ScriptTokenizer.Grammar
