/-
  ScriptTokenizer/Lexeme/Reading.lean
  ===================================
  **Reading lexemes off a cursor.**

  Every lexeme consumes its first character, and that character alone decides
  which rule reads the rest (`tagAfter`).  So one step (`next`) either stands at
  the end of the text or moves forward, and reading a whole text (`lexemes`)
  ends; `next_progress` is the fact behind it.

  No rule knows how long the text is.  Runs of characters stop at the padding
  because NUL belongs to none of them; strings and comments, in which a NUL is
  a character like any other, ask the cursor whether it is the end.
-/
import ScriptTokenizer.Cursor
import ScriptTokenizer.Lexeme
import ScriptTokenizer.Text.Alphabetic
import ScriptTokenizer.Text.Blank

namespace ScriptTokenizer

namespace Cursor

/-! ### What follows the first character -/

/-- Does a string end here?  A quote that a backslash stands directly before does
    not close it; the end of the text does. -/
def stopsString (quote ch : Char) : Reading Bool := do
  if ch == quote then return (← previous) != '\\'
  else atEnd

/-- The rest of a string: up to and with the quote that closes it. -/
def readString (quote : Char) : Reading Tag := do
  seek (stopsString quote)
  if ← atEnd then return .unterminatedString
  advance
  return .string

/-- The rest of a run of dots, of which at most three belong together. -/
def readDots : Reading Tag := do
  if (← current) != '.' then return .dot
  advance
  if (← current) != '.' then return .dotDot
  advance
  return .dotDotDot

/-- Does a block comment end here, before a `]]` or with the text? -/
def stopsBlockComment (ch : Char) : Reading Bool := do
  if ch == ']' then return (← peek) == ']'
  else atEnd

/-- The rest of a block comment: up to and with the next `]]`. -/
def readBlockComment : Reading Tag := do
  seek stopsBlockComment
  if ← atEnd then return .unterminatedBlockComment
  advanceBy 2
  return .blockComment

/-- Does the cursor stand before `[[`? -/
def atBlockOpening : Reading Bool := do
  if (← current) == '[' then return (← peek) == '['
  else return false

/-- What a first `-` begins: a comment if a second one follows. -/
def readMinus : Reading Tag := do
  if (← current) != '-' then return .minus
  advance
  if ← atBlockOpening then
    advanceBy 2
    readBlockComment
  else
    eatLine
    return .lineComment

/-- The rest of the lexeme that begins with the character just passed. -/
def tagAfter (first : Char) : Reading Tag :=
  if first == '\n' then return .newline
  else if isWordChar first then do
    eatWhile isWordChar
    return .word
  else if first.isDigit then do
    eatWhile Char.isDigit
    return .number
  else if isQuote first then readString first
  else match Tag.ofSymbol? first with
    | some tag => return tag
    | none =>
      if first == '.' then readDots
      else if first == '-' then readMinus
      else if isSpacing first then do
        eatWhile isSpacing
        return .spacing
      else return .unrecognized

/-- Read one lexeme.  At the end of the text that is `eof`, again and again. -/
def next : Reading Lexeme := do
  let before ← position
  let first ← current
  if ← atEnd then return ⟨.eof, 0⟩
  advance
  let tag ← tagAfter first
  return ⟨tag, (← position) - before⟩

/-! ### A step that is not the end moves forward -/

theorem movesBy_readString (quote : Char) : MovesBy 0 (readString quote) :=
  (movesBy_seek _).bindLook fun _ => movesBy_atEnd.bindLook fun _ =>
    MovesBy.ite (MovesBy.pure _)
      (((movesBy_advanceBy 1).bind fun _ => MovesBy.pure _).weaken (Nat.zero_le _))

theorem movesBy_readDots : MovesBy 0 readDots :=
  movesBy_current.bindLook fun _ => MovesBy.ite (MovesBy.pure _)
    (((movesBy_advanceBy 1).bind fun _ => movesBy_current.bindLook fun _ =>
      MovesBy.ite (MovesBy.pure _)
        (((movesBy_advanceBy 1).bind fun _ => MovesBy.pure _).weaken (Nat.zero_le _))).weaken
      (Nat.zero_le _))

theorem movesBy_readBlockComment : MovesBy 0 readBlockComment :=
  (movesBy_seek _).bindLook fun _ => movesBy_atEnd.bindLook fun _ =>
    MovesBy.ite (MovesBy.pure _)
      (((movesBy_advanceBy 2).bind fun _ => MovesBy.pure _).weaken (Nat.zero_le _))

theorem movesBy_atBlockOpening : MovesBy 0 atBlockOpening :=
  movesBy_current.bindLook fun _ =>
    MovesBy.ite (movesBy_peek.bindLook fun _ => MovesBy.pure _) (MovesBy.pure _)

theorem movesBy_readMinus : MovesBy 0 readMinus :=
  movesBy_current.bindLook fun _ => MovesBy.ite (MovesBy.pure _)
    (((movesBy_advanceBy 1).bind fun _ => movesBy_atBlockOpening.bindLook fun _ =>
      MovesBy.ite
        (((movesBy_advanceBy 2).bind fun _ => movesBy_readBlockComment).weaken (Nat.zero_le _))
        (movesBy_eatLine.bindLook fun _ => MovesBy.pure _)).weaken (Nat.zero_le _))

theorem movesBy_tagAfter (first : Char) : MovesBy 0 (tagAfter first) := by
  unfold tagAfter
  refine MovesBy.ite (MovesBy.pure _) ?_
  refine MovesBy.ite ((movesBy_eatWhile _).bindLook fun _ => MovesBy.pure _) ?_
  refine MovesBy.ite ((movesBy_eatWhile _).bindLook fun _ => MovesBy.pure _) ?_
  refine MovesBy.ite (movesBy_readString first) ?_
  cases Tag.ofSymbol? first with
  | some tag => exact MovesBy.pure tag
  | none =>
    refine MovesBy.ite movesBy_readDots ?_
    refine MovesBy.ite movesBy_readMinus ?_
    exact MovesBy.ite ((movesBy_eatWhile _).bindLook fun _ => MovesBy.pure _) (MovesBy.pure _)

/-- What is left of a step once it is known not to stand at the end. -/
theorem movesBy_advance_tagAfter (before : Nat) (first : Char) :
    MovesBy 1 (do
      advance
      let tag ← tagAfter first
      return (⟨tag, (← position) - before⟩ : Lexeme) : Reading Lexeme) :=
  (movesBy_advanceBy 1).bind fun _ => (movesBy_tagAfter first).bindLook fun _ =>
    movesBy_position.bindLook fun _ => MovesBy.pure _

/-- **Progress.**  A step within the padded text reads the end, or moves forward
    in the same source. -/
theorem next_progress {c c' : Cursor} {lexeme : Lexeme} (h : next c = .ok lexeme c') :
    c.pos < c.source.size + padding ∧
      (lexeme.tag = .eof ∨ c'.source = c.source ∧ c.pos < c'.pos) := by
  simp only [next, Bind.bind, EStateM.bind, position] at h
  rcases hcur : current c with ⟨first, c₁⟩ | ⟨fault, c₁⟩
  · obtain ⟨hfirst, rfl⟩ := look_eq_ok_iff.mp hcur
    refine ⟨Source.lt_of_padded?_eq_some hfirst, ?_⟩
    rw [hcur] at h
    rcases hend : atEnd c with ⟨ended, c₂⟩ | ⟨fault, c₂⟩
    · obtain ⟨hsource, hpos⟩ := movesBy_atEnd c ended c₂ hend
      simp only [hend] at h
      cases ended with
      | true =>
        cases h
        exact Or.inl rfl
      | false =>
        obtain ⟨hsource', hpos'⟩ := movesBy_advance_tagAfter c.pos first c₂ lexeme c' h
        exact Or.inr ⟨hsource'.trans hsource, by omega⟩
    · simp only [hend] at h
      cases h
  · rw [hcur] at h
    cases h

/-! ### Reading to the end -/

/-- All lexemes from the cursor on, each with the position where it begins, and
    the cursor at the end of the text.  The end itself is not listed. -/
def lexemes (c : Cursor) : Except Fault (List (Nat × Lexeme) × Cursor) :=
  match _h : next c with
  | .error fault _ => .error fault
  | .ok lexeme c' =>
    if _htag : lexeme.tag = .eof then .ok ([], c')
    else
      match lexemes c' with
      | .error fault => .error fault
      | .ok (rest, last) => .ok ((c.pos, lexeme) :: rest, last)
termination_by c.source.size + padding - c.pos
decreasing_by
  obtain ⟨hlt, htag | ⟨hsource, hpos⟩⟩ := next_progress _h
  · contradiction
  · rw [hsource]
    omega

end Cursor

end ScriptTokenizer
