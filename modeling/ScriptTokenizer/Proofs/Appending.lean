/-
  ScriptTokenizer/Proofs/Appending.lean
  =====================================
  **Text that is appended reaches the last lexeme only.**

  Reading decides on a lexeme before it has seen more than one character behind
  it.  Where another lexeme follows, that character is there already, and no
  text at the far end can change it.  So appending text keeps all lexemes but
  the last, and the last one too if nothing joins it: a string or a comment that
  was closed, the longest run of dots, a lexeme of one character
  (`Tag.isComplete`).

  A character outside the grammar is of this last kind.  Once it has made a text
  unacceptable, no continuation makes it acceptable again, nor is there another
  error to be reported first (`appending_reaches_last_lexeme`).
-/
import ScriptTokenizer.Proofs.Fragments
import ScriptTokenizer.Proofs.PolicyComparison

namespace ScriptTokenizer

open Grammar (placed extent)

/-! ### Lexemes of a text that goes on -/

/-- A lexeme with this tag ends where it does, whatever stands behind it. -/
def Tag.isComplete : Tag → Bool
  | .string | .blockComment | .dotDotDot | .newline | .unrecognized => true
  | .leftBrace | .rightBrace | .leftParen | .rightParen | .leftBracket | .rightBracket => true
  | .colon | .question | .semicolon | .comma | .hash => true
  | .equal | .plus | .star | .bang | .tilde => true
  | _ => false

namespace Grammar

theorem joins_of_isComplete {tag : Tag} (h : tag.isComplete = true) (c : Char) :
    joins tag c = false := by
  cases tag with
  | word | number | spacing | dot | dotDot | minus | lineComment => cases h
  | unterminatedString | unterminatedBlockComment | eof => cases h
  | _ => rfl

variable {x : List Char} {before after : List Lexeme} {l : Lexeme}

/-- Up to a complete lexeme, all lexemes are read again. -/
theorem lexemes_append_of_isComplete (h : lexemes x = before ++ l :: after)
    (hl : l.tag.isComplete = true) (y : List Char) :
    lexemes (x ++ y) =
      before ++ l :: lexemes (x.drop (extent (before ++ [l])) ++ y) := by
  rw [← List.singleton_append, ← List.append_assoc] at h
  have htake := lexemes_take h
  have hlast : ∀ before' l', lexemes (x.take (extent (before ++ [l]))) = before' ++ [l'] →
      ∀ c ∈ (x.drop (extent (before ++ [l])) ++ y).head?, joins l'.tag c = false := by
    intro before' l' hl' c _
    obtain ⟨-, hsame⟩ := List.append_inj' (htake.symm.trans hl') rfl
    obtain ⟨rfl, -⟩ := List.cons.inj hsame
    exact joins_of_isComplete hl c
  have happend := lexemes_append hlast
  rw [htake, ← List.append_assoc, List.take_append_drop] at happend
  rw [happend, List.append_assoc, List.singleton_append]

/-- All lexemes but the last are read again. -/
theorem dropLast_lexemes_prefix (x y : List Char) :
    (lexemes x).dropLast <+: lexemes (x ++ y) := by
  rcases List.eq_nil_or_concat' (lexemes x) with hnil | ⟨before, l, hconcat⟩
  · rw [hnil]
    exact List.nil_prefix
  · have hne : x.drop (extent before) ≠ [] := (begins_of_split hconcat).1.ne_nil
    have hhead : ∀ c ∈ (x.drop (extent before) ++ y).head?,
        c ∈ (x.drop (extent before)).head? := by
      intro c hc
      rwa [List.head?_append_of_ne_nil _ hne] at hc
    have happend := lexemes_take_append hconcat hhead
    rw [← List.append_assoc, List.take_append_drop] at happend
    rw [hconcat, List.dropLast_concat, happend]
    exact List.prefix_append _ _

/-- So is the last one if it is complete. -/
theorem lexemes_prefix_of_isComplete (hl : l ∈ (lexemes x).getLast?)
    (hcomplete : l.tag.isComplete = true) (y : List Char) :
    lexemes x <+: lexemes (x ++ y) := by
  obtain ⟨before, hconcat⟩ := List.getLast?_eq_some_iff.mp hl
  rw [lexemes_append_of_isComplete hconcat hcomplete, hconcat]
  exact ⟨_, (List.append_cons before l _).symm⟩

end Grammar

/-! ### Errors of a text that goes on -/

section Errors

variable {policy : Policy} {s t : Source} {y : List Char} {before after : List Lexeme}
  {l : Lexeme} {e : ScanError}

theorem Source.lineColumn_append (ht : t.toList = s.toList ++ y) {offset : Nat}
    (h : offset < s.size) : t.lineColumn offset = s.lineColumn offset := by
  have hsize : t.size = s.size + y.length := by
    rw [← t.length_toList, ht, List.length_append, s.length_toList]
  rw [Source.lineColumn_of_lt h, Source.lineColumn_of_lt (by omega), ht,
    List.take_append_of_le_length (by rw [s.length_toList]; omega)]

theorem Source.charAt?_append (ht : t.toList = s.toList ++ y) {offset : Nat}
    (h : offset < s.size) : t.charAt? offset = s.charAt? offset := by
  rw [← s.length_toList] at h
  rw [Source.charAt?_eq, ht, List.getElem?_append_left h, Source.charAt?_eq]

/-- Where the first fatal lexeme is complete, it stays the first one. -/
theorem FirstFatal.append (ht : t.toList = s.toList ++ y)
    (h : FirstFatal policy s before l after e) (hl : l.tag.isComplete = true) :
    FirstFatal policy t before l
      (Grammar.lexemes (s.toList.drop (extent (before ++ [l])) ++ y)) e where
  split := by rw [ht, Grammar.lexemes_append_of_isComplete h.split hl]
  clean := h.clean
  fatal := h.fatal
  start := h.start
  location := by rw [Source.lineColumn_append ht h.start_lt_size, h.location]
  cause := h.cause.of_charAt?_eq (Source.charAt?_append ht h.start_lt_size)

end Errors

/-! ### Appending -/

/-- **Text that is appended reaches the last lexeme only.**  All other lexemes are read
    again, at the same positions, and so is the last one if it is complete.  A text that is
    rejected for a character outside the grammar stays rejected, with the same error. -/
theorem appending_reaches_last_lexeme {a b : String} (hlength : a.length + b.length ≤ maxOffset) :
    ∃ es fs,
      Cursor.lexemes (Cursor.start (Source.ofString a)) =
        .ok (es, ⟨Source.ofString a, a.length⟩) ∧
      Cursor.lexemes (Cursor.start (Source.ofString (a ++ b))) =
        .ok (fs, ⟨Source.ofString (a ++ b), a.length + b.length⟩) ∧
      es.dropLast <+: fs ∧
      (∀ e ∈ es.getLast?, e.2.tag.isComplete = true → es <+: fs) ∧
      ∀ e, tokenize .reject a = .ok (.error e) → e.cause.IsUnrecognized →
        tokenize .reject (a ++ b) = .ok (.error e) := by
  have ha : a.length ≤ maxOffset := by omega
  have hab : (a ++ b).length ≤ maxOffset := by
    rw [String.length_append]
    exact hlength
  have happend : (Source.ofString (a ++ b)).toList = (Source.ofString a).toList ++ b.toList := by
    rw [Source.toList_ofString hab, Source.toList_ofString ha, String.toList_append]
  have hread := Cursor.lexemes_start (Source.ofString a)
  have hread' := Cursor.lexemes_start (Source.ofString (a ++ b))
  rw [Source.size_ofString ha] at hread
  rw [Source.size_ofString hab, String.length_append, happend] at hread'
  refine ⟨_, _, hread, hread', ?_, ?_, ?_⟩
  · rw [Grammar.dropLast_placed]
    exact Grammar.placed_prefix (Grammar.dropLast_lexemes_prefix _ _)
  · intro e he hcomplete
    apply Grammar.placed_prefix
    refine Grammar.lexemes_prefix_of_isComplete (l := e.2) ?_ hcomplete _
    rw [← Grammar.map_snd_placed 0 (Grammar.lexemes _), List.getLast?_map]
    exact Option.mem_map_of_mem Prod.snd he
  · intro e he hcause
    obtain ⟨before, l, after, hfirst⟩ := tokenize_eq_error_iff.mp he
    have htag : l.tag = .unrecognized := hfirst.cause.isUnrecognized_iff.mp hcause
    have hcomplete : l.tag.isComplete = true := by
      rw [htag]
      rfl
    exact tokenize_eq_error_iff.mpr ⟨_, _, _, hfirst.append happend hcomplete⟩

/-- Brackets behind a line comment make another comment of it, and of nothing else. -/
theorem appending_brackets_to_comment :
    let a := "x\\ --"
    let e : ScanError := ⟨.unrecognized '\\', 1, ⟨1, 1⟩⟩
    a.length + "[[".length ≤ maxOffset ∧
      (∃ fs, Cursor.lexemes (Cursor.start (Source.ofString (a ++ "[["))) =
          .ok (fs, ⟨Source.ofString (a ++ "[["), a.length + "[[".length⟩) ∧
        [(0, ⟨.word, 1⟩), (1, ⟨.unrecognized, 1⟩), (2, ⟨.spacing, 1⟩)] <+: fs) ∧
      tokenize .reject a = .ok (.error e) ∧ tokenize .reject (a ++ "[[") = .ok (.error e) := by
  intro a e
  have hlength : a.length + "[[".length ≤ maxOffset := by decide
  have hread : Cursor.lexemes (Cursor.start (Source.ofString a)) =
      .ok ([(0, ⟨.word, 1⟩), (1, ⟨.unrecognized, 1⟩), (2, ⟨.spacing, 1⟩), (3, ⟨.lineComment, 2⟩)],
        ⟨Source.ofString a, a.length⟩) := by
    decide +kernel
  have herror : tokenize .reject a = .ok (.error e) := by decide +kernel
  obtain ⟨es, fs, hes, hfs, hkept, -, hsame⟩ := appending_reaches_last_lexeme hlength
  obtain ⟨rfl, -⟩ := Prod.mk.inj (Except.ok.inj (hes.symm.trans hread))
  exact ⟨hlength, ⟨fs, hfs, hkept⟩, herror, hsame e herror ⟨'\\', rfl⟩⟩

end ScriptTokenizer
