/-
  ScriptTokenizer/Proofs/GrammarRules.lean
  ========================================
  **The lexical grammar as a set of rules.**

  `Grammar.lexeme` computes the lexeme that a text begins with by trying one
  rule after the other.  `Begins` states the rules side by side: one
  constructor for each shape of lexeme, with all that the shape demands of the
  text and nothing about the rules before it.  The two are the same relation
  (`begins_iff`), so at most one rule applies to a text, and one always does.

  Whatever is to be proved of every lexeme is proved by cases on its rule.  The
  facts of this kind that need no context stand here: a lexeme lies within its
  text, it has characters, and it is not the end.
-/
import ScriptTokenizer.Proofs.CharClasses

namespace ScriptTokenizer.Grammar

/-- The text begins with a lexeme of this tag and length. -/
inductive Begins (text : List Char) : Tag → Nat → Prop where
  | newline : text[0]? = some '\n' → Begins text .newline 1
  | word : 0 < runLength isWordChar text → Begins text .word (runLength isWordChar text)
  | number : 0 < runLength Char.isDigit text → Begins text .number (runLength Char.isDigit text)
  | spacing : 0 < runLength isSpacing text → Begins text .spacing (runLength isSpacing text)
  | string {quote : Char} {k : Nat} : text[0]? = some quote → quote = '\'' ∨ quote = '"' →
      leastIndex? text.length (closesString quote text) = some k → Begins text .string (k + 1)
  | unterminatedString {quote : Char} : text[0]? = some quote → quote = '\'' ∨ quote = '"' →
      leastIndex? text.length (closesString quote text) = none →
      Begins text .unterminatedString text.length
  | dot : text[0]? = some '.' → text[1]? ≠ some '.' → Begins text .dot 1
  | dotDot : text[0]? = some '.' → text[1]? = some '.' → text[2]? ≠ some '.' →
      Begins text .dotDot 2
  | dotDotDot : text[0]? = some '.' → text[1]? = some '.' → text[2]? = some '.' →
      Begins text .dotDotDot 3
  | minus : text[0]? = some '-' → text[1]? ≠ some '-' → Begins text .minus 1
  | lineComment : ['-', '-'] <+: text → ¬ ['-', '-', '[', '['] <+: text →
      Begins text .lineComment (runLength (· != '\n') text)
  | blockComment {k : Nat} : ['-', '-', '[', '['] <+: text →
      leastIndex? text.length (closesComment text) = some k → Begins text .blockComment (k + 2)
  | unterminatedBlockComment : ['-', '-', '[', '['] <+: text →
      leastIndex? text.length (closesComment text) = none →
      Begins text .unterminatedBlockComment text.length
  | symbol {c : Char} {tag : Tag} : text[0]? = some c → (c, tag) ∈ symbols → Begins text tag 1
  | unrecognized {c : Char} : text[0]? = some c → c ≠ '\n' → isWordChar c = false →
      c.isDigit = false → isSpacing c = false → c ≠ '\'' → c ≠ '"' → (∀ tag, (c, tag) ∉ symbols) →
      c ≠ '.' → c ≠ '-' → Begins text .unrecognized 1

theorem Begins.ne_nil {text : List Char} {tag : Tag} {n : Nat} (h : Begins text tag n) :
    text ≠ [] := by
  rintro rfl
  cases h <;> simp_all [runLength]

/-! ### The function follows the rules -/

theorem begins_dots (rest : List Char) :
    Begins ('.' :: rest) (dots ('.' :: rest)).tag (dots ('.' :: rest)).length := by
  unfold dots
  rcases rest with _ | ⟨c, rest⟩
  · exact Begins.dot rfl (by simp)
  by_cases hc : c = '.'
  · subst hc
    rcases rest with _ | ⟨d, rest⟩
    · exact Begins.dotDot rfl rfl (by simp)
    by_cases hd : d = '.'
    · subst hd
      exact Begins.dotDotDot rfl rfl rfl
    · have h : Begins ('.' :: '.' :: d :: rest) .dotDot 2 := Begins.dotDot rfl rfl (by simpa)
      simpa [Ne.symm hd] using h
  · have h : Begins ('.' :: c :: rest) .dot 1 := Begins.dot rfl (by simpa)
    simpa [Ne.symm hc] using h

theorem begins_minus (rest : List Char) :
    Begins ('-' :: rest) (minus ('-' :: rest)).tag (minus ('-' :: rest)).length := by
  unfold minus
  by_cases hblock : ['-', '-', '[', '['].isPrefixOf ('-' :: rest) = true
  · rw [if_pos hblock]
    unfold blockComment
    have hprefix := List.isPrefixOf_iff_prefix.mp hblock
    split
    · next k hk => exact Begins.blockComment hprefix hk
    · next hnone => exact Begins.unterminatedBlockComment hprefix hnone
  rw [if_neg hblock]
  by_cases hline : ['-', '-'].isPrefixOf ('-' :: rest) = true
  · rw [if_pos hline]
    exact Begins.lineComment (List.isPrefixOf_iff_prefix.mp hline)
      (mt List.isPrefixOf_iff_prefix.mpr hblock)
  · rw [if_neg hline]
    refine Begins.minus rfl ?_
    intro hsecond
    apply hline
    rcases rest with _ | ⟨c, rest⟩
    · cases hsecond
    · obtain rfl : c = '-' := Option.some.inj hsecond
      simp

/-- **The lexeme that the function gives is one by the rules.** -/
theorem begins_lexeme (c : Char) (rest : List Char) :
    Begins (c :: rest) (lexeme (c :: rest)).tag (lexeme (c :: rest)).length := by
  rw [lexeme_cons]
  unfold lexemeFrom
  by_cases hline : (c == '\n') = true
  · rw [if_pos hline]
    obtain rfl := beq_iff_eq.mp hline
    exact Begins.newline rfl
  rw [if_neg hline]
  by_cases hword : isWordChar c = true
  · rw [if_pos hword]
    exact Begins.word (runLength_pos hword)
  rw [if_neg hword]
  by_cases hdigit : c.isDigit = true
  · rw [if_pos hdigit]
    exact Begins.number (runLength_pos hdigit)
  rw [if_neg hdigit]
  by_cases hquote : (c == '\'' || c == '"') = true
  · rw [if_pos hquote]
    rw [Bool.or_eq_true, beq_iff_eq, beq_iff_eq] at hquote
    unfold string
    split
    · next k hk => exact Begins.string rfl hquote hk
    · next hnone => exact Begins.unterminatedString rfl hquote hnone
  rw [if_neg hquote]
  rcases hsymbol : symbols.lookup c with _ | tag
  · by_cases hdot : (c == '.') = true
    · obtain rfl := beq_iff_eq.mp hdot
      exact begins_dots rest
    simp only [if_neg hdot]
    by_cases hminus : (c == '-') = true
    · obtain rfl := beq_iff_eq.mp hminus
      exact begins_minus rest
    simp only [if_neg hminus]
    by_cases hspacing : isSpacing c = true
    · rw [if_pos hspacing]
      exact Begins.spacing (runLength_pos hspacing)
    · rw [if_neg hspacing]
      rw [List.lookup_eq_none_iff] at hsymbol
      simp only [beq_iff_eq, Bool.or_eq_true, not_or] at hline hquote hdot hminus
      refine Begins.unrecognized rfl hline (Bool.eq_false_iff.mpr hword)
        (Bool.eq_false_iff.mpr hdigit) (Bool.eq_false_iff.mpr hspacing) hquote.1 hquote.2 ?_ hdot
        hminus
      intro tag hmem
      exact absurd (hsymbol _ hmem) (by simp)
  · obtain ⟨before, after, hsplit, -⟩ := List.lookup_eq_some_iff.mp hsymbol
    refine Begins.symbol rfl ?_
    rw [hsplit]
    exact List.mem_append_right before (List.mem_cons_self ..)

/-! ### The rules determine the function -/

theorem runLength_pos_iff {p : Char → Bool} {c : Char} {rest : List Char} :
    0 < runLength p (c :: rest) ↔ p c = true := by
  rw [runLength_cons]
  split
  · next h => simp [h]
  · next h => simp [h]

theorem lexeme_dots (rest : List Char) : lexeme ('.' :: rest) = dots ('.' :: rest) := rfl

theorem lexeme_minus (rest : List Char) : lexeme ('-' :: rest) = minus ('-' :: rest) := rfl

theorem lexeme_quote {quote : Char} (h : quote = '\'' ∨ quote = '"') (rest : List Char) :
    lexeme (quote :: rest) = string quote (quote :: rest) := by
  rcases h with rfl | rfl
  · rfl
  · rfl

theorem lexeme_symbol {c : Char} {tag : Tag} (h : (c, tag) ∈ symbols) (rest : List Char) :
    lexeme (c :: rest) = ⟨tag, 1⟩ := by
  simp only [symbols, List.mem_cons, Prod.mk.injEq, List.not_mem_nil, or_false] at h
  rcases h with ⟨rfl, rfl⟩ | ⟨rfl, rfl⟩ | ⟨rfl, rfl⟩ | ⟨rfl, rfl⟩ | ⟨rfl, rfl⟩ | ⟨rfl, rfl⟩ |
    ⟨rfl, rfl⟩ | ⟨rfl, rfl⟩ | ⟨rfl, rfl⟩ | ⟨rfl, rfl⟩ | ⟨rfl, rfl⟩ | ⟨rfl, rfl⟩ | ⟨rfl, rfl⟩ |
    ⟨rfl, rfl⟩ | ⟨rfl, rfl⟩ | ⟨rfl, rfl⟩
  all_goals rfl

theorem lexeme_word {c : Char} (h : isWordChar c = true) (rest : List Char) :
    lexeme (c :: rest) = ⟨.word, runLength isWordChar (c :: rest)⟩ := by
  have hline : c ≠ '\n' := by
    rintro rfl
    exact absurd h (by decide)
  simp [lexeme_cons, lexemeFrom, hline, h]

theorem lexeme_number {c : Char} (h : c.isDigit = true) (rest : List Char) :
    lexeme (c :: rest) = ⟨.number, runLength Char.isDigit (c :: rest)⟩ := by
  have hline : c ≠ '\n' := by
    rintro rfl
    exact absurd h (by decide)
  simp [lexeme_cons, lexemeFrom, hline, isWordChar_of_isDigit h, h]

theorem lexeme_spacing {c : Char} (h : isSpacing c = true) (rest : List Char) :
    lexeme (c :: rest) = ⟨.spacing, runLength isSpacing (c :: rest)⟩ := by
  have hline := (isSpacing_iff.mp h).1
  obtain ⟨hsingle, hdouble, hsymbol, hdot, hminus⟩ := begins_nothing_of_isSpacing h
  simp [lexeme_cons, lexemeFrom, hline, isWordChar_of_isSpacing h, isDigit_of_isSpacing h, hsingle,
    hdouble, hsymbol, hdot, hminus, h]

theorem lexeme_of_begins {text : List Char} {tag : Tag} {n : Nat} (h : Begins text tag n) :
    lexeme text = ⟨tag, n⟩ := by
  obtain ⟨c, rest, rfl⟩ := List.exists_cons_of_ne_nil h.ne_nil
  cases h with
  | newline hfirst =>
    obtain rfl : c = '\n' := Option.some.inj hfirst
    rfl
  | word hpos => exact lexeme_word (runLength_pos_iff.mp hpos) rest
  | number hpos => exact lexeme_number (runLength_pos_iff.mp hpos) rest
  | spacing hpos => exact lexeme_spacing (runLength_pos_iff.mp hpos) rest
  | string hfirst hquote hk =>
    obtain rfl := Option.some.inj hfirst
    rw [lexeme_quote hquote, string, hk]
  | unterminatedString hfirst hquote hnone =>
    obtain rfl := Option.some.inj hfirst
    rw [lexeme_quote hquote, string, hnone]
  | dot hfirst hsecond =>
    obtain rfl : c = '.' := Option.some.inj hfirst
    rcases rest with _ | ⟨d, rest⟩
    · rfl
    · have hd : ¬ d = '.' := by simpa using hsecond
      simp [lexeme_dots, dots, Ne.symm hd]
  | dotDot hfirst hsecond hthird =>
    obtain rfl : c = '.' := Option.some.inj hfirst
    rcases rest with _ | ⟨d, _ | ⟨e, rest⟩⟩
    · cases hsecond
    · obtain rfl : d = '.' := Option.some.inj hsecond
      rfl
    · obtain rfl : d = '.' := Option.some.inj hsecond
      have he : ¬ e = '.' := by simpa using hthird
      simp [lexeme_dots, dots, Ne.symm he]
  | dotDotDot hfirst hsecond hthird =>
    obtain rfl : c = '.' := Option.some.inj hfirst
    rcases rest with _ | ⟨d, _ | ⟨e, rest⟩⟩
    · cases hsecond
    · cases hthird
    · obtain rfl : d = '.' := Option.some.inj hsecond
      obtain rfl : e = '.' := Option.some.inj hthird
      rfl
  | minus hfirst hsecond =>
    obtain rfl : c = '-' := Option.some.inj hfirst
    rcases rest with _ | ⟨d, rest⟩
    · rfl
    · have hd : ¬ d = '-' := by simpa using hsecond
      simp [lexeme_minus, minus, Ne.symm hd]
  | lineComment hline hblock =>
    obtain rfl : '-' = c := (List.cons_prefix_cons.mp hline).1
    rw [lexeme_minus, minus, if_neg (mt List.isPrefixOf_iff_prefix.mp hblock),
      if_pos (List.isPrefixOf_iff_prefix.mpr hline)]
  | blockComment hblock hk =>
    obtain rfl : '-' = c := (List.cons_prefix_cons.mp hblock).1
    rw [lexeme_minus, minus, if_pos (List.isPrefixOf_iff_prefix.mpr hblock), Grammar.blockComment,
      hk]
  | unterminatedBlockComment hblock hnone =>
    obtain rfl : '-' = c := (List.cons_prefix_cons.mp hblock).1
    rw [lexeme_minus, minus, if_pos (List.isPrefixOf_iff_prefix.mpr hblock), Grammar.blockComment,
      hnone]
  | symbol hfirst hmem =>
    obtain rfl := Option.some.inj hfirst
    exact lexeme_symbol hmem rest
  | unrecognized hfirst hline hword hdigit hspacing hsingle hdouble hsymbol hdot hminus =>
    obtain rfl := Option.some.inj hfirst
    have hnone : symbols.lookup c = none := by
      rw [List.lookup_eq_none_iff]
      rintro ⟨d, tag⟩ hmem
      rw [bne_iff_ne]
      rintro rfl
      exact hsymbol tag hmem
    simp [lexeme_cons, lexemeFrom, hline, hword, hdigit, hspacing, hsingle, hdouble, hnone, hdot,
      hminus]

/-- **Rules and function are the same.** -/
theorem begins_iff {text : List Char} {tag : Tag} {n : Nat} :
    Begins text tag n ↔ text ≠ [] ∧ lexeme text = ⟨tag, n⟩ := by
  constructor
  · intro h
    exact ⟨h.ne_nil, lexeme_of_begins h⟩
  · rintro ⟨hne, hlexeme⟩
    obtain ⟨c, rest, rfl⟩ := List.exists_cons_of_ne_nil hne
    have h := begins_lexeme c rest
    rwa [hlexeme] at h

/-! ### What holds of every lexeme -/

theorem Begins.length_le {text : List Char} {tag : Tag} {n : Nat} (h : Begins text tag n) :
    n ≤ text.length := by
  have hpos : 0 < text.length := List.length_pos_iff.mpr h.ne_nil
  cases h with
  | word | number | spacing | lineComment => exact runLength_le _ _
  | string _ _ hk => exact (leastIndex?_eq_some_iff.mp hk).1
  | blockComment _ hk =>
    obtain ⟨-, hcloses, -⟩ := leastIndex?_eq_some_iff.mp hk
    exact (List.getElem?_eq_some_iff.mp (closesComment_iff.mp hcloses).2.2).1
  | dotDot _ hsecond => exact (List.getElem?_eq_some_iff.mp hsecond).1
  | dotDotDot _ _ hthird => exact (List.getElem?_eq_some_iff.mp hthird).1
  | unterminatedString | unterminatedBlockComment => exact Nat.le_refl _
  | newline | dot | minus | symbol | unrecognized => exact hpos

theorem Begins.tag_ne_eof {text : List Char} {tag : Tag} {n : Nat} (h : Begins text tag n) :
    tag ≠ .eof := by
  cases h with
  | symbol _ hmem =>
    rintro rfl
    have hall : ∀ e ∈ symbols, e.2 ≠ Tag.eof := by decide
    exact hall _ hmem rfl
  | _ => simp

theorem Begins.length_pos {text : List Char} {tag : Tag} {n : Nat} (h : Begins text tag n) :
    0 < n := by
  obtain ⟨c, rest, rfl⟩ := List.exists_cons_of_ne_nil h.ne_nil
  have hpos := lexeme_length_pos c rest
  rwa [lexeme_of_begins h] at hpos

theorem begins_of_ne_nil {text : List Char} (h : text ≠ []) :
    Begins text (lexeme text).tag (lexeme text).length :=
  begins_iff.mpr ⟨h, rfl⟩

end ScriptTokenizer.Grammar
