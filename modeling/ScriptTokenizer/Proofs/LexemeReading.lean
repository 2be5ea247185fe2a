/-
  ScriptTokenizer/Proofs/LexemeReading.lean
  =========================================
  **Reading one lexeme off a cursor is what the grammar says.**

  The grammar is a function of the text that is left; the reader sees padded
  text through a cursor.  They agree at every position, whether or not a lexeme
  begins there: nothing that was passed before matters.  That is not obvious
  for strings, in which a quote is judged by the character before it.  But the
  first quote that can close a string is not its opening one, so the character
  before it belongs to the string.

  For each rule of more than one character there is one lemma: started behind
  the first character, it gives the tag of the grammar and ends where the
  lexeme of the grammar ends (`readString_eq` to `readMinus_eq`).  `next_eq`
  joins them, for all positions of the padded text.
-/
import ScriptTokenizer.Proofs.GrammarRules
import ScriptTokenizer.Proofs.Seeking
import ScriptTokenizer.Lexeme.Reading

namespace ScriptTokenizer

/-- The two tables of one-character lexemes agree. -/
theorem Grammar.lookup_symbols (c : Char) : Grammar.symbols.lookup c = Tag.ofSymbol? c := by
  unfold Tag.ofSymbol?
  split
  case h_17 =>
    rw [List.lookup_eq_none_iff]
    simp only [Grammar.symbols, List.forall_mem_cons, bne_iff_ne]
    simp_all
  all_goals rfl

namespace Cursor

variable {s : Source} {p : Nat} {text : List Char}

/-! ### The text that is left at a position -/

theorem size_of_drop (hp : p ≤ s.size) (htext : s.toList.drop p = text) :
    p + text.length = s.size := by
  rw [← htext, s.length_drop]
  omega

theorem padded?_of_drop (htext : s.toList.drop p = text) {k : Nat} (hk : k < text.length) :
    s.padded? (p + k) = some text[k] := by
  have hlt : p + k < s.size := by
    rw [← htext, s.length_drop] at hk
    omega
  rw [Source.padded?_add hlt, htext, List.getElem?_eq_getElem hk]

/-- The character at an index of the text that is left, or behind its end. -/
theorem padded?_of_drop_le (hp : p ≤ s.size) (htext : s.toList.drop p = text) {k : Nat}
    (hk : k ≤ text.length) : s.padded? (p + k) = some (text[k]?.getD nul) := by
  rcases Nat.lt_or_eq_of_le hk with hlt | heq
  · rw [padded?_of_drop htext hlt, List.getElem?_eq_getElem hlt, Option.getD_some]
  · rw [heq, size_of_drop hp htext, padded?_size, List.getElem?_eq_none (Nat.le_refl _),
      Option.getD_none]

theorem atEnd_of_drop (htext : s.toList.drop p = text) {k : Nat} (hk : k < text.length) :
    atEnd ⟨s, p + k⟩ = .ok false ⟨s, p + k⟩ := by
  rw [← htext, s.length_drop] at hk
  exact atEnd_of_lt (by omega)

/-- A search that stops at the closing marks of a text, or else at its end, comes to
    the first of them. -/
theorem seek_to_leastIndex {stop : Char → Reading Bool} {closes : Nat → Bool} {a : Nat}
    (hp : p ≤ s.size) (htext : s.toList.drop p = text) (ha : a ≤ text.length)
    (hafter : ∀ k, closes k = true → a ≤ k)
    (hanswer : ∀ k, a ≤ k → k < text.length → Answers stop s (p + k) (closes k))
    (hend : Answers stop s s.size true) :
    seek stop ⟨s, p + a⟩ =
      .ok () ⟨s, p + (Grammar.leastIndex? text.length closes).getD text.length⟩ := by
  have hsize := size_of_drop hp htext
  have hmax : s.size ≤ maxOffset := s.size_le
  rcases hleast : Grammar.leastIndex? text.length closes with _ | k
  · rw [Grammar.leastIndex?_eq_none_iff] at hleast
    rw [← hsize] at hend hmax
    refine seek_eq_ok ha ?_ hend hmax
    intro k hk hlt
    have h := hanswer k hk hlt
    rwa [hleast k hlt] at h
  · obtain ⟨hk, hcloses, hfirst⟩ := Grammar.leastIndex?_eq_some_iff.mp hleast
    have hak := hafter k hcloses
    rw [Option.getD_some]
    refine seek_eq_ok hak ?_ ?_ (by omega)
    · intro j hj hjk
      have h := hanswer j hj (Nat.lt_trans hjk hk)
      rwa [hfirst j hjk] at h
    · have h := hanswer k hak hk
      rwa [hcloses] at h

/-! ### Strings -/

/-- Within the text, a string stops exactly at the quotes that close it. -/
theorem stopsString_of_drop {q : Char} (htext : s.toList.drop p = text) {k : Nat}
    (hpos : 1 ≤ k) (hk : k < text.length) :
    Answers (stopsString q) s (p + k) (Grammar.closesString q text k) := by
  obtain ⟨j, rfl⟩ : ∃ j, k = j + 1 := ⟨k - 1, by omega⟩
  have hj : j < text.length := Nat.lt_of_succ_lt hk
  have hch : s.padded? (p + (j + 1)) = some text[j + 1] := padded?_of_drop htext hk
  have hbefore : s.padded? (p + j) = some text[j] := padded?_of_drop htext hj
  refine ⟨text[j + 1], ⟨s, p + (j + 1)⟩, hch, ?_⟩
  unfold stopsString Grammar.closesString
  rw [List.getElem?_eq_getElem hk, Nat.add_sub_cancel, List.getElem?_eq_getElem hj]
  by_cases hquote : text[j + 1] = q
  · rw [if_pos (beq_iff_eq.mpr hquote), ← Nat.add_assoc, bind_of_ok (previous_eq_ok hbefore)]
    simp [hquote, pure_eq, bne]
  · rw [if_neg (mt beq_iff_eq.mp hquote), atEnd_of_drop htext hk]
    simp [hquote]

theorem readString_eq {quote : Char} {rest : List Char} (hquote : quote ≠ nul)
    (hp : p ≤ s.size) (htext : s.toList.drop p = quote :: rest) :
    readString quote ⟨s, p + 1⟩ = .ok (Grammar.string quote (quote :: rest)).tag
      ⟨s, p + (Grammar.string quote (quote :: rest)).length⟩ := by
  have hsize := size_of_drop hp htext
  have hmax : s.size ≤ maxOffset := s.size_le
  have hend : Answers (stopsString quote) s s.size true := by
    refine ⟨nul, ⟨s, s.size⟩, padded?_size s, ?_⟩
    unfold stopsString
    rw [if_neg (mt beq_iff_eq.mp hquote.symm), atEnd_size]
  have hafter : ∀ k, Grammar.closesString quote (quote :: rest) k = true → 1 ≤ k := by
    intro k hcloses
    exact (Grammar.closesString_iff.mp hcloses).1
  have hseek := seek_to_leastIndex hp htext (by simp) hafter
    (fun _ => stopsString_of_drop htext) hend
  unfold Grammar.string
  rcases hleast : Grammar.leastIndex? (quote :: rest).length
    (Grammar.closesString quote (quote :: rest)) with _ | k
  · rw [hleast, Option.getD_none, hsize] at hseek
    rw [readString, bind_of_ok hseek, bind_of_ok (atEnd_size s), hsize]
    rfl
  · have hk := (Grammar.leastIndex?_eq_some_iff.mp hleast).1
    rw [hleast, Option.getD_some] at hseek
    rw [readString, bind_of_ok hseek, bind_of_ok (atEnd_of_drop htext hk)]
    simp only [Bool.false_eq_true, if_false]
    rw [advance, bind_of_ok (advanceBy_eq_ok (by omega))]
    rfl

/-! ### Dots -/

theorem readDots_eq {rest : List Char} (hp : p ≤ s.size)
    (htext : s.toList.drop p = '.' :: rest) :
    readDots ⟨s, p + 1⟩ = .ok (Grammar.dots ('.' :: rest)).tag
      ⟨s, p + (Grammar.dots ('.' :: rest)).length⟩ := by
  have hsize := size_of_drop hp htext
  have hmax : s.size ≤ maxOffset := s.size_le
  have hsecond := padded?_of_drop_le hp htext (k := 1) (by simp)
  rw [readDots, bind_of_ok (current_eq_ok hsecond)]
  rcases rest with _ | ⟨c, rest⟩
  · rfl
  by_cases hc : c = '.'
  · subst hc
    have hthird := padded?_of_drop_le hp htext (k := 2) (by simp)
    simp only [List.length_cons] at hsize
    simp only [List.getElem?_cons_succ, List.getElem?_cons_zero, Option.getD_some,
      bne_self_eq_false, Bool.false_eq_true, if_false]
    rw [advance, bind_of_ok (advanceBy_eq_ok (by omega)), bind_of_ok (current_eq_ok hthird)]
    rcases rest with _ | ⟨d, rest⟩
    · rfl
    by_cases hd : d = '.'
    · subst hd
      simp only [List.length_cons] at hsize
      simp only [List.getElem?_cons_succ, List.getElem?_cons_zero, Option.getD_some,
        bne_self_eq_false, Bool.false_eq_true, if_false]
      rw [bind_of_ok (advanceBy_eq_ok (by omega))]
      rfl
    · simp [Grammar.dots, hd, Ne.symm hd, pure_eq]
  · simp [Grammar.dots, hc, Ne.symm hc, pure_eq]

/-! ### Comments -/

/-- Within the text, a block comment stops exactly before the brackets that close
    it. -/
theorem stopsBlockComment_of_drop (hp : p ≤ s.size) (htext : s.toList.drop p = text) {k : Nat}
    (hpos : 4 ≤ k) (hk : k < text.length) :
    Answers stopsBlockComment s (p + k) (Grammar.closesComment text k) := by
  have hch : s.padded? (p + k) = some text[k] := padded?_of_drop htext hk
  have hnext : s.padded? (p + k + 1) = some (text[k + 1]?.getD nul) :=
    padded?_of_drop_le hp htext hk
  refine ⟨text[k], ⟨s, p + k⟩, hch, ?_⟩
  unfold stopsBlockComment Grammar.closesComment
  rw [List.getElem?_eq_getElem hk, decide_eq_true hpos]
  by_cases hbracket : text[k] = ']'
  · rw [if_pos (beq_iff_eq.mpr hbracket), bind_of_ok (peek_eq_ok hnext), hbracket]
    rcases text[k + 1]? with _ | ch
    · rfl
    · simp [pure_eq]
  · rw [if_neg (mt beq_iff_eq.mp hbracket), atEnd_of_drop htext hk]
    simp [hbracket]

theorem readBlockComment_eq (hp : p ≤ s.size) (htext : s.toList.drop p = text)
    (hlong : 4 ≤ text.length) :
    readBlockComment ⟨s, p + 4⟩ = .ok (Grammar.blockComment text).tag
      ⟨s, p + (Grammar.blockComment text).length⟩ := by
  have hsize := size_of_drop hp htext
  have hmax : s.size ≤ maxOffset := s.size_le
  have hend : Answers stopsBlockComment s s.size true :=
    ⟨nul, ⟨s, s.size⟩, padded?_size s, atEnd_size s⟩
  have hafter : ∀ k, Grammar.closesComment text k = true → 4 ≤ k := by
    intro k hcloses
    exact (Grammar.closesComment_iff.mp hcloses).1
  have hseek := seek_to_leastIndex hp htext hlong hafter
    (fun _ => stopsBlockComment_of_drop hp htext) hend
  unfold Grammar.blockComment
  rcases hleast : Grammar.leastIndex? text.length (Grammar.closesComment text) with _ | k
  · rw [hleast, Option.getD_none, hsize] at hseek
    rw [readBlockComment, bind_of_ok hseek, bind_of_ok (atEnd_size s), hsize]
    rfl
  · obtain ⟨hk, hcloses, -⟩ := Grammar.leastIndex?_eq_some_iff.mp hleast
    obtain ⟨-, -, hsecond⟩ := Grammar.closesComment_iff.mp hcloses
    have hlast : k + 1 < text.length := (List.getElem?_eq_some_iff.mp hsecond).1
    rw [hleast, Option.getD_some] at hseek
    rw [readBlockComment, bind_of_ok hseek, bind_of_ok (atEnd_of_drop htext hk)]
    simp only [Bool.false_eq_true, if_false]
    rw [bind_of_ok (advanceBy_eq_ok (by omega))]
    rfl

theorem atBlockOpening_eq {c d : Char} {rest : List Char} (hp : p ≤ s.size)
    (htext : s.toList.drop p = c :: d :: rest) :
    atBlockOpening ⟨s, p + 2⟩ = .ok (['[', '['].isPrefixOf rest) ⟨s, p + 2⟩ := by
  have hfirst := padded?_of_drop_le hp htext (k := 2) (by simp)
  rw [atBlockOpening, bind_of_ok (current_eq_ok hfirst)]
  rcases rest with _ | ⟨e, rest⟩
  · rfl
  by_cases he : e = '['
  · subst he
    have hsecond := padded?_of_drop_le hp htext (k := 3) (by simp)
    simp only [List.getElem?_cons_succ, List.getElem?_cons_zero, Option.getD_some, beq_self_eq_true,
      if_true]
    rw [bind_of_ok (peek_eq_ok hsecond)]
    rcases rest with _ | ⟨f, rest⟩
    · rfl
    · simp [List.isPrefixOf, BEq.comm (a := f), pure_eq]
  · simp [List.isPrefixOf, he, Ne.symm he, pure_eq]

theorem readMinus_eq {rest : List Char} (hp : p ≤ s.size)
    (htext : s.toList.drop p = '-' :: rest) :
    readMinus ⟨s, p + 1⟩ = .ok (Grammar.minus ('-' :: rest)).tag
      ⟨s, p + (Grammar.minus ('-' :: rest)).length⟩ := by
  have hsize := size_of_drop hp htext
  have hmax : s.size ≤ maxOffset := s.size_le
  have hsecond := padded?_of_drop_le hp htext (k := 1) (by simp)
  rw [readMinus, bind_of_ok (current_eq_ok hsecond)]
  rcases rest with _ | ⟨c, rest⟩
  · rfl
  by_cases hc : c = '-'
  · subst hc
    simp only [List.length_cons] at hsize
    simp only [List.getElem?_cons_succ, List.getElem?_cons_zero, Option.getD_some,
      bne_self_eq_false, Bool.false_eq_true, if_false]
    rw [advance, bind_of_ok (advanceBy_eq_ok (by omega)),
      bind_of_ok (atBlockOpening_eq hp htext)]
    by_cases hopen : ['[', '['].isPrefixOf rest = true
    · -- a block comment, read from behind its opening brackets
      have hlong : 2 ≤ rest.length := (List.isPrefixOf_iff_prefix.mp hopen).length_le
      rw [if_pos hopen, bind_of_ok (advanceBy_eq_ok (by omega)),
        readBlockComment_eq hp htext (by simp only [List.length_cons]; omega)]
      simp [Grammar.minus, hopen]
    · have hdrop : s.toList.drop (p + 1 + 1) = rest := by
        rw [Nat.add_assoc, ← List.drop_drop, htext]
        rfl
      rw [if_neg hopen, bind_of_ok (eatLine_eq (by omega)), hdrop]
      simp [Grammar.minus, hopen, Grammar.runLength_cons, pure_eq]
      omega
  · simp [Grammar.minus, hc, Ne.symm hc, pure_eq]

/-! ### Any lexeme -/

/-- A run whose first character was passed goes on as far as the run that begins
    with it. -/
theorem eatWhile_rest {q : Char → Bool} {first : Char} {rest : List Char}
    (hnul : q nul = false) (hp : p ≤ s.size) (htext : s.toList.drop p = first :: rest)
    (hfirst : q first = true) :
    eatWhile q ⟨s, p + 1⟩ = .ok () ⟨s, p + Grammar.runLength q (first :: rest)⟩ := by
  have hsize := size_of_drop hp htext
  have hdrop : s.toList.drop (p + 1) = rest := by
    rw [← List.drop_drop, htext]
    rfl
  simp only [List.length_cons] at hsize
  rw [eatWhile_eq hnul (by omega), hdrop, Grammar.runLength_cons, if_pos hfirst]
  congr 2
  omega

/-- The rest of the lexeme behind its first character, by the rule that this
    character decides on. -/
theorem tagAfter_eq {first : Char} {rest : List Char} (hp : p ≤ s.size)
    (htext : s.toList.drop p = first :: rest) :
    tagAfter first ⟨s, p + 1⟩ = .ok (Grammar.lexeme (first :: rest)).tag
      ⟨s, p + (Grammar.lexeme (first :: rest)).length⟩ := by
  rw [Grammar.lexeme_cons]
  unfold tagAfter Grammar.lexemeFrom
  rw [Grammar.lookup_symbols]
  by_cases hline : (first == '\n') = true
  · rw [if_pos hline, if_pos hline]
    rfl
  rw [if_neg hline, if_neg hline]
  by_cases hword : isWordChar first = true
  · rw [if_pos hword, if_pos hword, bind_of_ok (eatWhile_rest (by decide) hp htext hword)]
    rfl
  rw [if_neg hword, if_neg hword]
  by_cases hdigit : first.isDigit = true
  · rw [if_pos hdigit, if_pos hdigit, bind_of_ok (eatWhile_rest (by decide) hp htext hdigit)]
    rfl
  rw [if_neg hdigit, if_neg hdigit]
  by_cases hquote : isQuote first = true
  · have hnul : first ≠ nul := by
      rintro rfl
      exact absurd hquote (by decide)
    rw [if_pos hquote, if_pos (show (first == '\'' || first == '"') = true from hquote),
      readString_eq hnul hp htext]
  rw [if_neg hquote, if_neg (show ¬ (first == '\'' || first == '"') = true from hquote)]
  rcases Tag.ofSymbol? first with _ | tag
  · by_cases hdot : (first == '.') = true
    · obtain rfl : first = '.' := beq_iff_eq.mp hdot
      exact readDots_eq hp htext
    simp only [if_neg hdot]
    by_cases hminus : (first == '-') = true
    · obtain rfl : first = '-' := beq_iff_eq.mp hminus
      exact readMinus_eq hp htext
    simp only [if_neg hminus]
    by_cases hspacing : isSpacing first = true
    · rw [if_pos hspacing, if_pos hspacing,
        bind_of_ok (eatWhile_rest (by decide) hp htext hspacing)]
      rfl
    · rw [if_neg hspacing, if_neg hspacing]
      rfl
  · rfl

/-- **One step of reading.**  Wherever a cursor stands in the padded text, it reads
    the lexeme that the text left there begins with, and moves past it. -/
theorem next_eq (hp : p < s.size + padding) :
    next ⟨s, p⟩ = .ok (Grammar.lexeme (s.toList.drop p))
      ⟨s, p + (Grammar.lexeme (s.toList.drop p)).length⟩ := by
  have hposition : position ⟨s, p⟩ = .ok p ⟨s, p⟩ := rfl
  rcases htext : s.toList.drop p with _ | ⟨first, rest⟩
  · have hle : s.size ≤ p := by
      rw [← s.length_toList]
      exact List.drop_eq_nil_iff.mp htext
    rw [next, bind_of_ok hposition, bind_of_ok (current_eq_ok (Source.padded?_of_le hle hp)),
      bind_of_ok (atEnd_of_le hle hp)]
    rfl
  · have hlt : p < s.size := by
      have hlength := s.length_drop p
      rw [htext, List.length_cons] at hlength
      omega
    have hmax : s.size ≤ maxOffset := s.size_le
    have hfirst : s.padded? p = some first := padded?_of_drop htext (k := 0) (by simp)
    rw [next, bind_of_ok hposition, bind_of_ok (current_eq_ok hfirst),
      bind_of_ok (atEnd_of_lt hlt)]
    simp only [Bool.false_eq_true, if_false]
    rw [advance, bind_of_ok (advanceBy_eq_ok (by omega)),
      bind_of_ok (tagAfter_eq (Nat.le_of_lt hlt) htext)]
    show EStateM.Result.ok (Lexeme.mk _ (p + (Grammar.lexeme (first :: rest)).length - p)) _ = _
    rw [Nat.add_sub_cancel_left]

/-- **Reading is exactly the lexical grammar.**  At every position of every text, a
    step reads one lexeme, the one lexeme by whose rule the text left there begins,
    and stops behind it. -/
theorem next_reads_what_begins (s : Source) (p : Nat) (hp : p < s.size) :
    ∃ l : Lexeme, next ⟨s, p⟩ = .ok l ⟨s, p + l.length⟩ ∧
      ∀ tag n, Grammar.Begins (s.toList.drop p) tag n ↔ l = ⟨tag, n⟩ := by
  have hne : s.toList.drop p ≠ [] := by
    intro hnil
    have hlength := s.length_drop p
    rw [hnil, List.length_nil] at hlength
    omega
  refine ⟨Grammar.lexeme (s.toList.drop p), next_eq (Nat.lt_add_right padding hp), ?_⟩
  intro tag n
  rw [Grammar.begins_iff, and_iff_right hne]

/-- From within a text, at the quote behind a backslash: neither the backslash nor
    the NUL in the string counts, the escaped quote does not close it. -/
theorem next_reads_string_with_nul :
    1 < (Source.ofString "\\'\x00\\''").size ∧
      next ⟨Source.ofString "\\'\x00\\''", 1⟩ =
        .ok ⟨.string, 5⟩ ⟨Source.ofString "\\'\x00\\''", 6⟩ := by
  have hp : 1 < (Source.ofString "\\'\x00\\''").size := by decide
  obtain ⟨l, hnext, hrules⟩ := next_reads_what_begins (Source.ofString "\\'\x00\\''") 1 hp
  have hl : l = ⟨.string, 5⟩ := by
    rw [← hrules]
    exact Grammar.Begins.string rfl (Or.inl rfl) (by decide)
  rw [hl] at hnext
  exact ⟨hp, hnext⟩

end Cursor

end ScriptTokenizer
