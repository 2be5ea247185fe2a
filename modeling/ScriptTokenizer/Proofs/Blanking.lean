/-
  ScriptTokenizer/Proofs/Blanking.lean
  ====================================
  **What is dropped might as well be blank.**

  A space in the place of every character that belongs to no token leaves all
  tokens as they are (`tokenize_blanked`).  So a comment, a blank and a
  character outside the grammar have no influence on the tokens around them but
  to keep them apart, and neither has what such a character looks like: a
  backslash before a string is not part of it, and a comment between two minus
  signs begins no comment of theirs.

  The blanked text is laid out, with the tokens of the text itself.  A token
  still does not go on into what follows, which is the token that followed it or
  a space.
-/
import ScriptTokenizer.Proofs.Layout

namespace ScriptTokenizer

open Grammar (placed extent joins lexemes Begins covers)

/-! ### Blanking a stretch of text -/

/-- Spaces for the characters that are not to be kept.  The text stands at position `p`. -/
def blankFrom (keep : Nat → Bool) (p : Nat) (text : List Char) : List Char :=
  text.mapIdx fun i c => if keep (p + i) then c else ' '

section BlankFrom

variable {keep : Nat → Bool} {p : Nat} {x y : List Char}

theorem blankFrom_append :
    blankFrom keep p (x ++ y) = blankFrom keep p x ++ blankFrom keep (p + x.length) y := by
  simp only [blankFrom, List.mapIdx_append, Nat.add_assoc, Nat.add_comm x.length]

theorem blankFrom_of_keep (h : ∀ i, p ≤ i → i < p + x.length → keep i = true) :
    blankFrom keep p x = x := by
  apply List.ext_getElem
  · simp [blankFrom]
  · intro i _ hi
    simp [blankFrom, h (p + i) (by omega) (by omega)]

theorem blankFrom_of_drop (h : ∀ i, p ≤ i → i < p + x.length → keep i = false) :
    blankFrom keep p x = List.replicate x.length ' ' := by
  apply List.ext_getElem
  · simp [blankFrom]
  · intro i hi _
    have hlt : i < x.length := by simpa [blankFrom] using hi
    simp [blankFrom, h (p + i) (by omega) (by omega)]

theorem head?_blankFrom {c : Char} (h : c ∈ (blankFrom keep p x).head?) :
    c ∈ x.head? ∨ c = ' ' := by
  rcases x with _ | ⟨d, x⟩
  · cases h
  · simp only [blankFrom, List.mapIdx_cons, List.head?_cons, Option.mem_some_iff] at h ⊢
    split at h
    · exact Or.inl h
    · exact Or.inr h.symm

end BlankFrom

/-- What is blanked apart from its tokens is laid out. -/
theorem laidOut_blankFrom {keep : Nat → Bool} {p : Nat} {text : List Char}
    (hkeep : ∀ e ∈ placed p (lexemes text), ∀ i, covers i e = true →
      keep i = e.2.tag.kind?.isSome) :
    LaidOut p (blankFrom keep p text) (tokensFrom p text (lexemes text)) := by
  induction text using Grammar.lexemes_induction generalizing p with
  | nil =>
    rw [Grammar.lexemes_nil]
    exact .nil
  | step text l hbegins hlexemes ih =>
    rw [hlexemes] at hkeep ⊢
    rw [placed, List.forall_mem_cons] at hkeep
    obtain ⟨hfirst, hrest⟩ := hkeep
    have hlength : (text.take l.length).length = l.length :=
      List.length_take_of_le hbegins.length_le
    have hblank : blankFrom keep p text =
        blankFrom keep p (text.take l.length) ++
          blankFrom keep (p + l.length) (text.drop l.length) := by
      conv_lhs => rw [← List.take_append_drop l.length text]
      rw [blankFrom_append, hlength]
    have hkeep' : ∀ i, p ≤ i → i < p + (text.take l.length).length →
        keep i = l.tag.kind?.isSome := by
      intro i hle hlt
      rw [hlength] at hlt
      exact hfirst i (Grammar.covers_iff.mpr ⟨hle, hlt⟩)
    rw [hblank]
    rcases hkind : l.tag.kind? with _ | kind
    · rw [hkind] at hkeep'
      rw [blankFrom_of_drop hkeep', hlength, tokensFrom_cons_none hkind]
      exact (ih hrest).replicate l.length
    · rw [hkind] at hkeep'
      rw [blankFrom_of_keep hkeep', tokensFrom_cons_some hkind]
      obtain ⟨htake, hhead⟩ := hbegins.take_drop
      refine .token (by rwa [hlength]) hkind ?_ (by rw [hlength]; exact ih hrest)
      intro d hd
      rcases head?_blankFrom hd with hd | rfl
      · exact hhead d hd
      · exact Grammar.joins_space hkind

/-! ### Blanking a text -/

def Table.covers (t : Table) (i : Nat) : Bool := t.rows.toList.any (Row.covers i)

/-- The text with spaces for all characters that no token covers. -/
def blanked (text : String) (t : Table) : String :=
  String.ofList (text.toList.mapIdx fun i c => if t.covers i then c else ' ')

/-- The rows of a table cover the lexemes that they come from and no others. -/
theorem Table.covers_ofLexemes {policy : Policy} {p i : Nat} {cs : List Char}
    (hclean : ∀ l ∈ lexemes cs, policy.isFatal l.tag = false)
    {e : Nat × Lexeme} (he : e ∈ placed p (lexemes cs)) (hi : Grammar.covers i e = true) :
    (Table.ofLexemes (placed p (lexemes cs))).covers i = e.2.tag.kind?.isSome := by
  have hmem := Grammar.snd_mem_of_mem_placed he
  rcases hkind : e.2.tag.kind? with _ | kind
  · -- the position is covered once, and by what is dropped
    have hdropped : e.2.tag.isDropped = true := by
      have hsome := Policy.isSome_kind? (Grammar.tag_ne_eof_of_mem_lexemes hmem) (hclean _ hmem)
      rw [hkind] at hsome
      simpa using hsome.symm
    obtain ⟨hle, hlt⟩ := Grammar.covers_iff.mp hi
    obtain ⟨hp, hextent⟩ := Grammar.bounds_of_mem_placed he
    have honce : (placed p (lexemes cs)).countP (Grammar.covers i) = 1 :=
      Grammar.countP_covers_placed (Nat.le_trans hp hle) (Nat.lt_of_lt_of_le hlt hextent)
    have hfilter : 0 < ((placed p (lexemes cs)).filter fun e => e.2.tag.isDropped).countP
        (Grammar.covers i) :=
      List.countP_pos_iff.mpr ⟨_, List.mem_filter.mpr ⟨he, hdropped⟩, hi⟩
    have hsum := countP_covers_of_clean (p := p) hclean i
    have hzero :
        (Table.ofLexemes (placed p (lexemes cs))).rows.toList.countP (Row.covers i) = 0 := by
      omega
    rw [Option.isSome_none, Table.covers, List.any_eq_false]
    exact List.countP_eq_zero.mp hzero
  · rw [Option.isSome_some, Table.covers, List.any_eq_true]
    exact ⟨Row.ofLexeme e, mem_rows_ofLexemes.mpr ⟨e, he, ⟨kind, hkind⟩, rfl⟩, hi⟩

/-- **What is dropped might as well be blank.**  With spaces for all that no token covers,
    an accepted text has the same table, whether characters outside the grammar are skipped
    or rejected. -/
theorem tokenize_blanked {text : String} (hlength : text.length ≤ maxOffset) {t : Tokenized}
    (h : tokenize .skip text = .ok (.ok t)) (policy : Policy) :
    ∃ u, tokenize policy (blanked text t.table) = .ok (.ok u) ∧ u.table = t.table := by
  obtain ⟨hclean, ht⟩ := tokenize_eq_ok_iff.mp h
  obtain ⟨-, htokens⟩ := (tokenize_eq_ok_iff_tokens hlength).mp h
  rw [Source.toList_ofString hlength] at hclean ht
  have hblanked : (blanked text t.table).toList = blankFrom t.table.covers 0 text.toList := by
    simp [blanked, blankFrom]
  have hlaid : LaidOut 0 (blanked text t.table).toList (tokensOf text.toList) := by
    rw [hblanked, tokensOf]
    apply laidOut_blankFrom
    intro e he i hi
    rw [ht]
    exact Table.covers_ofLexemes hclean he hi
  have hlength' : (blanked text t.table).length ≤ maxOffset := by
    rw [← String.length_toList, hblanked, blankFrom, List.length_mapIdx, String.length_toList]
    exact hlength
  refine ⟨_, hlaid.tokenize_eq hlength' policy, ?_⟩
  rw [htokens]

/-- A backslash before a string and a comment between minus signs are no part of them. -/
theorem tokenize_blanked_backslash_and_comment :
    let text := "\\'a'-\x00--[[c]]-"
    let t : Tokenized := ⟨Source.ofString text,
      .ofRows true [⟨1, 3, some .string⟩, ⟨4, 1, some .sub⟩, ⟨13, 1, some .sub⟩]⟩
    text.length ≤ maxOffset ∧ tokenize .skip text = .ok (.ok t) ∧
      ∃ u, tokenize .reject " 'a'-        -" = .ok (.ok u) ∧ u.table = t.table := by
  intro text t
  have hlength : text.length ≤ maxOffset := by decide
  have h : tokenize .skip text = .ok (.ok t) := by decide +kernel
  have hblanked : blanked text t.table = " 'a'-        -" := by decide +kernel
  refine ⟨hlength, h, ?_⟩
  rw [← hblanked]
  exact tokenize_blanked hlength h .reject

end ScriptTokenizer
