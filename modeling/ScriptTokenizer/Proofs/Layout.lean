/-
  ScriptTokenizer/Proofs/Layout.lean
  ==================================
  **Tokens and blanks.**

  A table says where tokens are; the text says what they are.  Put together,
  every token has a start, a kind and its characters (`Token`), and by these
  characters alone it is a lexeme of its kind (`begins_of_mem_tokensFrom`).

  A text in which nothing stands but tokens and blanks is said to be laid out
  (`LaidOut`), and it is read as these tokens (`LaidOut.tokensFrom_eq`).  A token
  may stand directly before another one as long as it does not go on into it,
  which is a condition on one character.  How many blanks there are does not
  matter: one more in front of a text is a lexeme by itself or joins the blanks
  that are there (`lexemes_blank`), and in both cases it is dropped.

  This is how a text is shown to have given tokens: lay it out.
-/
import ScriptTokenizer.Proofs.Juxtaposition
import ScriptTokenizer.Proofs.Outcomes
import ScriptTokenizer.Proofs.TokenRows

namespace ScriptTokenizer

open Grammar (placed extent joins lexemes Begins)

/-- A token together with its characters. -/
structure Token where
  start : Nat
  kind : Kind
  chars : List Char
deriving DecidableEq, Repr

def Token.row (t : Token) : Row := ⟨t.start, t.chars.length, some t.kind⟩

/-- The tokens among the lexemes of a text that stands at position `p`. -/
def tokensFrom (p : Nat) (text : List Char) : List Lexeme → List Token
  | [] => []
  | l :: ls =>
    match l.tag.kind? with
    | some kind =>
      ⟨p, kind, text.take l.length⟩ :: tokensFrom (p + l.length) (text.drop l.length) ls
    | none => tokensFrom (p + l.length) (text.drop l.length) ls

def tokensOf (text : List Char) : List Token := tokensFrom 0 text (lexemes text)

theorem tokensFrom_cons_some {p : Nat} {text : List Char} {l : Lexeme} {ls : List Lexeme}
    {kind : Kind} (h : l.tag.kind? = some kind) :
    tokensFrom p text (l :: ls) =
      ⟨p, kind, text.take l.length⟩ :: tokensFrom (p + l.length) (text.drop l.length) ls := by
  rw [tokensFrom, h]

theorem tokensFrom_cons_none {p : Nat} {text : List Char} {l : Lexeme} {ls : List Lexeme}
    (h : l.tag.kind? = none) :
    tokensFrom p text (l :: ls) = tokensFrom (p + l.length) (text.drop l.length) ls := by
  rw [tokensFrom, h]

/-! ### Tokens, rows and texts -/

theorem Policy.isFatal_of_kind? {policy : Policy} {tag : Tag} {kind : Kind}
    (h : tag.kind? = some kind) : policy.isFatal tag = false := by
  cases tag with
  | unrecognized | unterminatedString | unterminatedBlockComment => cases h
  | _ => rfl

theorem Table.ofLexemes_eq {p : Nat} {text : List Char} {ls : List Lexeme}
    (hextent : extent ls ≤ text.length) :
    Table.ofLexemes (placed p ls) = .ofRows true ((tokensFrom p text ls).map Token.row) := by
  suffices h : ((placed p ls).filter fun e => e.2.tag.kind?.isSome).map Row.ofLexeme =
      (tokensFrom p text ls).map Token.row by
    rw [Table.ofLexemes, h]
  induction ls generalizing p text with
  | nil => rfl
  | cons l ls ih =>
    rw [Grammar.extent_cons] at hextent
    have hle : extent ls ≤ (text.drop l.length).length := by
      rw [List.length_drop]
      omega
    have hrest := ih (p := p + l.length) hle
    rw [placed, List.filter_cons]
    rcases hkind : l.tag.kind? with _ | kind
    · rw [tokensFrom_cons_none hkind, ← hrest]
      rfl
    · rw [tokensFrom_cons_some hkind, List.map_cons, ← hrest]
      simp [Row.ofLexeme, Token.row, hkind, show l.length ≤ text.length by omega]

/-- The characters of a token are those at its place in the text. -/
theorem take_of_mem_tokensFrom {p : Nat} {text : List Char} {ls : List Lexeme} {t : Token}
    (hextent : extent ls ≤ text.length) (h : t ∈ tokensFrom p text ls) :
    ∃ q, t.start = p + q ∧ q + t.chars.length ≤ text.length ∧
      (text.drop q).take t.chars.length = t.chars := by
  induction ls generalizing p text with
  | nil => cases h
  | cons l ls ih =>
    rw [Grammar.extent_cons] at hextent
    have hrest : t ∈ tokensFrom (p + l.length) (text.drop l.length) ls →
        ∃ q, t.start = p + q ∧ q + t.chars.length ≤ text.length ∧
          (text.drop q).take t.chars.length = t.chars := by
      intro hmem
      have hlength := List.length_drop (i := l.length) (l := text)
      obtain ⟨q, hstart, hle, htake⟩ := ih (by omega) hmem
      refine ⟨l.length + q, by omega, by omega, ?_⟩
      rwa [List.drop_drop] at htake
    rcases hkind : l.tag.kind? with _ | kind
    · rw [tokensFrom_cons_none hkind] at h
      exact hrest h
    · rw [tokensFrom_cons_some hkind, List.mem_cons] at h
      rcases h with rfl | h
      · have hlength : (text.take l.length).length = l.length :=
          List.length_take_of_le (by omega)
        refine ⟨0, rfl, ?_, ?_⟩
        · rw [hlength]
          omega
        · rw [hlength, List.drop_zero]
      · exact hrest h

/-- The characters of a token are a lexeme by themselves. -/
theorem begins_of_mem_tokensFrom {p : Nat} {text : List Char} {t : Token}
    (h : t ∈ tokensFrom p text (lexemes text)) :
    ∃ tag, Begins t.chars tag t.chars.length ∧ tag.kind? = some t.kind := by
  induction text using Grammar.lexemes_induction generalizing p with
  | nil =>
    rw [Grammar.lexemes_nil] at h
    cases h
  | step text l hbegins hlexemes ih =>
    rw [hlexemes] at h
    rcases hkind : l.tag.kind? with _ | kind
    · rw [tokensFrom_cons_none hkind] at h
      exact ih h
    · rw [tokensFrom_cons_some hkind, List.mem_cons] at h
      rcases h with rfl | h
      · have hlength : (text.take l.length).length = l.length :=
          List.length_take_of_le hbegins.length_le
        refine ⟨l.tag, ?_, hkind⟩
        rw [hlength]
        exact hbegins.take_drop.1
      · exact ih h

/-! ### Laid-out texts -/

/-- From position `p` on, the text consists of these tokens and of blanks. -/
inductive LaidOut : Nat → List Char → List Token → Prop where
  | nil {p : Nat} : LaidOut p [] []
  | blank {p : Nat} {c : Char} {text : List Char} {ts : List Token} :
      isSpacing c = true → LaidOut (p + 1) text ts → LaidOut p (c :: text) ts
  | token {p : Nat} {tag : Tag} {kind : Kind} {x text : List Char} {ts : List Token} :
      Begins x tag x.length → tag.kind? = some kind → (∀ c ∈ text.head?, joins tag c = false) →
      LaidOut (p + x.length) text ts → LaidOut p (x ++ text) (⟨p, kind, x⟩ :: ts)

/-- A blank in front of a text is a lexeme by itself or joins the blanks there. -/
theorem Grammar.lexemes_blank {c : Char} (hc : isSpacing c = true) (text : List Char) :
    ∃ n ls, lexemes (c :: text) = ⟨.spacing, n + 1⟩ :: ls ∧
      (n = 0 ∧ lexemes text = ls ∨ lexemes text = ⟨.spacing, n⟩ :: ls) := by
  have hcons : lexemes (c :: text) = ⟨.spacing, Grammar.runLength isSpacing text + 1⟩ ::
      lexemes (text.drop (Grammar.runLength isSpacing text)) := by
    rw [Grammar.lexemes_of_ne_nil (List.cons_ne_nil c text), Grammar.lexeme_spacing hc,
      Grammar.runLength_cons, if_pos hc, List.drop_succ_cons]
  refine ⟨_, _, hcons, ?_⟩
  rcases text with _ | ⟨d, text⟩
  · exact Or.inl ⟨rfl, rfl⟩
  · cases hd : isSpacing d with
    | false =>
      left
      have hzero : Grammar.runLength isSpacing (d :: text) = 0 := by
        rw [Grammar.runLength_cons, hd]
        rfl
      exact ⟨hzero, by rw [hzero, List.drop_zero]⟩
    | true =>
      right
      rw [Grammar.lexemes_of_ne_nil (List.cons_ne_nil d text), Grammar.lexeme_spacing hd]

theorem Grammar.lexemes_token {x text : List Char} {tag : Tag} (hx : Begins x tag x.length)
    (hhead : ∀ c ∈ text.head?, joins tag c = false) :
    lexemes (x ++ text) = ⟨tag, x.length⟩ :: lexemes text :=
  (Grammar.lexemes_append_iff hx.ne_nil).mpr ⟨⟨hx, hhead⟩, rfl⟩

namespace LaidOut

variable {p : Nat} {text : List Char} {ts : List Token}

/-- **A laid-out text is read as its tokens.** -/
theorem tokensFrom_eq (h : LaidOut p text ts) : tokensFrom p text (lexemes text) = ts := by
  induction h with
  | nil => rw [Grammar.lexemes_nil]; rfl
  | @blank p c text ts hc _ ih =>
    obtain ⟨n, ls, hcons, ⟨rfl, htext⟩ | htext⟩ := Grammar.lexemes_blank hc text
    · rw [hcons, tokensFrom_cons_none rfl, ← ih, htext]
      rfl
    · rw [htext, tokensFrom_cons_none rfl] at ih
      rw [hcons, tokensFrom_cons_none rfl, ← ih, List.drop_succ_cons, Nat.add_right_comm,
        Nat.add_assoc]
  | token hx hkind hhead _ ih =>
    rw [Grammar.lexemes_token hx hhead, tokensFrom_cons_some hkind, List.take_left,
      List.drop_left, ih]

/-- Nothing in a laid-out text is fatal. -/
theorem isFatal_eq_false (h : LaidOut p text ts) (policy : Policy) :
    ∀ l ∈ lexemes text, policy.isFatal l.tag = false := by
  induction h with
  | nil =>
    rw [Grammar.lexemes_nil]
    intro l hl
    cases hl
  | @blank p c text ts hc _ ih =>
    obtain ⟨n, ls, hcons, htext⟩ := Grammar.lexemes_blank hc text
    rw [hcons]
    refine List.forall_mem_cons.mpr ⟨rfl, ?_⟩
    intro l hl
    apply ih
    rcases htext with ⟨-, htext⟩ | htext
    · rwa [htext]
    · rw [htext]
      exact List.mem_cons_of_mem _ hl
  | token hx hkind hhead _ ih =>
    rw [Grammar.lexemes_token hx hhead]
    exact List.forall_mem_cons.mpr ⟨Policy.isFatal_of_kind? hkind, ih⟩

theorem replicate (n : Nat) (h : LaidOut (p + n) text ts) :
    LaidOut p (List.replicate n ' ' ++ text) ts := by
  induction n generalizing p with
  | zero => exact h
  | succ n ih =>
    refine LaidOut.blank (by decide) ?_
    apply ih
    rwa [Nat.add_right_comm, Nat.add_assoc]

end LaidOut

theorem Grammar.joins_space {tag : Tag} {kind : Kind} (h : tag.kind? = some kind) :
    joins tag ' ' = false := by
  cases tag with
  | spacing | lineComment | unterminatedString | unterminatedBlockComment => cases h
  | word => decide
  | _ => rfl

/-! ### Tokenizing -/

variable {policy : Policy} {text : String}

theorem extent_lexemes_le (text : List Char) : extent (lexemes text) ≤ text.length :=
  Nat.le_of_eq (Grammar.extent_lexemes text)

/-- Tokenizing finds the tokens of a text. -/
theorem tokenize_eq_ok_iff_tokens (hlength : text.length ≤ maxOffset) {t : Tokenized} :
    tokenize policy text = .ok (.ok t) ↔
      (∀ l ∈ lexemes text.toList, policy.isFatal l.tag = false) ∧
        t = ⟨Source.ofString text, .ofRows true ((tokensOf text.toList).map Token.row)⟩ := by
  rw [tokenize_eq_ok_iff, Source.toList_ofString hlength]
  rw [Table.ofLexemes_eq (extent_lexemes_le _), tokensOf]

theorem LaidOut.tokenize_eq {ts : List Token} (h : LaidOut 0 text.toList ts)
    (hlength : text.length ≤ maxOffset) (policy : Policy) :
    tokenize policy text =
      .ok (.ok ⟨Source.ofString text, .ofRows true (ts.map Token.row)⟩) := by
  refine (tokenize_eq_ok_iff_tokens hlength).mpr ⟨h.isFatal_eq_false policy, ?_⟩
  rw [tokensOf, h.tokensFrom_eq]

end ScriptTokenizer
