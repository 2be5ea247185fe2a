/-
  ScriptTokenizer/Proofs/Respacing.lean
  =====================================
  **Tokens printed with single spaces are the same tokens.**

  A table can be printed: the texts of its tokens, with one space between each
  two (`Tokenized.spaced`).  The result is laid out, whatever the tokens are and
  in whatever order they come, because no token goes on into a space.  So it is
  tokenized as the same kinds and texts, only at other places, and printing it
  once more changes nothing (`tokenize_spaced`).

  Line feeds are tokens and are printed as such, and strings may hold anything,
  so the printed text can have more than one line.
-/
import ScriptTokenizer.Proofs.Layout

namespace ScriptTokenizer

open Grammar (Begins)

/-! ### Printing -/

/-- The texts of the tokens, in order. -/
def Tokenized.texts (t : Tokenized) : Except Fault (List String) :=
  t.table.rows.toList.mapM fun row => t.source.text row.start row.span

/-- The texts of the tokens with a space between each two. -/
def Tokenized.spaced (t : Tokenized) : Except Fault String := do
  return " ".intercalate (← t.texts)

def Token.text (t : Token) : String := String.ofList t.chars

theorem mapM_text_rows {s : Source} {ts : List Token}
    (h : ∀ t ∈ ts, s.text t.start t.chars.length = .ok t.text) :
    (ts.map Token.row).mapM (fun row => s.text row.start row.span) =
      .ok (ts.map Token.text) := by
  induction ts with
  | nil => rfl
  | cons t ts ih =>
    obtain ⟨hfirst, hrest⟩ := List.forall_mem_cons.mp h
    have hrow : s.text t.row.start t.row.span = .ok t.text := hfirst
    rw [List.map_cons, List.mapM_cons, hrow, ih hrest]
    rfl

/-- Every token has a kind. -/
theorem tracked_rows (ts : List Token) : ∀ row ∈ ts.map Token.row, row.kind.isSome = true := by
  intro row hrow
  obtain ⟨t, -, rfl⟩ := List.mem_map.mp hrow
  rfl

/-- The texts of a table are those of the tokens that tokenizing finds. -/
theorem Tokenized.texts_eq {text : String} (hlength : text.length ≤ maxOffset) :
    Tokenized.texts ⟨Source.ofString text, .ofRows true ((tokensOf text.toList).map Token.row)⟩ =
      .ok ((tokensOf text.toList).map Token.text) := by
  rw [Tokenized.texts, Table.rows_ofRows (tracked_rows _)]
  apply mapM_text_rows
  intro t ht
  obtain ⟨q, hstart, hle, htake⟩ := take_of_mem_tokensFrom (extent_lexemes_le _) ht
  rw [Nat.zero_add] at hstart
  subst hstart
  rw [Token.text, Source.text_eq_ok_iff, Source.toList_ofString hlength, htake]
  rwa [Source.size_ofString hlength, ← String.length_toList]

theorem Tokenized.spaced_eq {t : Tokenized} {texts : List String} (h : t.texts = .ok texts) :
    t.spaced = .ok (" ".intercalate texts) := by
  rw [Tokenized.spaced, h]
  rfl

/-! ### Laying out what is printed -/

/-- The same tokens with a blank between each two, from position `p` on. -/
def respace (p : Nat) : List Token → List Token
  | [] => []
  | t :: ts => { t with start := p } :: respace (p + t.chars.length + 1) ts

theorem map_respace {α : Type} {f : Token → α} (hf : ∀ t p, f { t with start := p } = f t)
    (p : Nat) (ts : List Token) : (respace p ts).map f = ts.map f := by
  induction ts generalizing p with
  | nil => rfl
  | cons t ts ih => rw [respace, List.map_cons, List.map_cons, hf, ih]

theorem laidOut_respace {ts : List Token}
    (h : ∀ t ∈ ts, ∃ tag, Begins t.chars tag t.chars.length ∧ tag.kind? = some t.kind) (p : Nat) :
    LaidOut p ([' '].intercalate (ts.map Token.chars)) (respace p ts) := by
  induction ts generalizing p with
  | nil => exact .nil
  | cons t ts ih =>
    obtain ⟨⟨tag, hbegins, hkind⟩, hrest⟩ := List.forall_mem_cons.mp h
    rcases ts with _ | ⟨u, ts⟩
    · rw [List.map_singleton, List.intercalate_singleton, ← List.append_nil t.chars]
      refine .token hbegins hkind ?_ .nil
      intro c hc
      cases hc
    · rw [List.map_cons, List.map_cons, List.intercalate_cons_cons, List.append_assoc]
      refine .token hbegins hkind ?_ (.blank (by decide) ?_)
      · rintro c ⟨⟩
        exact Grammar.joins_space hkind
      · exact ih hrest (p + t.chars.length + 1)

/-- **Tokens printed with single spaces are the same tokens.**  The tokens of an accepted
    text can be printed, and what is printed is accepted even where characters outside the
    grammar are rejected.  It has as many tokens, of the same kinds and with the same texts,
    and is what they are printed as. -/
theorem tokenize_spaced {text : String} (hlength : text.length ≤ maxOffset) {t : Tokenized}
    (h : tokenize .skip text = .ok (.ok t)) :
    ∃ texts printed, t.texts = .ok texts ∧ t.spaced = .ok printed ∧
      (printed.length ≤ maxOffset → ∀ policy, ∃ u, tokenize policy printed = .ok (.ok u) ∧
        u.table.size = t.table.size ∧
        u.table.rows.toList.map Row.kind = t.table.rows.toList.map Row.kind ∧
        u.texts = .ok texts ∧ u.spaced = .ok printed) := by
  obtain ⟨-, rfl⟩ := (tokenize_eq_ok_iff_tokens hlength).mp h
  have htexts := Tokenized.texts_eq hlength
  refine ⟨_, _, htexts, Tokenized.spaced_eq htexts, ?_⟩
  intro hprinted policy
  generalize hts : tokensOf text.toList = ts at hprinted ⊢
  have hchars : (" ".intercalate (ts.map Token.text)).toList =
      [' '].intercalate (ts.map Token.chars) := by
    rw [String.toList_intercalate, List.map_map]
    congr 1
    exact List.map_congr_left fun t _ => String.toList_ofList
  have hlaid : LaidOut 0 (" ".intercalate (ts.map Token.text)).toList (respace 0 ts) := by
    rw [hchars]
    apply laidOut_respace
    intro t ht
    rw [← hts] at ht
    exact begins_of_mem_tokensFrom ht
  have hagain := hlaid.tokenize_eq hprinted policy
  have htokens : tokensOf (" ".intercalate (ts.map Token.text)).toList = respace 0 ts :=
    hlaid.tokensFrom_eq
  have htexts' := Tokenized.texts_eq hprinted
  rw [htokens, map_respace (f := Token.text) fun _ _ => rfl] at htexts'
  have hkinds : ((respace 0 ts).map Token.row).map Row.kind = (ts.map Token.row).map Row.kind := by
    rw [List.map_map, List.map_map]
    exact map_respace (fun _ _ => rfl) 0 ts
  have hrefines := Table.refines_ofRows (tracked_rows ts)
  have hrefines' := Table.refines_ofRows (tracked_rows (respace 0 ts))
  refine ⟨_, hagain, ?_, ?_, htexts', Tokenized.spaced_eq htexts'⟩
  · rw [hrefines.size_eq, hrefines'.size_eq]
    simpa using congrArg List.length hkinds
  · rw [hrefines.rows_eq, hrefines'.rows_eq]
    exact hkinds

/-- A comment that keeps tokens apart is printed as a space. -/
theorem tokenize_spaced_comments :
    let text := "a--[[c]]b\\'\\''--[[d]]-\n1"
    let t : Tokenized := ⟨Source.ofString text,
      .ofRows true [⟨0, 1, some .word⟩, ⟨8, 1, some .word⟩, ⟨10, 4, some .string⟩,
        ⟨21, 1, some .sub⟩, ⟨22, 1, some .newline⟩, ⟨23, 1, some .number⟩]⟩
    text.length ≤ maxOffset ∧ tokenize .skip text = .ok (.ok t) ∧
      t.spaced = .ok "a b '\\'' - \n 1" ∧
      ∃ u, tokenize .reject "a b '\\'' - \n 1" = .ok (.ok u) ∧ u.table.size = 6 ∧
        u.texts = .ok ["a", "b", "'\\''", "-", "\n", "1"] := by
  intro text t
  have hlength : text.length ≤ maxOffset := by decide
  have h : tokenize .skip text = .ok (.ok t) := by decide +kernel
  have htexts : t.texts = .ok ["a", "b", "'\\''", "-", "\n", "1"] := by decide +kernel
  have hspaced : t.spaced = .ok "a b '\\'' - \n 1" := by decide +kernel
  obtain ⟨texts, printed, htexts', hspaced', hagain⟩ := tokenize_spaced hlength h
  obtain rfl := Except.ok.inj (htexts.symm.trans htexts')
  obtain rfl := Except.ok.inj (hspaced.symm.trans hspaced')
  obtain ⟨u, hu, hsize, -, htexts, -⟩ := hagain (by decide) .reject
  exact ⟨hlength, h, hspaced, u, hu, hsize, htexts⟩

end ScriptTokenizer
