/-
  ScriptTokenizer/Proofs/ScanRuns.lean
  ====================================
  **A scan, lexeme by lexeme.**

  What a scan holds is decided by the lexemes that it has passed: the table has
  the rows of those that become tokens, and the events are those of the dropped
  ones (`Table.ofLexemes`, `eventsOf`).  One step keeps it so
  (`scanFrom_passed`), and by induction over the lexemes passed so does any run
  that meets no fatal one (`scan_passed`).

  So there are two ways to end.  Without a fatal lexeme a scan reaches the end
  of the text and has the rows of all of it (`scan_of_clean`); otherwise it
  stops at the first fatal one, and the error names that lexeme and its place
  (`scan_of_fatal`).  Neither faults: rows follow each other as the lexemes do,
  and a fatal lexeme begins inside the text, so its place can be told.
-/
import Mathlib.Data.List.Induction
import ScriptTokenizer.Scan
import ScriptTokenizer.Proofs.Columns
import ScriptTokenizer.Proofs.LexemeRuns
import ScriptTokenizer.Proofs.Places

namespace ScriptTokenizer

open Grammar (placed extent)

/-! ### What becomes of a lexeme -/

def Policy.isFatal (policy : Policy) : Tag → Bool
  | .unterminatedString | .unterminatedBlockComment => true
  | .unrecognized => decide (policy = .reject)
  | _ => false

def Tag.isDropped : Tag → Bool
  | .spacing | .lineComment | .blockComment | .unrecognized => true
  | _ => false

/-- A lexeme that neither becomes a token nor rejects the text is dropped, in one of
    four ways. -/
theorem Policy.cases_of_kind?_eq_none {policy : Policy} {tag : Tag} (hkind : tag.kind? = none)
    (hne : tag ≠ .eof) (hclean : policy.isFatal tag = false) :
    tag = .spacing ∨ tag = .lineComment ∨ tag = .blockComment ∨
      tag = .unrecognized ∧ policy = .skip := by
  cases tag with
  | spacing => exact Or.inl rfl
  | lineComment => exact Or.inr (Or.inl rfl)
  | blockComment => exact Or.inr (Or.inr (Or.inl rfl))
  | unrecognized =>
    cases policy with
    | skip => exact Or.inr (Or.inr (Or.inr ⟨rfl, rfl⟩))
    | reject => cases hclean
  | unterminatedString | unterminatedBlockComment => cases hclean
  | eof => exact absurd rfl hne
  | _ => cases hkind

theorem Tag.isDropped_of_kind? {tag : Tag} {kind : Kind} (h : tag.kind? = some kind) :
    tag.isDropped = false := by
  cases tag <;> first | rfl | cases h

theorem Policy.treat_of_isFatal {policy : Policy} {tag : Tag} (h : policy.isFatal tag = true) :
    policy.treat tag = .fail ∧ tag ≠ .eof := by
  cases tag with
  | unterminatedString | unterminatedBlockComment => exact ⟨rfl, by simp⟩
  | unrecognized =>
    obtain rfl : policy = .reject := of_decide_eq_true h
    exact ⟨rfl, by simp⟩
  | _ => cases h

def Row.ofLexeme (e : Nat × Lexeme) : Row := ⟨e.1, e.2.length, e.2.tag.kind?⟩

/-- The table of the lexemes that become tokens. -/
def Table.ofLexemes (es : List (Nat × Lexeme)) : Table :=
  .ofRows true ((es.filter fun e => e.2.tag.kind?.isSome).map Row.ofLexeme)

def eventOf? (s : Source) (e : Nat × Lexeme) : Option Event :=
  match e.2.tag with
  | .lineComment | .blockComment => some (.droppedComment e.1 e.2.length)
  | .unrecognized => some (.skippedCharacter e.1 (s.charAt? e.1))
  | _ => none

def eventsOf (s : Source) (es : List (Nat × Lexeme)) : List Event := es.filterMap (eventOf? s)

/-- The cause that a lexeme with this tag and start gives for rejecting the text. -/
inductive Cause.Explains (s : Source) (start : Nat) : Tag → Cause → Prop where
  | string : Explains s start .unterminatedString .unterminatedString
  | blockComment : Explains s start .unterminatedBlockComment .unterminatedBlockComment
  | character {found : Char} : s.charAt? start = some found →
      Explains s start .unrecognized (.unrecognized found)

/-! ### One lexeme -/

theorem Table.refines_ofLexemes (es : List (Nat × Lexeme)) :
    (Table.ofLexemes es).Refines
      ((es.filter fun e => e.2.tag.kind?.isSome).map Row.ofLexeme) := by
  apply Table.refines_ofRows
  intro row hrow
  obtain ⟨e, he, rfl⟩ := List.mem_map.mp hrow
  exact (List.mem_filter.mp he).2

theorem Table.rows_ofLexemes (es : List (Nat × Lexeme)) :
    (Table.ofLexemes es).rows.toList =
      (es.filter fun e => e.2.tag.kind?.isSome).map Row.ofLexeme := by
  rw [(Table.refines_ofLexemes es).rows_eq]

/-- Behind all lexemes there were, a table takes any token that has characters. -/
theorem Table.push_ofLexemes {es : List (Nat × Lexeme)} {p : Nat} {l : Lexeme} {kind : Kind}
    (hkind : l.tag.kind? = some kind) (hpos : 0 < l.length)
    (hends : ∀ e ∈ es, e.1 + e.2.length ≤ p) (hp : p ≤ maxOffset) :
    (Table.ofLexemes es).push p l.length kind = .ok (Table.ofLexemes (es ++ [(p, l)])) := by
  refine (Table.refines_ofLexemes es).push_eq_ok_iff.mpr
    ⟨Table.checkBehind_eq_ok_iff.mpr ⟨hpos, ?_⟩, ?_⟩
  · intro last hlast
    obtain ⟨e, he, rfl⟩ := List.mem_map.mp (List.mem_of_getLast? hlast)
    have hend := hends e (List.mem_filter.mp he).1
    exact ⟨Nat.le_trans hend hp, hend⟩
  · simp [Table.ofLexemes, Table.ofRows, Table.rowOf, Row.ofLexeme, hkind]

theorem Table.ofLexemes_concat_of_isDropped {es : List (Nat × Lexeme)} {e : Nat × Lexeme}
    (h : e.2.tag.isDropped = true) : Table.ofLexemes (es ++ [e]) = Table.ofLexemes es := by
  have hkind : e.2.tag.kind?.isSome = false := by
    rcases hkind : e.2.tag.kind? with _ | kind
    · rfl
    · rw [Tag.isDropped_of_kind? hkind] at h
      cases h
  simp [Table.ofLexemes, hkind]

theorem eventsOf_concat_of_some {s : Source} {es : List (Nat × Lexeme)} {e : Nat × Lexeme}
    {event : Event} (h : eventOf? s e = some event) :
    (eventsOf s (es ++ [e])).toArray = (eventsOf s es).toArray.push event := by
  simp [eventsOf, h]

theorem eventsOf_concat_of_none {s : Source} {es : List (Nat × Lexeme)} {e : Nat × Lexeme}
    (h : eventOf? s e = none) : eventsOf s (es ++ [e]) = eventsOf s es := by
  simp [eventsOf, h]

theorem eventOf?_of_kind? {s : Source} {e : Nat × Lexeme} {kind : Kind}
    (h : e.2.tag.kind? = some kind) : eventOf? s e = none := by
  unfold eventOf?
  split <;> simp_all [Tag.kind?]

variable {policy : Policy} {s : Source}

/-- **One step of a scan.**  A lexeme that is not fatal enters what the scan holds. -/
theorem scanFrom_passed {es : List (Nat × Lexeme)} {p : Nat} {l : Lexeme}
    (hnext : Cursor.next ⟨s, p⟩ = .ok l ⟨s, p + l.length⟩) (hne : l.tag ≠ .eof)
    (hclean : policy.isFatal l.tag = false) (hpos : 0 < l.length)
    (hends : ∀ e ∈ es, e.1 + e.2.length ≤ p) (hp : p ≤ maxOffset) :
    scanFrom policy (Table.ofLexemes es) (eventsOf s es).toArray ⟨s, p⟩ =
      scanFrom policy (Table.ofLexemes (es ++ [(p, l)])) (eventsOf s (es ++ [(p, l)])).toArray
        ⟨s, p + l.length⟩ := by
  rw [scanFrom]
  split
  · next hfault => rw [hnext] at hfault; cases hfault
  · next hread =>
    rw [hnext] at hread
    cases hread
    rw [dif_neg hne]
    rcases hkind : l.tag.kind? with _ | kind
    · rcases Policy.cases_of_kind?_eq_none hkind hne hclean with
        htag | htag | htag | ⟨htag, rfl⟩
      · have hdropped : l.tag.isDropped = true := by rw [htag]; rfl
        have hevent : eventOf? s (p, l) = none := by simp [eventOf?, htag]
        rw [Table.ofLexemes_concat_of_isDropped hdropped, eventsOf_concat_of_none hevent]
        simp only [htag]
        rfl
      all_goals
        have hdropped : l.tag.isDropped = true := by rw [htag]; rfl
        have hevent : ∃ event, eventOf? s (p, l) = some event := by simp [eventOf?, htag]
        obtain ⟨event, hevent⟩ := hevent
        rw [Table.ofLexemes_concat_of_isDropped hdropped, eventsOf_concat_of_some hevent]
        simp only [eventOf?, htag, Option.some.injEq] at hevent
        rw [← hevent]
        simp only [htag]
        rfl
    · have htreat : policy.treat l.tag = .keep kind := by
        unfold Policy.treat
        rw [hkind]
      rw [htreat, eventsOf_concat_of_none (eventOf?_of_kind? hkind)]
      simp only [Table.push_ofLexemes hkind hpos hends hp]

/-! ### Many lexemes -/

/-- A lexeme of the source is read by a step from the end of those before it, which
    lies inside the text. -/
theorem Cursor.next_of_split {before after : List Lexeme} {l : Lexeme}
    (h : Grammar.lexemes s.toList = before ++ l :: after) :
    Cursor.next ⟨s, extent before⟩ = .ok l ⟨s, extent before + l.length⟩ ∧
      extent before < s.size := by
  have hbegins := (Grammar.begins_of_split h).1
  have hlt : extent before < s.size :=
    Nat.lt_of_not_le (mt Cursor.drop_eq_nil_iff.mpr hbegins.ne_nil)
  have hnext := Cursor.next_eq (Nat.lt_add_right padding hlt)
  rw [Grammar.lexeme_of_begins hbegins] at hnext
  exact ⟨hnext, hlt⟩

/-- **A run of a scan.**  Past lexemes none of which is fatal, a scan holds their rows
    and events and stands where they end. -/
theorem scan_passed {before after : List Lexeme}
    (hsplit : Grammar.lexemes s.toList = before ++ after)
    (hclean : ∀ l ∈ before, policy.isFatal l.tag = false) :
    scan policy s =
      scanFrom policy (Table.ofLexemes (placed 0 before)) (eventsOf s (placed 0 before)).toArray
        ⟨s, extent before⟩ := by
  induction before using List.reverseRecOn generalizing after with
  | nil => rfl
  | append_singleton before l ih =>
    rw [List.append_assoc, List.singleton_append] at hsplit
    have hmem : l ∈ Grammar.lexemes s.toList := by
      rw [hsplit]
      exact List.mem_append_right before (List.mem_cons_self ..)
    obtain ⟨hnext, hlt⟩ := Cursor.next_of_split hsplit
    have hmax : s.size ≤ maxOffset := s.size_le
    have hends : ∀ e ∈ placed 0 before, e.1 + e.2.length ≤ extent before := by
      intro e he
      have hbounds := Grammar.bounds_of_mem_placed he
      omega
    rw [ih hsplit fun m hm => hclean m (List.mem_append_left _ hm),
      scanFrom_passed hnext (Grammar.tag_ne_eof_of_mem_lexemes hmem)
        (hclean l (List.mem_append_right _ (List.mem_singleton_self l)))
        (Grammar.length_pos_of_mem_lexemes hmem) hends (by omega),
      Grammar.placed_append, Grammar.extent_append, Grammar.extent_cons, Grammar.extent_nil,
      Nat.zero_add, Nat.add_zero]
    rfl

/-! ### The two ends of a scan -/

theorem Policy.clean_or_first_fatal (policy : Policy) (ls : List Lexeme) :
    (∀ l ∈ ls, policy.isFatal l.tag = false) ∨
      ∃ before l after, ls = before ++ l :: after ∧
        (∀ m ∈ before, policy.isFatal m.tag = false) ∧ policy.isFatal l.tag = true := by
  rcases hfind : ls.find? (fun l => policy.isFatal l.tag) with _ | l
  · left
    intro l hl
    exact Bool.eq_false_iff.mpr (List.find?_eq_none.mp hfind l hl)
  · right
    obtain ⟨hfatal, before, after, hsplit, hbefore⟩ := List.find?_eq_some_iff_append.mp hfind
    refine ⟨before, l, after, hsplit, ?_, hfatal⟩
    intro m hm
    simpa using hbefore m hm

theorem scan_of_clean (hclean : ∀ l ∈ Grammar.lexemes s.toList, policy.isFatal l.tag = false) :
    scan policy s =
      .ok ⟨eventsOf s (placed 0 (Grammar.lexemes s.toList)) ++
          [.complete (Table.ofLexemes (placed 0 (Grammar.lexemes s.toList))).size],
        .ok (Table.ofLexemes (placed 0 (Grammar.lexemes s.toList)))⟩ := by
  have hnext := Cursor.next_of_le (Nat.le_refl s.size) (Nat.lt_add_of_pos_right padding_pos)
  rw [scan_passed (List.append_nil _).symm hclean, Cursor.extent_source, scanFrom]
  split
  · next hfault => rw [hnext] at hfault; cases hfault
  · next hread =>
    rw [hnext] at hread
    cases hread
    rw [dif_pos rfl, List.push_toArray]

theorem ScanError.ofLexeme_eq_ok {tag : Tag} {start : Nat} (hfatal : policy.isFatal tag = true)
    (hstart : start < s.size) :
    ∃ cause place, s.lineColumn start = .ok place ∧ Cause.Explains s start tag cause ∧
      ScanError.ofLexeme s tag start = .ok ⟨cause, start, place⟩ := by
  have hmax : s.size ≤ maxOffset := s.size_le
  have hbound : min start s.size < maxOffset := by omega
  have hplace := Source.lineColumn_eq hbound
  generalize (s.toList.take (min start s.size)).foldl LineColumn.behind LineColumn.start = place
    at hplace
  have herror : ∀ cause, ScanError.ofLexeme s tag start =
      (s.lineColumn start).bind (fun location => .ok ⟨cause, start, location⟩) →
      ScanError.ofLexeme s tag start = .ok ⟨cause, start, place⟩ := by
    intro cause h
    rw [h, hplace]
    rfl
  cases tag with
  | unterminatedString =>
    exact ⟨.unterminatedString, place, hplace, .string, herror _ rfl⟩
  | unterminatedBlockComment =>
    exact ⟨.unterminatedBlockComment, place, hplace, .blockComment, herror _ rfl⟩
  | unrecognized =>
    obtain ⟨found, hfound⟩ : ∃ found, s.charAt? start = some found :=
      ⟨_, Array.getElem?_eq_getElem hstart⟩
    refine ⟨.unrecognized found, place, hplace, .character hfound, herror _ ?_⟩
    unfold ScanError.ofLexeme
    rw [hfound]
    rfl
  | _ => cases hfatal

/-- **The first fatal lexeme ends a scan**, with the error for that lexeme. -/
theorem scan_of_fatal {before after : List Lexeme} {l : Lexeme}
    (hsplit : Grammar.lexemes s.toList = before ++ l :: after)
    (hclean : ∀ m ∈ before, policy.isFatal m.tag = false) (hfatal : policy.isFatal l.tag = true) :
    ∃ cause place, s.lineColumn (extent before) = .ok place ∧
      Cause.Explains s (extent before) l.tag cause ∧
      scan policy s =
        .ok ⟨eventsOf s (placed 0 before), .error ⟨cause, extent before, place⟩⟩ := by
  obtain ⟨hnext, hlt⟩ := Cursor.next_of_split hsplit
  obtain ⟨htreat, hne⟩ := Policy.treat_of_isFatal hfatal
  obtain ⟨cause, place, hplace, hcause, herror⟩ := ScanError.ofLexeme_eq_ok hfatal hlt
  refine ⟨cause, place, hplace, hcause, ?_⟩
  rw [scan_passed hsplit hclean, scanFrom]
  split
  · next hfault => rw [hnext] at hfault; cases hfault
  · next hread =>
    rw [hnext] at hread
    cases hread
    rw [dif_neg hne, htreat]
    simp only [herror]

theorem scan_total (policy : Policy) (s : Source) : ∃ report, scan policy s = .ok report := by
  rcases policy.clean_or_first_fatal (Grammar.lexemes s.toList) with
    hclean | ⟨before, l, after, hsplit, hclean, hfatal⟩
  · exact ⟨_, scan_of_clean hclean⟩
  · obtain ⟨cause, place, -, -, hscan⟩ := scan_of_fatal hsplit hclean hfatal
    exact ⟨_, hscan⟩

/-- A scan accepts a text exactly if no lexeme is fatal, and then with the rows of all
    its lexemes. -/
theorem scan_accepts_iff {report : Report} (hscan : scan policy s = .ok report) {t : Table} :
    report.outcome = .ok t ↔
      (∀ l ∈ Grammar.lexemes s.toList, policy.isFatal l.tag = false) ∧
        t = Table.ofLexemes (placed 0 (Grammar.lexemes s.toList)) := by
  rcases policy.clean_or_first_fatal (Grammar.lexemes s.toList) with
    hclean | ⟨before, l, after, hsplit, hclean, hfatal⟩
  · obtain rfl := Except.ok.inj (hscan.symm.trans (scan_of_clean hclean))
    constructor
    · intro h
      exact ⟨hclean, (Except.ok.inj h).symm⟩
    · rintro ⟨-, rfl⟩
      rfl
  · obtain ⟨cause, place, -, -, herror⟩ := scan_of_fatal hsplit hclean hfatal
    obtain rfl := Except.ok.inj (hscan.symm.trans herror)
    constructor
    · intro h
      cases h
    · rintro ⟨hall, -⟩
      have hl : l ∈ Grammar.lexemes s.toList := by
        rw [hsplit]
        exact List.mem_append_right before (List.mem_cons_self ..)
      rw [hall l hl] at hfatal
      cases hfatal

end ScriptTokenizer
