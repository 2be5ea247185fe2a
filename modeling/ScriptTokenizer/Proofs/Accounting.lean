/-
  ScriptTokenizer/Proofs/Accounting.lean
  ======================================
  **Nothing is dropped in silence.**

  What a scan does not make into tokens it either reports or need not report:
  the only text without a token or an event is blanks within a line.  Rows,
  comments and skipped characters come from different lexemes of one text, so
  they lie apart from each other, and a position that none of them contains
  belongs to a lexeme of blanks (`accounts_ofLexemes`).

  The events are read off the lexemes as the rows are (`commentsOf_eventsOf`,
  `skipsOf_eventsOf`), and an event tells no more of the text than the
  character at its start.  So a scan that fails has reported what the scan of
  the text before its error reports, but for the end that it did not reach
  (`FirstFatal.scan_before`).
-/
import ScriptTokenizer.Proofs.ErrorPlaces
import ScriptTokenizer.Proofs.LineFeeds

namespace ScriptTokenizer

open Grammar (placed extent covers)

/-! ### Events -/

/-- The comment that an event reports as dropped, by start and length. -/
def Event.comment? : Event → Option (Nat × Nat)
  | .droppedComment start length => some (start, length)
  | _ => none

/-- The character that an event reports as skipped, with its position. -/
def Event.skip? : Event → Option (Nat × Option Char)
  | .skippedCharacter start found => some (start, found)
  | _ => none

def commentsOf (events : List Event) : List (Nat × Nat) := events.filterMap Event.comment?

def skipsOf (events : List Event) : List (Nat × Option Char) := events.filterMap Event.skip?

def Tag.isComment : Tag → Bool
  | .lineComment | .blockComment => true
  | _ => false

theorem Tag.isDropped_of_isComment {tag : Tag} (h : tag.isComment = true) :
    tag.isDropped = true := by
  cases tag <;> first | rfl | cases h

/-- What is dropped without a report is blanks. -/
theorem Tag.eq_spacing {tag : Tag} (hdropped : tag.isDropped = true)
    (hcomment : ¬ tag.isComment = true) (hskipped : tag ≠ .unrecognized) : tag = .spacing := by
  cases tag with
  | spacing => rfl
  | lineComment | blockComment => exact absurd rfl hcomment
  | unrecognized => exact absurd rfl hskipped
  | _ => cases hdropped

/-- The stretch of text that a placed lexeme covers, by start and length. -/
def stretch (e : Nat × Lexeme) : Nat × Nat := (e.1, e.2.length)

section Events

variable {s t : Source} {es : List (Nat × Lexeme)}

theorem commentsOf_append (as bs : List Event) :
    commentsOf (as ++ bs) = commentsOf as ++ commentsOf bs := List.filterMap_append

theorem skipsOf_append (as bs : List Event) : skipsOf (as ++ bs) = skipsOf as ++ skipsOf bs :=
  List.filterMap_append

theorem commentsOf_complete (events : List Event) (n : Nat) :
    commentsOf (events ++ [.complete n]) = commentsOf events := by
  rw [commentsOf_append]
  exact List.append_nil _

theorem skipsOf_complete (events : List Event) (n : Nat) :
    skipsOf (events ++ [.complete n]) = skipsOf events := by
  rw [skipsOf_append]
  exact List.append_nil _

theorem eventsOf_cons (s : Source) (e : Nat × Lexeme) (es : List (Nat × Lexeme)) :
    eventsOf s (e :: es) = (eventOf? s e).toList ++ eventsOf s es := by
  unfold eventsOf
  rcases hevent : eventOf? s e with _ | event
  · rw [List.filterMap_cons_none hevent]
    rfl
  · rw [List.filterMap_cons_some hevent]
    rfl

theorem commentsOf_eventsOf (s : Source) (es : List (Nat × Lexeme)) :
    commentsOf (eventsOf s es) = (es.filter fun e => e.2.tag.isComment).map stretch := by
  induction es with
  | nil => rfl
  | cons e es ih =>
    obtain ⟨p, tag, length⟩ := e
    rw [eventsOf_cons, commentsOf_append, ih]
    cases tag <;> rfl

theorem skipsOf_eventsOf (s : Source) (es : List (Nat × Lexeme)) :
    skipsOf (eventsOf s es) =
      (es.filter (hasTag .unrecognized)).map fun e => (e.1, s.charAt? e.1) := by
  induction es with
  | nil => rfl
  | cons e es ih =>
    obtain ⟨p, tag, length⟩ := e
    rw [eventsOf_cons, skipsOf_append, ih]
    cases tag <;> rfl

theorem skipped_notMem {events : List Event} (h : skipsOf events = []) (start : Nat)
    (found : Option Char) : .skippedCharacter start found ∉ events := by
  intro hmem
  have hskip : (start, found) ∈ skipsOf events := List.mem_filterMap.mpr ⟨_, hmem, rfl⟩
  rw [h] at hskip
  cases hskip

/-- No lexeme reports that the end was reached. -/
theorem complete_notMem_eventsOf (s : Source) (es : List (Nat × Lexeme)) (n : Nat) :
    Event.complete n ∉ eventsOf s es := by
  intro hmem
  obtain ⟨⟨p, tag, length⟩, -, hevent⟩ := List.mem_filterMap.mp hmem
  cases tag <;> cases hevent

/-- Sources that have the same characters where the lexemes start report the same. -/
theorem eventsOf_congr (h : ∀ e ∈ es, s.charAt? e.1 = t.charAt? e.1) :
    eventsOf s es = eventsOf t es := by
  apply List.filterMap_congr
  intro e he
  unfold eventOf?
  rw [h e he]

end Events

/-! ### Stretches of text -/

/-- Neither stretch begins before the other one ends. -/
def Apart (a b : Nat × Nat) : Prop := a.1 + a.2 ≤ b.1 ∨ b.1 + b.2 ≤ a.1

/-- The stretches that a table and events account for: tokens, comments and skipped
    characters. -/
def accounted (t : Table) (events : List Event) : List (Nat × Nat) :=
  t.rows.toList.map (fun row => (row.start, row.span)) ++ commentsOf events ++
    (skipsOf events).map fun skip => (skip.1, 1)

/-- A table and events account for all of a text but blanks within lines. -/
structure Accounts (s : Source) (t : Table) (events : List Event) : Prop where
  apart : (accounted t events).Pairwise Apart
  inside : ∀ a ∈ accounted t events, 1 ≤ a.2 ∧ a.1 + a.2 ≤ s.size
  comments_ordered : (commentsOf events).Pairwise fun a b => a.1 < b.1
  skips_ordered : (skipsOf events).Pairwise fun a b => a.1 < b.1
  found : ∀ skip ∈ skipsOf events, ∃ c, skip.2 = some c ∧ s.charAt? skip.1 = some c
  rest : ∀ i c, s.charAt? i = some c → (∀ a ∈ accounted t events, ¬ (a.1 ≤ i ∧ i < a.1 + a.2)) →
    isBlank c = true ∧ c ≠ '\n'

namespace Grammar

variable {text : List Char} {n : Nat}

theorem Begins.length_unrecognized (h : Begins text .unrecognized n) : n = 1 := by
  cases h with
  | unrecognized => rfl
  | symbol => rfl

theorem Begins.isSpacing_of_mem (h : Begins text .spacing n) {c : Char} (hc : c ∈ text.take n) :
    isSpacing c = true := by
  cases h with
  | spacing =>
    obtain ⟨k, hk, hget⟩ := List.mem_take_iff_getElem.mp hc
    exact holds_of_lt_runLength (Nat.lt_of_lt_of_le hk (Nat.min_le_left _ _))
      (List.getElem?_eq_some_iff.mpr ⟨_, hget⟩)
  | symbol _ hmem => simp [symbols] at hmem

end Grammar

section Stretches

variable {policy : Policy} {s : Source} {p : Nat} {ls : List Lexeme} {a b : Nat × Lexeme}

/-- Placed lexemes lie apart. -/
theorem pairwise_apart (p : Nat) (ls : List Lexeme) :
    (placed p ls).Pairwise fun a b => Apart (stretch a) (stretch b) :=
  (Grammar.pairwise_placed p ls).imp Or.inl

theorem apart_of_tag_ne (ha : a ∈ placed p ls) (hb : b ∈ placed p ls)
    (hne : a.2.tag ≠ b.2.tag) : Apart (stretch a) (stretch b) := by
  have hsymm : Std.Symm fun a b : Nat × Lexeme => Apart (stretch a) (stretch b) :=
    ⟨fun _ _ h => h.symm⟩
  apply (pairwise_apart p ls).forall ha hb
  rintro rfl
  exact hne rfl

/-- The lexemes that are accounted for: tokens, comments and skipped characters. -/
def accountedLexemes (es : List (Nat × Lexeme)) : List (Nat × Lexeme) :=
  (es.filter fun e => !e.2.tag.isDropped) ++ (es.filter fun e => e.2.tag.isComment) ++
    es.filter (hasTag .unrecognized)

theorem mem_accountedLexemes {es : List (Nat × Lexeme)} {e : Nat × Lexeme} :
    e ∈ accountedLexemes es ↔
      e ∈ es ∧
        (e.2.tag.isDropped = false ∨ e.2.tag.isComment = true ∨ e.2.tag = .unrecognized) := by
  simp [accountedLexemes, hasTag, and_or_left]

theorem pairwise_accountedLexemes (p : Nat) (ls : List Lexeme) :
    (accountedLexemes (placed p ls)).Pairwise fun a b => Apart (stretch a) (stretch b) := by
  have hpairs := pairwise_apart p ls
  unfold accountedLexemes
  rw [List.pairwise_append, List.pairwise_append]
  refine ⟨⟨hpairs.filter _, hpairs.filter _, ?_⟩, hpairs.filter _, ?_⟩
  · intro a ha b hb
    obtain ⟨ha, hkept⟩ := List.mem_filter.mp ha
    obtain ⟨hb, hcomment⟩ := List.mem_filter.mp hb
    refine apart_of_tag_ne ha hb ?_
    intro htag
    rw [htag, Tag.isDropped_of_isComment hcomment] at hkept
    cases hkept
  · intro a ha b hb
    obtain ⟨hb, hskipped⟩ := List.mem_filter.mp hb
    rcases List.mem_append.mp ha with ha | ha
    all_goals
      obtain ⟨ha, hclass⟩ := List.mem_filter.mp ha
      refine apart_of_tag_ne ha hb ?_
      intro htag
      rw [htag, beq_iff_eq.mp hskipped] at hclass
      cases hclass

theorem accounted_ofLexemes
    (hclean : ∀ l ∈ Grammar.lexemes s.toList, policy.isFatal l.tag = false)
    (hone : ∀ e ∈ placed 0 (Grammar.lexemes s.toList), e.2.tag = .unrecognized →
      e.2.length = 1) :
    accounted (Table.ofLexemes (placed 0 (Grammar.lexemes s.toList)))
        (eventsOf s (placed 0 (Grammar.lexemes s.toList))) =
      (accountedLexemes (placed 0 (Grammar.lexemes s.toList))).map stretch := by
  have hskips : (((placed 0 (Grammar.lexemes s.toList)).filter (hasTag .unrecognized)).map
      fun e => (e.1, s.charAt? e.1)).map (fun skip => (skip.1, 1)) =
        ((placed 0 (Grammar.lexemes s.toList)).filter (hasTag .unrecognized)).map stretch := by
    rw [List.map_map]
    apply List.map_congr_left
    intro e he
    obtain ⟨he, htag⟩ := List.mem_filter.mp he
    simp [stretch, hone e he (beq_iff_eq.mp htag)]
  rw [accounted, commentsOf_eventsOf, skipsOf_eventsOf, hskips, accountedLexemes, List.map_append,
    List.map_append, rows_eq_of_clean hclean]
  simp [Row.ofLexeme, stretch, Function.comp_def]

/-- A character that none of these lexemes covers is a blank within a line. -/
theorem isSpacing_of_not_accounted {i : Nat} {c : Char} (hc : s.charAt? i = some c)
    (hnone : ∀ e ∈ accountedLexemes (placed 0 (Grammar.lexemes s.toList)), ¬ covers i e = true) :
    isSpacing c = true := by
  have hlt : i < s.size := (Array.getElem?_eq_some_iff.mp hc).1
  obtain ⟨e, he, hcovers⟩ := Cursor.exists_covers hlt
  have hout := mt (hnone e) (not_not_intro hcovers)
  rw [mem_accountedLexemes, not_and, not_or, not_or] at hout
  obtain ⟨hdropped, hcomment, hskipped⟩ := hout he
  have htag := Tag.eq_spacing (eq_true_of_ne_false hdropped) hcomment hskipped
  have hbegins := Grammar.begins_of_mem_placed he
  rw [htag] at hbegins
  exact hbegins.isSpacing_of_mem (Source.mem_charsAt_of_covers hc hcovers)

/-- **Rows and events account for a text.** -/
theorem accounts_ofLexemes
    (hclean : ∀ l ∈ Grammar.lexemes s.toList, policy.isFatal l.tag = false) :
    Accounts s (Table.ofLexemes (placed 0 (Grammar.lexemes s.toList)))
      (eventsOf s (placed 0 (Grammar.lexemes s.toList))) := by
  have hbegins : ∀ e ∈ placed 0 (Grammar.lexemes s.toList),
      Grammar.Begins (s.toList.drop e.1) e.2.tag e.2.length :=
    fun _ he => Grammar.begins_of_mem_placed he
  have hone : ∀ e ∈ placed 0 (Grammar.lexemes s.toList), e.2.tag = .unrecognized →
      e.2.length = 1 := by
    intro e he htag
    have h := hbegins e he
    rw [htag] at h
    exact h.length_unrecognized
  have hinside : ∀ e ∈ placed 0 (Grammar.lexemes s.toList),
      1 ≤ e.2.length ∧ e.1 + e.2.length ≤ s.size := by
    intro e he
    have hbounds := (Grammar.bounds_of_mem_placed he).2
    rw [Nat.zero_add, Cursor.extent_source] at hbounds
    exact ⟨(hbegins e he).length_pos, hbounds⟩
  have hordered : (placed 0 (Grammar.lexemes s.toList)).Pairwise fun a b => a.1 < b.1 := by
    refine List.Pairwise.imp_of_mem ?_ (Grammar.pairwise_placed 0 _)
    intro a b ha _ hab
    have := (hinside a ha).1
    omega
  have haccounted := accounted_ofLexemes hclean hone
  constructor
  case apart =>
    rw [haccounted, List.pairwise_map]
    exact pairwise_accountedLexemes 0 _
  case inside =>
    rw [haccounted]
    intro a ha
    obtain ⟨e, he, rfl⟩ := List.mem_map.mp ha
    exact hinside e (mem_accountedLexemes.mp he).1
  case comments_ordered =>
    rw [commentsOf_eventsOf, List.pairwise_map]
    exact hordered.filter _
  case skips_ordered =>
    rw [skipsOf_eventsOf, List.pairwise_map]
    exact hordered.filter _
  case found =>
    rw [skipsOf_eventsOf]
    intro skip hskip
    obtain ⟨e, he, rfl⟩ := List.mem_map.mp hskip
    have hlt : e.1 < s.size := by
      have := hinside e (List.mem_filter.mp he).1
      omega
    exact ⟨_, Array.getElem?_eq_getElem hlt, Array.getElem?_eq_getElem hlt⟩
  case rest =>
    rw [haccounted]
    intro i c hc hnone
    have hspacing : isSpacing c = true := by
      apply isSpacing_of_not_accounted hc
      intro e he hcovers
      exact hnone (stretch e) (List.mem_map_of_mem he) (Grammar.covers_iff.mp hcovers)
    exact (isSpacing_iff.mp hspacing).symm

theorem Accounts.complete {t : Table} {events : List Event} (h : Accounts s t events) (n : Nat) :
    Accounts s t (events ++ [.complete n]) := by
  have haccounted : accounted t (events ++ [.complete n]) = accounted t events := by
    rw [accounted, commentsOf_complete, skipsOf_complete, accounted]
  obtain ⟨apart, inside, comments, skips, found, rest⟩ := h
  rw [← haccounted] at apart inside rest
  rw [← commentsOf_complete events n] at comments
  rw [← skipsOf_complete events n] at skips found
  exact ⟨apart, inside, comments, skips, found, rest⟩

end Stretches

/-! ### Scans that fail -/

section Failures

variable {policy : Policy} {s : Source} {before after : List Lexeme} {l : Lexeme} {e : ScanError}

theorem Source.charAt?_between_of_lt {i q : Nat} (hi : i < q) :
    (s.between 0 q).charAt? i = s.charAt? i := by
  rw [Source.charAt?_eq, Source.toList_between, List.drop_zero, Nat.sub_zero,
    List.getElem?_take_of_lt hi, Source.charAt?_eq]

/-- The text before an error reports what was reported before the error, and its end. -/
theorem FirstFatal.scan_before (h : FirstFatal policy s before l after e) :
    scan policy (s.between 0 e.start) =
      .ok ⟨eventsOf s (placed 0 before) ++ [.complete (Table.ofLexemes (placed 0 before)).size],
        .ok (Table.ofLexemes (placed 0 before))⟩ := by
  have hclean : ∀ m ∈ Grammar.lexemes (s.between 0 e.start).toList,
      policy.isFatal m.tag = false := by
    rw [h.lexemes_before]
    exact h.clean
  have hevents : eventsOf (s.between 0 e.start) (placed 0 before) =
      eventsOf s (placed 0 before) := by
    apply eventsOf_congr
    intro d hd
    apply Source.charAt?_between_of_lt
    have hbounds := (Grammar.bounds_of_mem_placed hd).2
    have hmem : d.2 ∈ Grammar.lexemes s.toList := by
      rw [h.split]
      exact List.mem_append_left _ (Grammar.snd_mem_of_mem_placed hd)
    have hlength := Grammar.length_pos_of_mem_lexemes hmem
    rw [h.start]
    omega
  rw [scan_of_clean hclean, h.lexemes_before, hevents]

/-- Where characters outside the grammar are mistakes, none is skipped. -/
theorem skipsOf_eventsOf_reject {ls : List Lexeme} {p : Nat}
    (hclean : ∀ l ∈ ls, Policy.reject.isFatal l.tag = false) :
    skipsOf (eventsOf s (placed p ls)) = [] := by
  rw [skipsOf_eventsOf, List.map_eq_nil_iff, List.filter_eq_nil_iff]
  intro d hd htag
  have := hclean d.2 (Grammar.snd_mem_of_mem_placed hd)
  rw [beq_iff_eq.mp htag] at this
  cases this

end Failures

/-- **Nothing is dropped in silence.**  Where a scan accepts a text, its table and its events
    account for all of it but blanks within lines, and the last event tells how many tokens
    there are.  Where it rejects a text, it has reported what is reported of the text before
    the error, but not that the end was reached.  And where characters outside the grammar are
    mistakes, none is reported as skipped. -/
theorem nothing_dropped_in_silence (policy : Policy) (s : Source) :
    ∃ report, scan policy s = .ok report ∧
      (∀ t, report.outcome = .ok t → Accounts s t report.events ∧
        ∃ dropped, report.events = dropped ++ [.complete t.size] ∧
          ∀ n, .complete n ∉ dropped) ∧
      (∀ e, report.outcome = .error e → (∀ n, .complete n ∉ report.events) ∧
        ∃ t, scan policy (s.between 0 e.start) =
          .ok ⟨report.events ++ [.complete t.size], .ok t⟩) ∧
      (policy = .reject → ∀ start found, .skippedCharacter start found ∉ report.events) := by
  rcases policy.clean_or_first_fatal (Grammar.lexemes s.toList) with
    hclean | ⟨before, l, after, hsplit, hclean, hfatal⟩
  · refine ⟨_, scan_of_clean hclean, ?_, ?_, ?_⟩
    · intro t ht
      obtain rfl := Except.ok.inj ht
      exact ⟨(accounts_ofLexemes hclean).complete _, _, rfl, complete_notMem_eventsOf s _⟩
    · intro e he
      cases he
    · rintro rfl
      apply skipped_notMem
      rw [skipsOf_complete]
      exact skipsOf_eventsOf_reject hclean
  · obtain ⟨cause, place, hplace, hcause, hscan⟩ := scan_of_fatal hsplit hclean hfatal
    refine ⟨_, hscan, ?_, ?_, ?_⟩
    · intro t ht
      cases ht
    · intro e he
      obtain rfl := Except.error.inj he
      have hfirst : FirstFatal policy s before l after ⟨cause, extent before, place⟩ :=
        ⟨hsplit, hclean, hfatal, rfl, hplace, hcause⟩
      exact ⟨complete_notMem_eventsOf s _, _, hfirst.scan_before⟩
    · rintro rfl
      exact skipped_notMem (skipsOf_eventsOf_reject hclean)

/-- A comment and a character outside the grammar are reported; the blanks around them are not. -/
example : scan .skip (Source.ofString "< x--[[\n]] ") =
    .ok ⟨[.skippedCharacter 0 (some '<'), .droppedComment 3 7, .complete 1],
      .ok (.ofRows true [⟨2, 1, some .word⟩])⟩ := by
  decide +kernel

end ScriptTokenizer
