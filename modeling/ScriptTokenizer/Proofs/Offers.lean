/-
  ScriptTokenizer/Proofs/Offers.lean
  ==================================
  **A table is the list of the tokens it took.**

  Whoever fills a table may offer it anything: a token without characters, one
  that overlaps, one behind the largest offset.  The table takes an offer or
  refuses it, and goes on as it was if it refuses.

  A table is therefore known by the offers it took, in their order (`tableOf`):
  its three columns are the starts, the spans and the kinds of these, and a
  fault does not leave one of them longer than the others.  What it says to the
  next offer depends on the last of them only (`Fits`, `Refuses`).  One offer is
  `offer_tableOf`, a run of offers is `offers_tableOf`.  That all tokens of a
  table are apart from each other, and not only each from the next one, is
  `Table.Built.ordered`.

  The end of a token need not be an offset.  A table whose last token ends
  behind the largest offset cannot compare anything with that end, and takes
  nothing more (`Offer.not_fits_of_full`).
-/
import ScriptTokenizer.Proofs.TableGrowth

namespace ScriptTokenizer

/-- A token that is offered to a table.  Where it starts and how much it spans are offsets;
    nothing else is asked of an offer. -/
structure Offer where
  start : Nat
  span : Nat
  kind : Kind
  start_le : start ≤ maxOffset
  span_le : span ≤ maxOffset
deriving DecidableEq, Repr

namespace Offer

variable {taken : List Offer} {o : Offer} {fault : Fault}

/-- Where the offered token ends.  That may be behind the largest offset. -/
def stop (o : Offer) : Nat := o.start + o.span

/-- The row that a table makes of an offer. -/
def row (tracksKinds : Bool) (o : Offer) : Row := Table.rowOf tracksKinds o.start o.span o.kind

/-- An offer fits behind others: it has characters, and the last of the others ends at an
    offset, where the offer starts or before. -/
def Fits (taken : List Offer) (o : Offer) : Prop :=
  o.span ≠ 0 ∧ ∀ last ∈ taken.getLast?, last.stop ≤ maxOffset ∧ last.stop ≤ o.start

instance (taken : List Offer) (o : Offer) : Decidable (Fits taken o) :=
  inferInstanceAs (Decidable (_ ∧ _))

/-- What is reported of an offer that does not fit.  That it has no characters is noticed
    before anything about the last token. -/
inductive Refuses (taken : List Offer) (o : Offer) : Fault → Prop where
  | empty : o.span = 0 → Refuses taken o (.emptyToken o.start)
  | full {last : Offer} : o.span ≠ 0 → taken.getLast? = some last → maxOffset < last.stop →
      Refuses taken o .overflow
  | overlap {last : Offer} : o.span ≠ 0 → taken.getLast? = some last → last.stop ≤ maxOffset →
      o.start < last.stop → Refuses taken o (.overlap o.start)

theorem exists_refuses (h : ¬ Fits taken o) : ∃ fault, Refuses taken o fault := by
  by_cases hspan : o.span = 0
  · exact ⟨_, .empty hspan⟩
  · rcases hlast : taken.getLast? with _ | last
    · refine absurd ⟨hspan, ?_⟩ h
      simp [hlast]
    · by_cases hfull : last.stop ≤ maxOffset
      · refine ⟨_, .overlap hspan hlast hfull ?_⟩
        apply Nat.lt_of_not_le
        intro hle
        apply h
        refine ⟨hspan, ?_⟩
        simp [hlast, hfull, hle]
      · exact ⟨_, .full hspan hlast (Nat.lt_of_not_le hfull)⟩

/-- Behind a token that ends beyond the offsets nothing fits. -/
theorem not_fits_of_full {last : Offer} (hlast : taken.getLast? = some last)
    (hfull : maxOffset < last.stop) : ¬ Fits taken o := by
  rintro ⟨-, h⟩
  have hends := h last hlast
  omega

/-- The offers taken so far and one more, if it fits. -/
def accept (taken : List Offer) (o : Offer) : List Offer :=
  if Fits taken o then taken ++ [o] else taken

/-- The offers that are taken, of those that come one after another. -/
def accepted (offers : List Offer) : List Offer := offers.foldl accept []

end Offer

namespace Table

open Offer (Fits Refuses accept accepted)

/-- A table after it has been offered a token, which it may have refused. -/
def offer (t : Table) (o : Offer) : Table :=
  match write o.start o.span o.kind t with
  | .ok _ t' => t'
  | .error _ t' => t'

def offers (t : Table) (os : List Offer) : Table := os.foldl offer t

/-- The table that holds just these tokens. -/
def tableOf (tracksKinds : Bool) (taken : List Offer) : Table :=
  ofRows tracksKinds (taken.map (Offer.row tracksKinds))

variable {t t' : Table} {tracksKinds : Bool} {taken : List Offer} {o : Offer} {fault : Fault}

theorem offer_of_error (h : write o.start o.span o.kind t = .error fault t') : t.offer o = t' := by
  rw [offer, h]

theorem offer_of_ok (h : write o.start o.span o.kind t = .ok () t') : t.offer o = t' := by
  rw [offer, h]

/-- Offers keep a table one that pushes have built. -/
theorem Built.offers (h : t.Built) (os : List Offer) : (t.offers os).Built := by
  induction os generalizing t with
  | nil => exact h
  | cons o os ih =>
    apply ih
    rcases hwrite : write o.start o.span o.kind t with ⟨⟨⟩, t'⟩ | ⟨fault, t'⟩
    · rw [offer_of_ok hwrite]
      exact h.push o.start_le (push_eq_ok_iff.mpr hwrite)
    · obtain rfl := table_of_write_error hwrite
      rwa [offer_of_error hwrite]

/-! ### Tables of taken offers -/

theorem refines_tableOf :
    (tableOf tracksKinds taken).Refines (taken.map (Offer.row tracksKinds)) := by
  apply refines_ofRows
  intro row hrow
  obtain ⟨o, -, rfl⟩ := List.mem_map.mp hrow
  cases tracksKinds <;> rfl

theorem row?_tableOf (i : Nat) :
    (tableOf tracksKinds taken).row? i = taken[i]?.map (Offer.row tracksKinds) := by
  rw [row?, refines_tableOf.rows_eq, List.getElem?_toArray, List.getElem?_map]

theorem size_tableOf : (tableOf tracksKinds taken).size = taken.length := by
  rw [refines_tableOf.size_eq, List.length_map]

theorem starts_tableOf : (tableOf tracksKinds taken).starts = taken.map Offer.start := by
  simp [tableOf, ofRows, starts, Function.comp_def, Offer.row, rowOf]

theorem spans_tableOf : (tableOf tracksKinds taken).spans = taken.map Offer.span := by
  simp [tableOf, ofRows, spans, Function.comp_def, Offer.row, rowOf]

theorem kinds_tableOf :
    (tableOf tracksKinds taken).kinds = if tracksKinds then taken.map Offer.kind else [] := by
  have hkinds : (tableOf tracksKinds taken).kinds =
      taken.filterMap fun o => if tracksKinds then some o.kind else none := by
    rw [kinds, tableOf, ofRows, List.toList_toArray, List.filterMap_map]
    rfl
  rw [hkinds]
  cases tracksKinds with
  | false => simp
  | true => simp

/-- **What a table takes**, said of the offers it took before. -/
theorem write_tableOf_eq_ok_iff :
    write o.start o.span o.kind (tableOf tracksKinds taken) = .ok () t' ↔
      Fits taken o ∧ t' = tableOf tracksKinds (taken ++ [o]) := by
  have hcheck : checkBehind (taken.map (Offer.row tracksKinds)).getLast? o.start o.span = .ok () ↔
      Fits taken o := by
    rw [checkBehind_eq_ok_iff, List.getLast?_map, Nat.pos_iff_ne_zero]
    simp [Fits, Offer.row, rowOf, Offer.stop]
  have hrows : tableOf tracksKinds (taken ++ [o]) =
      ofRows tracksKinds (taken.map (Offer.row tracksKinds) ++ [o.row tracksKinds]) := by
    rw [tableOf, List.map_append, List.map_singleton]
  rw [refines_tableOf.write_eq_ok_iff, hcheck, hrows]
  rfl

theorem write_of_refuses (h : Refuses taken o fault) :
    write o.start o.span o.kind (tableOf tracksKinds taken) =
      .error fault (tableOf tracksKinds taken) := by
  have hcheck : checkBehind (taken.map (Offer.row tracksKinds)).getLast? o.start o.span =
      .error fault := by
    unfold checkBehind
    rw [List.getLast?_map]
    cases h with
    | empty hspan => simp [hspan]
    | full hspan hlast hfull =>
      have hstop : ¬ _ := Nat.not_le_of_lt hfull
      simp only [Offer.stop] at hstop
      simp [hspan, hlast, addOffsets, Offer.row, rowOf, hstop]
    | overlap hspan hlast hstop hlt =>
      have hnot : ¬ _ := Nat.not_le_of_lt hlt
      simp only [Offer.stop] at hstop hnot
      simp [hspan, hlast, addOffsets, Offer.row, rowOf, hstop, hnot]
  rw [tableOf, write_ofRows, pushRow, hcheck]

/-- **What a table refuses**, and with which fault.  It is then the table it was. -/
theorem write_tableOf_eq_error_iff :
    write o.start o.span o.kind (tableOf tracksKinds taken) = .error fault t' ↔
      Refuses taken o fault ∧ t' = tableOf tracksKinds taken := by
  constructor
  · intro h
    have hfits : ¬ Fits taken o := by
      intro hfits
      cases h.symm.trans (write_tableOf_eq_ok_iff.mpr ⟨hfits, rfl⟩)
    obtain ⟨fault', hrefuses⟩ := Offer.exists_refuses hfits
    cases h.symm.trans (write_of_refuses hrefuses)
    exact ⟨hrefuses, rfl⟩
  · rintro ⟨hrefuses, rfl⟩
    exact write_of_refuses hrefuses

/-- One offer to a table of taken offers. -/
theorem offer_tableOf :
    (tableOf tracksKinds taken).offer o = tableOf tracksKinds (accept taken o) := by
  unfold accept
  split
  · next hfits => exact offer_of_ok (write_tableOf_eq_ok_iff.mpr ⟨hfits, rfl⟩)
  · next hfits =>
    obtain ⟨fault, hrefuses⟩ := Offer.exists_refuses hfits
    exact offer_of_error (write_of_refuses hrefuses)

/-- A run of offers to a table of taken offers. -/
theorem offers_tableOf (os : List Offer) :
    (tableOf tracksKinds taken).offers os = tableOf tracksKinds (os.foldl accept taken) := by
  induction os generalizing taken with
  | nil => rfl
  | cons o os ih =>
    show ((tableOf tracksKinds taken).offer o).offers os = _
    rw [offer_tableOf]
    exact ih

/-- A table that starts empty holds the offers that were accepted. -/
theorem offers_empty (os : List Offer) :
    (Table.empty tracksKinds).offers os = tableOf tracksKinds (accepted os) :=
  @offers_tableOf tracksKinds [] os

/-! ### What a table says of the offers it took -/

/-- The table says of itself that it holds these tokens: column by column, token by token, and
    nothing behind the last one.  Its tokens are apart from each other, none starts before
    its number, and there are no more of them than offsets. -/
structure Holds (t : Table) (tracksKinds : Bool) (taken : List Offer) : Prop where
  starts : t.starts = taken.map Offer.start
  spans : t.spans = taken.map Offer.span
  kinds : t.kinds = if tracksKinds then taken.map Offer.kind else []
  size : t.size = taken.length
  token : ∀ (i : Nat) (o : Offer), taken[i]? = some o →
    t.start i = .ok o.start ∧ t.span i = .ok o.span ∧
      t.kind i = .ok (if tracksKinds then some o.kind else none)
  beyond : ∀ i, taken.length ≤ i →
    t.start i = .error .outOfBounds ∧ t.span i = .error .outOfBounds ∧
      t.kind i = .error (.noSuchToken i taken.length)
  apart : ∀ (i j : Nat) (a b : Offer), i < j → taken[i]? = some a → taken[j]? = some b →
    a.stop ≤ b.start
  number_le : ∀ (i : Nat) (o : Offer), taken[i]? = some o → i ≤ o.start
  size_le : taken.length ≤ maxOffset + 1

theorem Built.holds (h : (tableOf tracksKinds taken).Built) :
    (tableOf tracksKinds taken).Holds tracksKinds taken := by
  have hrow : ∀ i o, taken[i]? = some o →
      (tableOf tracksKinds taken).row? i = some (o.row tracksKinds) := by
    intro i o ho
    rw [row?_tableOf, ho, Option.map_some]
  refine ⟨starts_tableOf, spans_tableOf, kinds_tableOf, size_tableOf, ?_, ?_, ?_, ?_, ?_⟩
  · intro i o ho
    have hat := hrow i o ho
    exact ⟨start_of_row? hat, span_of_row? hat, kind_of_row? hat⟩
  · intro i hi
    have hbeyond := @Refines.beyond _ _ (@refines_tableOf tracksKinds taken) i
    rw [List.length_map] at hbeyond
    exact hbeyond hi
  · intro i j a b hij ha hb
    exact h.ordered hij (hrow i a ha) (hrow j b hb)
  · intro i o ho
    exact (h.row (hrow i o ho)).1
  · rw [← size_tableOf]
    exact h.size_le

/-- A table whose last token ends beyond the offsets takes nothing more. -/
theorem foldl_accept_of_full {last : Offer} (hlast : taken.getLast? = some last)
    (hfull : maxOffset < last.stop) (os : List Offer) : os.foldl accept taken = taken := by
  induction os with
  | nil => rfl
  | cons o os ih =>
    have hskip : accept taken o = taken := if_neg (Offer.not_fits_of_full hlast hfull)
    rwa [List.foldl_cons, hskip]

/-- A token that ends beyond the offsets is the last one. -/
theorem Holds.getLast?_eq_of_full {t : Table} (h : t.Holds tracksKinds taken) (hmem : o ∈ taken)
    (hfull : maxOffset < o.stop) : taken.getLast? = some o := by
  obtain ⟨i, hi⟩ := List.mem_iff_getElem?.mp hmem
  obtain ⟨hlt, -⟩ := List.getElem?_eq_some_iff.mp hi
  rcases Nat.lt_or_ge i (taken.length - 1) with hbefore | hlast
  · -- a token behind it would start beyond the offsets
    have hlast : taken.length - 1 < taken.length := by omega
    have hnext := h.apart i _ o _ hbefore hi (List.getElem?_eq_getElem hlast)
    have hstart := (taken[taken.length - 1]).start_le
    omega
  · obtain rfl : i = taken.length - 1 := by omega
    rw [List.getLast?_eq_getElem?]
    exact hi

/-- **A table is the list of the tokens it took.**  Whatever an empty table has been offered,
    it holds what was accepted, one accepted offer after another.  It refuses the offers that
    do not fit behind the last accepted one, with the fault that says why, and is then the
    table it was.  Once a token ends beyond the offsets it refuses everything. -/
theorem holds_accepted (tracksKinds : Bool) (os : List Offer) :
    let t := (Table.empty tracksKinds).offers os
    t.Holds tracksKinds (accepted os) ∧
    (∀ (o : Offer) fault t', write o.start o.span o.kind t = .error fault t' ↔
      Refuses (accepted os) o fault ∧ t' = t) ∧
    (∀ (o : Offer) t', write o.start o.span o.kind t = .ok () t' ↔
      Fits (accepted os) o ∧ t' = (Table.empty tracksKinds).offers (os ++ [o])) ∧
    (∀ o, ¬ Fits (accepted os) o → t.offer o = t) ∧
    ∀ o ∈ accepted os, maxOffset < o.stop → ∀ more (next : Offer), ∃ fault,
      write next.start next.span next.kind (t.offers more) = .error fault t := by
  intro t
  have ht : t = tableOf tracksKinds (accepted os) := offers_empty os
  have hbuilt : t.Built := (Built.empty tracksKinds).offers os
  have hholds : t.Holds tracksKinds (accepted os) := by
    rw [ht] at hbuilt ⊢
    exact hbuilt.holds
  have hrefuse : ∀ (o : Offer) fault t', write o.start o.span o.kind t = .error fault t' ↔
      Refuses (accepted os) o fault ∧ t' = t := by
    intro o fault t'
    rw [ht]
    exact write_tableOf_eq_error_iff
  refine ⟨hholds, hrefuse, ?_, ?_, ?_⟩
  · intro o t'
    have hnext : (Table.empty tracksKinds).offers (os ++ [o]) = t.offer o := List.foldl_append
    rw [hnext, ht, write_tableOf_eq_ok_iff, offer_tableOf]
    apply and_congr_right
    intro hfits
    rw [accept, if_pos hfits]
  · intro o hfits
    obtain ⟨fault, hrefuses⟩ := Offer.exists_refuses hfits
    exact offer_of_error ((hrefuse o fault t).mpr ⟨hrefuses, rfl⟩)
  · intro o hmem hfull more next
    have hlast := hholds.getLast?_eq_of_full hmem hfull
    have hsame : t.offers more = t := by
      rw [ht, offers_tableOf, foldl_accept_of_full hlast hfull]
    have hfits : ¬ Fits (accepted os) next := Offer.not_fits_of_full hlast hfull
    obtain ⟨fault, hrefuses⟩ := Offer.exists_refuses hfits
    rw [hsame]
    exact ⟨fault, (hrefuse next fault t).mpr ⟨hrefuses, rfl⟩⟩

/-- Of five offers the second overlaps the first and the third has no characters.  The fourth
    ends beyond the offsets, and nothing follows it. -/
theorem holds_two_of_five_offers :
    let first : Offer := ⟨2, 3, .word, by decide, by decide⟩
    let second : Offer := ⟨4, 1, .comma, by decide, by decide⟩
    let third : Offer := ⟨7, 0, .word, by decide, by decide⟩
    let fourth : Offer := ⟨maxOffset, 2, .string, by decide, by decide⟩
    let fifth : Offer := ⟨maxOffset, 1, .word, by decide, by decide⟩
    let t := (Table.empty true).offers [first, second, third, fourth]
    accepted [first, second, third, fourth] = [first, fourth] ∧ t.Holds true [first, fourth] ∧
      write fifth.start fifth.span fifth.kind t = .error .overflow t ∧ t.offer fifth = t ∧
      ∃ fault, write second.start second.span second.kind (t.offers [fifth, third]) =
        .error fault t := by
  intro first second third fourth fifth t
  have haccepted : accepted [first, second, third, fourth] = [first, fourth] := by decide
  have hfull : maxOffset < fourth.stop := by decide
  obtain ⟨hholds, hrefuse, -, hsame, hstop⟩ :=
    holds_accepted true [first, second, third, fourth]
  rw [haccepted] at hholds hrefuse hsame hstop
  have hspan : fifth.span ≠ 0 := by decide
  exact ⟨haccepted, hholds, (hrefuse fifth _ t).mpr ⟨.full hspan rfl hfull, rfl⟩,
    hsame fifth (Offer.not_fits_of_full rfl hfull),
    hstop fourth (by decide) hfull [fifth, third] second⟩

end Table

end ScriptTokenizer
