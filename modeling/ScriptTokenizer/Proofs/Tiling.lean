/-
  ScriptTokenizer/Proofs/Tiling.lean
  ==================================
  **Placed lexemes tile a stretch of text.**

  Placed lexemes follow each other without gap and without overlap: each begins
  where those before it end (`mem_placed_iff`), and every position of the
  stretch is covered by exactly one of them (`countP_covers_placed`).  None of
  this depends on what a lexeme is; only that lexemes have characters is needed
  where their number is compared with the length of the stretch.
-/
import ScriptTokenizer.Lexeme.Grammar

namespace ScriptTokenizer.Grammar

/-- The number of characters that lexemes have together. -/
def extent : List Lexeme → Nat
  | [] => 0
  | l :: ls => l.length + extent ls

@[simp] theorem extent_nil : extent [] = 0 := rfl

@[simp] theorem extent_cons (l : Lexeme) (ls : List Lexeme) :
    extent (l :: ls) = l.length + extent ls := rfl

theorem extent_append (ls ms : List Lexeme) : extent (ls ++ ms) = extent ls + extent ms := by
  induction ls with
  | nil => exact (Nat.zero_add _).symm
  | cons l ls ih => rw [List.cons_append, extent_cons, extent_cons, ih, Nat.add_assoc]

theorem extent_take_le (ls : List Lexeme) (n : Nat) : extent (ls.take n) ≤ extent ls := by
  have h := extent_append (ls.take n) (ls.drop n)
  rw [List.take_append_drop] at h
  omega

theorem map_snd_placed (p : Nat) (ls : List Lexeme) : (placed p ls).map Prod.snd = ls := by
  induction ls generalizing p with
  | nil => rfl
  | cons l ls ih => rw [placed, List.map_cons, ih]

theorem length_placed (p : Nat) (ls : List Lexeme) : (placed p ls).length = ls.length := by
  rw [← List.length_map (f := Prod.snd), map_snd_placed]

theorem forall_mem_placed_iff {p : Nat} {ls : List Lexeme} {P : Lexeme → Prop} :
    (∀ e ∈ placed p ls, P e.2) ↔ ∀ l ∈ ls, P l := by
  constructor
  · intro h l hl
    rw [← map_snd_placed p ls] at hl
    obtain ⟨e, he, rfl⟩ := List.mem_map.mp hl
    exact h e he
  · intro h e he
    apply h
    rw [← map_snd_placed p ls]
    exact List.mem_map_of_mem he

theorem placed_add (n p : Nat) (ls : List Lexeme) :
    placed (n + p) ls = (placed p ls).map fun e => (n + e.1, e.2) := by
  induction ls generalizing p with
  | nil => rfl
  | cons l ls ih => rw [placed, placed, List.map_cons, Nat.add_assoc, ih]

theorem placed_append (p : Nat) (ls ms : List Lexeme) :
    placed p (ls ++ ms) = placed p ls ++ placed (p + extent ls) ms := by
  induction ls generalizing p with
  | nil => rfl
  | cons l ls ih =>
    rw [List.cons_append, placed, placed, ih, List.cons_append, extent_cons, Nat.add_assoc]

theorem placed_prefix {p : Nat} {ls ms : List Lexeme} (h : ls <+: ms) :
    placed p ls <+: placed p ms := by
  obtain ⟨rest, rfl⟩ := h
  rw [placed_append]
  exact List.prefix_append _ _

theorem dropLast_placed (p : Nat) (ls : List Lexeme) :
    (placed p ls).dropLast = placed p ls.dropLast := by
  induction ls generalizing p with
  | nil => rfl
  | cons l ls ih =>
    cases ls with
    | nil => rfl
    | cons m ls => exact congrArg ((p, l) :: ·) (ih (p + l.length))

theorem mem_placed_iff {p q : Nat} {l : Lexeme} {ls : List Lexeme} :
    (q, l) ∈ placed p ls ↔ ∃ before after, ls = before ++ l :: after ∧ q = p + extent before := by
  induction ls generalizing p with
  | nil => simp [placed]
  | cons m ls ih =>
    rw [placed, List.mem_cons, ih]
    constructor
    · rintro (h | ⟨before, after, rfl, rfl⟩)
      · obtain ⟨rfl, rfl⟩ := Prod.mk.inj h
        exact ⟨[], ls, rfl, rfl⟩
      · exact ⟨m :: before, after, rfl, by rw [extent_cons, Nat.add_assoc]⟩
    · rintro ⟨before, after, hsplit, rfl⟩
      rcases before with _ | ⟨m', before⟩
      · obtain ⟨rfl, rfl⟩ := List.cons.inj hsplit
        exact Or.inl rfl
      · obtain ⟨rfl, rfl⟩ := List.cons.inj hsplit
        exact Or.inr ⟨before, after, rfl, by rw [extent_cons, Nat.add_assoc]⟩

theorem snd_mem_of_mem_placed {p : Nat} {e : Nat × Lexeme} {ls : List Lexeme}
    (h : e ∈ placed p ls) : e.2 ∈ ls := by
  rw [← map_snd_placed p ls]
  exact List.mem_map_of_mem h

/-- Where placed lexemes are split, the lexemes themselves are, and the one behind the
    split begins where those before it end. -/
theorem split_of_placed {p : Nat} {ls : List Lexeme} {before after : List (Nat × Lexeme)}
    {e : Nat × Lexeme} (h : placed p ls = before ++ e :: after) :
    ls = before.map Prod.snd ++ e.2 :: after.map Prod.snd ∧
      e.1 = p + extent (before.map Prod.snd) := by
  have hls : ls = before.map Prod.snd ++ e.2 :: after.map Prod.snd := by
    have hmap := congrArg (List.map Prod.snd) h
    rwa [map_snd_placed, List.map_append, List.map_cons] at hmap
  refine ⟨hls, ?_⟩
  have hlength : (placed p (before.map Prod.snd)).length = before.length := by
    rw [length_placed, List.length_map]
  rw [hls, placed_append, placed] at h
  obtain ⟨-, htail⟩ := List.append_inj h hlength
  rw [← (List.cons.inj htail).1]

theorem bounds_of_mem_placed {p q : Nat} {l : Lexeme} {ls : List Lexeme}
    (h : (q, l) ∈ placed p ls) : p ≤ q ∧ q + l.length ≤ p + extent ls := by
  obtain ⟨before, after, rfl, rfl⟩ := mem_placed_iff.mp h
  rw [extent_append, extent_cons]
  omega

theorem pairwise_placed (p : Nat) (ls : List Lexeme) :
    (placed p ls).Pairwise fun a b => a.1 + a.2.length ≤ b.1 := by
  induction ls generalizing p with
  | nil => exact List.Pairwise.nil
  | cons l ls ih =>
    rw [placed, List.pairwise_cons]
    refine ⟨?_, ih (p + l.length)⟩
    rintro ⟨q, m⟩ hmem
    exact (bounds_of_mem_placed hmem).1

def covers (i : Nat) (e : Nat × Lexeme) : Bool := e.1 ≤ i && i < e.1 + e.2.length

theorem covers_iff {i : Nat} {e : Nat × Lexeme} :
    covers i e = true ↔ e.1 ≤ i ∧ i < e.1 + e.2.length := by
  rw [covers, Bool.and_eq_true, decide_eq_true_eq, decide_eq_true_eq]

theorem countP_covers_of_lt {p i : Nat} {ls : List Lexeme} (h : i < p) :
    (placed p ls).countP (covers i) = 0 := by
  rw [List.countP_eq_zero]
  rintro ⟨q, l⟩ hmem hcovers
  have hbounds := bounds_of_mem_placed hmem
  rw [covers_iff] at hcovers
  simp only at hcovers
  omega

/-- **Every position of the stretch is covered exactly once.** -/
theorem countP_covers_placed {p i : Nat} {ls : List Lexeme} (hp : p ≤ i)
    (hi : i < p + extent ls) : (placed p ls).countP (covers i) = 1 := by
  induction ls generalizing p with
  | nil =>
    rw [extent_nil] at hi
    omega
  | cons l ls ih =>
    rw [extent_cons] at hi
    rw [placed, List.countP_cons]
    by_cases hfirst : i < p + l.length
    · have hcovers : covers i (p, l) = true := covers_iff.mpr ⟨hp, hfirst⟩
      rw [countP_covers_of_lt hfirst, if_pos hcovers]
    · have hcovers : ¬ covers i (p, l) = true := fun h => hfirst (covers_iff.mp h).2
      rw [ih (Nat.not_lt.mp hfirst) (by omega), if_neg hcovers]

theorem length_le_extent {ls : List Lexeme} (h : ∀ l ∈ ls, 0 < l.length) :
    ls.length ≤ extent ls := by
  induction ls with
  | nil => exact Nat.le_refl 0
  | cons l ls ih =>
    obtain ⟨hfirst, hrest⟩ := List.forall_mem_cons.mp h
    have := ih hrest
    rw [List.length_cons, extent_cons]
    omega

end ScriptTokenizer.Grammar
