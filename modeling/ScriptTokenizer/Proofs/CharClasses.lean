/-
  ScriptTokenizer/Proofs/CharClasses.lean
  =======================================
  **The classes of characters that begin a lexeme do not meet.**

  The first character of a lexeme decides which rule reads it, so the rules may
  be tried in any order only if no character belongs to two of their classes.
  Digits and blanks are few, and whatever holds of all of them is a finite
  check; word characters are many, but none of the other classes reaches beyond
  the characters checked here: of the ranges of letters none holds a blank.
-/
import ScriptTokenizer.Lexeme.Grammar

namespace ScriptTokenizer

theorem mem_of_toNat_mem {c : Char} {cs : List Char} (h : c.toNat ∈ cs.map Char.toNat) :
    c ∈ cs := by
  obtain ⟨d, hd, hcode⟩ := List.mem_map.mp h
  obtain rfl : d = c := Char.toNat_inj.mp hcode
  exact hd

/-- The ASCII digits. -/
def digits : List Char := ['0', '1', '2', '3', '4', '5', '6', '7', '8', '9']

theorem mem_digits {c : Char} (h : c.isDigit = true) : c ∈ digits := by
  have hcodes : digits.map Char.toNat = [48, 49, 50, 51, 52, 53, 54, 55, 56, 57] := by decide
  have hrange : 48 ≤ c.toNat ∧ c.toNat ≤ 57 := Char.isDigit_iff_toNat.mp h
  apply mem_of_toNat_mem
  rw [hcodes]
  simp only [List.mem_cons, List.not_mem_nil, or_false]
  omega

/-- The characters with the property *White_Space*. -/
def blanks : List Char :=
  ['\t', '\n', '\x0b', '\x0c', '\r', ' ', '\u0085', '\u00a0', '\u1680', '\u2000', '\u2001',
   '\u2002', '\u2003', '\u2004', '\u2005', '\u2006', '\u2007', '\u2008', '\u2009', '\u200a',
   '\u2028', '\u2029', '\u202f', '\u205f', '\u3000']

theorem mem_blanks {c : Char} (h : isBlank c = true) : c ∈ blanks := by
  have hcodes : blanks.map Char.toNat =
      [0x9, 0xA, 0xB, 0xC, 0xD, 0x20, 0x85, 0xA0, 0x1680, 0x2000, 0x2001, 0x2002, 0x2003, 0x2004,
       0x2005, 0x2006, 0x2007, 0x2008, 0x2009, 0x200A, 0x2028, 0x2029, 0x202F, 0x205F, 0x3000] := by
    decide
  apply mem_of_toNat_mem
  rw [hcodes]
  simp only [isBlank, Bool.or_eq_true, Bool.and_eq_true, decide_eq_true_eq, beq_iff_eq] at h
  simp only [List.mem_cons, List.not_mem_nil, or_false]
  omega

/-- Spacing is a blank other than the line feed. -/
theorem isSpacing_iff {c : Char} : isSpacing c = true ↔ c ≠ '\n' ∧ isBlank c = true := by
  rw [isSpacing, Bool.and_eq_true, bne_iff_ne]

theorem isWordChar_of_isDigit {c : Char} (h : c.isDigit = true) : isWordChar c = false := by
  have hall : digits.all (fun d => !isWordChar d) = true := by decide
  exact (Bool.not_eq_true' _).mp (List.all_eq_true.mp hall c (mem_digits h))

/-- A blank is no letter. -/
theorem isAlphabetic_of_isBlank {c : Char} (h : isBlank c = true) : isAlphabetic c = false := by
  have hmem := mem_blanks h
  by_cases hascii : c.toNat < 0x80
  · have hall : blanks.all (fun d => !d.isAlpha) = true := by decide
    rw [isAlphabetic_ascii hascii]
    exact (Bool.not_eq_true' _).mp (List.all_eq_true.mp hall c hmem)
  · have hapart : (blanks.all fun d =>
        alphabeticRanges.all fun r => !(Nat.ble r.1 d.toNat && Nat.ble d.toNat r.2)) = true := by
      decide +kernel
    rw [← Bool.not_eq_true, isAlphabetic_iff_holds (Nat.not_lt.mp hascii)]
    rintro ⟨r, hr, hlow, hhigh⟩
    have hout := List.all_eq_true.mp (List.all_eq_true.mp hapart c hmem) r hr
    rw [Nat.ble_eq_true_of_le hlow, Nat.ble_eq_true_of_le hhigh] at hout
    cases hout

theorem isWordChar_of_isSpacing {c : Char} (h : isSpacing c = true) : isWordChar c = false := by
  have hblank := (isSpacing_iff.mp h).2
  have hall : blanks.all (fun d => !(d == '_')) = true := by decide
  have hunderscore := (Bool.not_eq_true' _).mp (List.all_eq_true.mp hall c (mem_blanks hblank))
  rw [isWordChar, hunderscore, isAlphabetic_of_isBlank hblank]
  rfl

theorem isDigit_of_isSpacing {c : Char} (h : isSpacing c = true) : c.isDigit = false := by
  have hall : blanks.all (fun d => !d.isDigit) = true := by decide
  exact (Bool.not_eq_true' _).mp
    (List.all_eq_true.mp hall c (mem_blanks (isSpacing_iff.mp h).2))

/-- An ASCII letter is a letter. -/
theorem isAlphabetic_of_isAlpha {c : Char} (h : c.isAlpha = true) : isAlphabetic c = true := by
  have hle : c.val ≤ 'z'.val := by
    rcases (Bool.or_eq_true _ _).mp h with hupper | hlower
    · have hbound : c.val ≤ 'Z'.val := (of_decide_eq_true hupper).2
      exact UInt32.le_trans hbound (by decide)
    · exact of_decide_eq_true ((Bool.and_eq_true _ _).mp hlower).2
  have hascii : c.toNat < 0x80 := Nat.lt_of_le_of_lt (UInt32.le_iff_toNat_le.mp hle) (by decide)
  rw [isAlphabetic_ascii hascii, h]

/-- What is a letter in lower case is a word character. -/
theorem isWordChar_of_toLower {c : Char} (h : c.toLower.isAlpha = true) : isWordChar c = true := by
  have halpha : c.isAlpha = true := by
    by_cases hupper : c.val ≥ 'A'.val ∧ c.val ≤ 'Z'.val
    · exact (Bool.or_eq_true _ _).mpr (Or.inl (decide_eq_true hupper))
    · have hsame : c.toLower = c := dif_neg hupper
      rwa [hsame] at h
  rw [isWordChar, isAlphabetic_of_isAlpha halpha, Bool.or_true]

/-- A blank begins nothing but spacing. -/
theorem begins_nothing_of_isSpacing {c : Char} (h : isSpacing c = true) :
    c ≠ '\'' ∧ c ≠ '"' ∧ Grammar.symbols.lookup c = none ∧ c ≠ '.' ∧ c ≠ '-' := by
  have hall : blanks.all (fun d => d != '\'' && (d != '"' &&
      ((Grammar.symbols.lookup d).isNone && (d != '.' && d != '-')))) = true := by decide
  simpa only [Bool.and_eq_true, bne_iff_ne, Option.isNone_iff_eq_none] using
    List.all_eq_true.mp hall c (mem_blanks (isSpacing_iff.mp h).2)

end ScriptTokenizer
