/-
  ScriptTokenizer/Proofs/Totality.lean
  ====================================
  **Nothing faults.**

  A fault is a broken contract: a look outside the padded text, a sum beyond the
  largest offset, a row without characters or over the row before it.  Reading
  and scanning are their own callers, so that they keep all these contracts can
  be proved once and for all texts, the longest ones included.

  Reading keeps them because it stops at the padding at the latest.  The bound
  on offsets then follows from the bound on the text.  Scanning keeps them
  because rows follow each other as lexemes do, and because the place of an
  error is asked for inside the text, where it can still be told.
-/
import ScriptTokenizer.Proofs.ScanRuns

namespace ScriptTokenizer

open Grammar (extent)

/-! ### Reading -/

namespace Cursor

/-- Steps from a position `p` read these lexemes and then the end for ever. -/
structure ReadsToEnd (s : Source) (p : Nat) (ls : List Lexeme) : Prop where
  moves : ∀ l ∈ ls, l.tag ≠ .eof ∧ 1 ≤ l.length
  reaches : extent ls = max s.size p - p
  reads : ∀ n, (do advanceBy p; readings n : Reading (List Lexeme)) (start s) =
    .ok (ls.takeD n ⟨.eof, 0⟩) ⟨s, p + extent (ls.take n)⟩
  inside : ∀ n, p + extent (ls.take n) ≤ max s.size p
  stays : ∀ n, ls.length ≤ n → p + extent (ls.take n) = max s.size p

theorem readsToEnd_lexemes {s : Source} {p : Nat} (hp : p < s.size + padding)
    (hmax : p ≤ maxOffset) : ReadsToEnd s p (Grammar.lexemes (s.toList.drop p)) := by
  have hextent : extent (Grammar.lexemes (s.toList.drop p)) = max s.size p - p := by
    rw [Grammar.extent_lexemes, s.length_drop]
    omega
  refine ⟨?_, hextent, ?_, ?_, ?_⟩
  · intro l hl
    exact ⟨Grammar.tag_ne_eof_of_mem_lexemes hl, Grammar.length_pos_of_mem_lexemes hl⟩
  · intro n
    have hadvance : advanceBy p (start s) = .ok () ⟨s, p⟩ := by
      have h := advanceBy_eq_ok (s := s) (i := 0) (n := p) (by omega)
      rwa [Nat.zero_add] at h
    rw [bind_of_ok hadvance, readings_eq hp]
  · intro n
    have hle := Grammar.extent_take_le (Grammar.lexemes (s.toList.drop p)) n
    omega
  · intro n hn
    rw [List.take_of_length_le hn]
    omega

end Cursor

/-! ### Scanning -/

/-- **Reading and scanning never fault.**  From up to three characters behind a text
    on, steps read what is left of it, never leave it, and come to its end; a
    cursor starts on a text with padding, a lexeme without a kind is trivia, a
    mistake or the end, and a scan ends with a table or an error. -/
theorem reading_and_scanning_never_fault (s : Source) :
    (∀ p, p ≤ s.size + 3 → p ≤ maxOffset → ∃ ls, Cursor.ReadsToEnd s p ls) ∧
      s.padded? s.size = some nul ∧
      (∀ tag : Tag, tag.kind? = none → tag.isTrivia = true ∨ tag.isError = true ∨ tag = .eof) ∧
      ∀ policy, ∃ report, scan policy s = .ok report := by
  refine ⟨?_, Cursor.padded?_size s, ?_, fun policy => scan_total policy s⟩
  · intro p hp hmax
    have hpadding : padding = 4 := rfl
    exact ⟨_, Cursor.readsToEnd_lexemes (by omega) hmax⟩
  · intro tag hkind
    exact (Tag.kind?_eq_none_iff tag).mp hkind

/-- Reading begins inside a word, passes a NUL of the text and an escaped quote, and comes to the
    end of a string that has none. -/
theorem reading_from_inside_a_word :
    let s := Source.ofString "ab\x00'c\\'--[["
    1 ≤ s.size + 3 ∧ 1 ≤ maxOffset ∧
      (∃ ls, Cursor.ReadsToEnd s 1 ls ∧ ls.takeD 5 ⟨.eof, 0⟩ =
        [⟨.word, 1⟩, ⟨.unrecognized, 1⟩, ⟨.unterminatedString, 8⟩, ⟨.eof, 0⟩, ⟨.eof, 0⟩]) ∧
      ∃ report, scan .skip s = .ok report ∧
        report.outcome = .error ⟨.unterminatedString, 3, ⟨1, 3⟩⟩ := by
  intro s
  have hp : 1 ≤ s.size + 3 := by decide
  have hmax : 1 ≤ maxOffset := by decide
  obtain ⟨hreads, -, -, hscans⟩ := reading_and_scanning_never_fault s
  refine ⟨hp, hmax, ?_, ?_⟩
  · obtain ⟨ls, hls⟩ := hreads 1 hp hmax
    have hlexemes : Grammar.lexemes (s.toList.drop 1) =
        [⟨.word, 1⟩, ⟨.unrecognized, 1⟩, ⟨.unterminatedString, 8⟩] := by decide +kernel
    have hsteps := (Cursor.readsToEnd_lexemes (s := s) (p := 1) (by decide) hmax).reads 5
    rw [hls.reads 5, hlexemes] at hsteps
    exact ⟨ls, hls, (EStateM.Result.ok.inj hsteps).1⟩
  · obtain ⟨report, hscan⟩ := hscans .skip
    have hfails : scan .skip s =
        .ok ⟨[.skippedCharacter 2 (some nul)], .error ⟨.unterminatedString, 3, ⟨1, 3⟩⟩⟩ := by
      decide +kernel
    obtain rfl := Except.ok.inj (hfails.symm.trans hscan)
    exact ⟨_, hscan, rfl⟩

end ScriptTokenizer
