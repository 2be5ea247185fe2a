/-
  ScriptTokenizer/Proofs/DisplayLines.lean
  ========================================
  **Two ways to count lines.**

  A diagnostic tells a place twice.  Its message takes the place from the scan,
  where only a line feed ends a line; its frame takes it from a display, where
  every line terminator does, and a carriage return with a line feed is one.

  Passing a text on a display keeps to its display lines (`Spot.reaches_pass`),
  and passes a line for each line feed and one more for each terminator that has
  no line feed with it (`Spot.line_pass`).  So the frame is never above the
  message.  It is in the same line exactly if all terminators before the place
  have a line feed, and then the same characters of that line are before it in
  both (`Spot.column_pass`).
-/
import ScriptTokenizer.CommandLine.Diagnostic
import ScriptTokenizer.Proofs.ErrorPlaces

namespace ScriptTokenizer

theorem ScanError.message_eq (e : ScanError) :
    e.message = e.cause.message ++ ": Line #" ++ toString e.location.line ++ ", Char #" ++
      toString e.location.column := by
  have hplace : toString e.location =
      "Line #" ++ toString e.location.line ++ ", Char #" ++ toString e.location.column := by
    simp [toString]
  rw [ScanError.message, hplace]
  simp only [String.append_assoc]
  rfl

namespace CommandLine

/-! ### Lines of a display -/

/-- The lines of a display, each with its terminator. -/
def displayLines : List Char → List (List Char)
  | [] => []
  | '\r' :: '\n' :: rest => ['\r', '\n'] :: displayLines rest
  | c :: rest =>
    if endsLine c then [c] :: displayLines rest
    else
      match displayLines rest with
      | [] => [[c]]
      | line :: lines => (c :: line) :: lines

/-- An offset is that of the character at this line and column of the display lines, both
    counted from 1. -/
def StandsAt (text : List Char) (offset line column : Nat) : Prop :=
  ∃ above inside below, displayLines text = above ++ inside :: below ∧
    line = above.length + 1 ∧ offset + 1 = above.flatten.length + column ∧
    1 ≤ column ∧ column ≤ inside.length

/-- The terminators that are neither a line feed nor a carriage return. -/
def rareTerminators : List Char := ['\x0B', '\x0C', '\u0085', '\u2028', '\u2029']

/-- No line ends without a line feed. -/
def LineFeedsEnd (text : List Char) : Prop :=
  (∀ i, text[i]? = some '\r' → text[i + 1]? = some '\n') ∧ ∀ c ∈ rareTerminators, c ∉ text

/-- How many lines end without a line feed. -/
def loneTerminators : List Char → Nat
  | [] => 0
  | '\r' :: '\n' :: rest => loneTerminators rest
  | c :: rest => (if c ≠ '\n' ∧ endsLine c then 1 else 0) + loneTerminators rest

section Lines

variable {text rest : List Char} {c : Char}

theorem endsLine_iff : endsLine c = true ↔ c = '\n' ∨ c = '\r' ∨ c ∈ rareTerminators := by
  simp [endsLine, rareTerminators, or_assoc]

theorem ne_newline_of_open (hopen : ¬ endsLine c = true) : c ≠ '\n' := by
  rintro rfl
  exact hopen rfl

theorem lineFeedsEnd_nil : LineFeedsEnd [] := by simp [LineFeedsEnd]

theorem lineFeedsEnd_cons : LineFeedsEnd (c :: rest) ↔
    (c = '\r' → rest[0]? = some '\n') ∧ c ∉ rareTerminators ∧ LineFeedsEnd rest := by
  have hrare : (∀ d ∈ rareTerminators, d ∉ c :: rest) ↔
      c ∉ rareTerminators ∧ ∀ d ∈ rareTerminators, d ∉ rest := by
    simp only [List.mem_cons, not_or, forall_and]
    refine and_congr_left fun _ => ⟨fun h hc => h c hc rfl, ?_⟩
    rintro h d hd rfl
    exact h hd
  have hreturns : (∀ i, (c :: rest)[i]? = some '\r' → (c :: rest)[i + 1]? = some '\n') ↔
      (c = '\r' → rest[0]? = some '\n') ∧
        ∀ i, rest[i]? = some '\r' → rest[i + 1]? = some '\n' := by
    rw [← Nat.and_forall_add_one]
    simp only [List.getElem?_cons_zero, List.getElem?_cons_succ, Option.some.injEq]
  rw [LineFeedsEnd, LineFeedsEnd, hrare, hreturns]
  tauto

/-- A character that begins no pair counts alone. -/
theorem loneTerminators_cons (hpair : c = '\r' → rest[0]? ≠ some '\n') :
    loneTerminators (c :: rest) =
      (if c ≠ '\n' ∧ endsLine c then 1 else 0) + loneTerminators rest := by
  rw [loneTerminators]
  rintro rest' rfl rfl
  exact hpair rfl rfl

theorem loneTerminators_eq_zero_iff : loneTerminators text = 0 ↔ LineFeedsEnd text := by
  fun_induction loneTerminators text with
  | case1 => simp [lineFeedsEnd_nil]
  | case2 rest ih =>
    rw [ih, lineFeedsEnd_cons, lineFeedsEnd_cons]
    simp [rareTerminators]
  | case3 c rest hpair ih =>
    have hreturn : (c = '\r' → rest[0]? = some '\n') ↔ c ≠ '\r' := by
      refine imp_congr_right fun hc => iff_false_intro fun hrest => ?_
      obtain ⟨rest', rfl⟩ := List.head?_eq_some_iff.mp (List.head?_eq_getElem? ▸ hrest)
      exact hpair rest' hc rfl
    have hnewline : '\n' ∉ rareTerminators := by decide
    rw [Nat.add_eq_zero_iff, ih, lineFeedsEnd_cons, hreturn, ← and_assoc]
    refine and_congr_left fun _ => ?_
    by_cases hc : c = '\n'
    · simp [hc, hnewline]
    · simp [hc, endsLine_iff]

instance : DecidablePred LineFeedsEnd := fun _ => decidable_of_iff _ loneTerminators_eq_zero_iff

theorem displayLines_cons (hend : endsLine c = true) (hpair : c = '\r' → rest[0]? ≠ some '\n') :
    displayLines (c :: rest) = [c] :: displayLines rest := by
  rw [displayLines, if_pos hend]
  rintro rest' rfl rfl
  exact hpair rfl rfl

/-- A character that ends no line stands at the head of the line it is followed by. -/
theorem displayLines_cons_of_open {line : List Char} {lines : List (List Char)}
    (hopen : ¬ endsLine c = true) (hrest : displayLines rest = line :: lines) :
    displayLines (c :: rest) = (c :: line) :: lines := by
  rw [displayLines, if_neg hopen, hrest]
  rintro rest' rfl rfl
  exact hopen rfl

/-- The first character is in the first line. -/
theorem exists_displayLines (h : text ≠ []) :
    ∃ line lines, displayLines text = line :: lines ∧ 0 < line.length := by
  fun_cases displayLines text with
  | case1 => exact absurd rfl h
  | case2 rest => exact ⟨_, _, rfl, Nat.zero_lt_two⟩
  | case3 c rest hpair hend => exact ⟨_, _, rfl, Nat.one_pos⟩
  | case4 c rest hpair hend hnone => exact ⟨_, _, rfl, Nat.one_pos⟩
  | case5 c rest hpair hend line lines hrest => exact ⟨_, _, rfl, Nat.succ_pos _⟩

end Lines

/-! ### Passing characters -/

section Passing

variable {text rest line : List Char} {lines : List (List Char)} {c : Char} {spot spot' : Spot}
  {place : LineColumn} {n : Nat}

/-- A character that is passed on its own begins no pair that is passed at once. -/
theorem not_pair (hone : ∀ rest', c = '\r' → rest = '\n' :: rest' → n = 0 → False)
    (htwo : ∀ rest' m, c = '\r' → rest = '\n' :: rest' → n = m + 1 → False) (hc : c = '\r') :
    rest[0]? ≠ some '\n' := by
  intro hrest
  obtain ⟨rest', rfl⟩ := List.head?_eq_some_iff.mp (List.head?_eq_getElem? ▸ hrest)
  cases n with
  | zero => exact hone rest' hc rfl rfl
  | succ n => exact htwo rest' n hc rfl rfl

theorem getElem?_take_ne (h : rest[0]? ≠ some c) (n : Nat) : (rest.take n)[0]? ≠ some c := by
  rw [List.getElem?_take]
  split
  · exact h
  · simp

/-- **Lines passed.**  A display is behind a line for each line feed, and one more for each
    terminator without one. -/
theorem Spot.line_pass (h : text[n]? ≠ some '\n') :
    (spot.pass text n).line =
      spot.line + (text.take n).count '\n' + loneTerminators (text.take n) := by
  fun_induction Spot.pass spot text n with
  | case1 spot text => simp [loneTerminators]
  | case2 spot n => simp [loneTerminators]
  | case3 spot rest => exact absurd rfl h
  | case4 spot rest n ih =>
    rw [ih h, List.take_succ_cons, List.take_succ_cons, loneTerminators,
      List.count_cons_of_ne (by decide), List.count_cons_self]
    simp only [Nat.add_right_comm, Nat.add_assoc]
  | case5 spot c rest n hone htwo hend ih =>
    have hpair := fun hc => getElem?_take_ne (not_pair hone htwo hc) n
    rw [ih h, List.take_succ_cons, loneTerminators_cons hpair]
    by_cases hc : c = '\n'
    · rw [hc, List.count_cons_self, if_neg fun hlone => hlone.1 rfl]
      simp only [Nat.add_assoc, Nat.zero_add, Nat.add_left_comm 1]
    · rw [List.count_cons_of_ne hc, if_pos ⟨hc, hend⟩]
      simp only [Nat.add_assoc, Nat.add_left_comm 1]
  | case6 spot c rest n hone htwo hend ih =>
    have hpair := fun hc => getElem?_take_ne (not_pair hone htwo hc) n
    rw [ih h, List.take_succ_cons, loneTerminators_cons hpair,
      List.count_cons_of_ne (ne_newline_of_open hend), if_neg fun hlone => hend hlone.2,
      Nat.zero_add]

/-- **Columns passed.**  Where every line ends at a line feed, a display is in the column of
    the scan, counted from 1. -/
theorem Spot.column_pass (h : text[n]? ≠ some '\n') (hfeeds : LineFeedsEnd (text.take n))
    (hcolumn : spot.column = place.column + 1) :
    (spot.pass text n).column = ((text.take n).foldl LineColumn.behind place).column + 1 := by
  fun_induction Spot.pass spot text n generalizing place with
  | case1 spot text => exact hcolumn
  | case2 spot n => exact hcolumn
  | case3 spot rest => exact absurd rfl h
  | case4 spot rest n ih =>
    rw [List.take_succ_cons, List.take_succ_cons, lineFeedsEnd_cons, lineFeedsEnd_cons] at hfeeds
    exact ih h hfeeds.2.2.2.2 rfl
  | case5 spot c rest n hone htwo hend ih =>
    have hpair := fun hc => getElem?_take_ne (not_pair hone htwo hc) n
    obtain ⟨hreturn, hrare, hrest⟩ := lineFeedsEnd_cons.mp hfeeds
    have hc : c = '\n' := (endsLine_iff.mp hend).resolve_right fun hother =>
      hother.elim (fun hc => hpair hc (hreturn hc)) hrare
    rw [List.take_succ_cons, List.foldl_cons, hc]
    exact ih h hrest rfl
  | case6 spot c rest n hone htwo hend ih =>
    obtain ⟨-, -, hrest⟩ := lineFeedsEnd_cons.mp hfeeds
    rw [List.take_succ_cons, List.foldl_cons, LineColumn.behind,
      if_neg (ne_newline_of_open hend)]
    exact ih h hrest (by rw [hcolumn])

/-- A spot is `n` characters behind another one, from which on the lines are these: all lines
    above it are passed, and it is in the line it has come to. -/
def Spot.Reaches (spot : Spot) (lines : List (List Char)) (n : Nat) (spot' : Spot) : Prop :=
  ∃ above inside below, lines = above ++ inside :: below ∧
    spot'.line = spot.line + above.length ∧
    n + (if above = [] then spot.column else 1) = above.flatten.length + spot'.column ∧
    above.flatten.length ≤ n ∧ n < above.flatten.length + inside.length

theorem Spot.Reaches.refl (hline : 0 < line.length) : spot.Reaches (line :: lines) 0 spot :=
  ⟨[], line, lines, rfl, rfl, by simp, Nat.le_refl 0, by simpa using hline⟩

theorem Spot.Reaches.of_next_line
    (h : Spot.Reaches ⟨spot.line + 1, 1, rest⟩ lines n spot') :
    spot.Reaches (line :: lines) (n + line.length) spot' := by
  obtain ⟨above, inside, below, rfl, hline, hcolumn, hle, hlt⟩ := h
  simp only [ite_self] at hline hcolumn
  refine ⟨line :: above, inside, below, rfl, ?_, ?_, ?_, ?_⟩
  · rw [hline, List.length_cons]
    omega
  · rw [if_neg (List.cons_ne_nil line above), List.flatten_cons, List.length_append]
    omega
  · rw [List.flatten_cons, List.length_append]
    omega
  · rw [List.flatten_cons, List.length_append]
    omega

theorem Spot.Reaches.of_next_column
    (h : Spot.Reaches { spot with column := spot.column + 1 } (line :: lines) n spot') :
    spot.Reaches ((c :: line) :: lines) (n + 1) spot' := by
  obtain ⟨above, inside, below, hlines, hline, hcolumn, hle, hlt⟩ := h
  rcases above with _ | ⟨first, above⟩
  · obtain ⟨rfl, rfl⟩ := List.cons.inj hlines
    refine ⟨[], c :: line, lines, rfl, hline, ?_, Nat.zero_le _, ?_⟩
    · simp only [if_pos] at hcolumn ⊢
      omega
    · rw [List.length_cons]
      omega
  · obtain ⟨rfl, rfl⟩ := List.cons.inj hlines
    rw [if_neg (List.cons_ne_nil line above)] at hcolumn
    rw [List.flatten_cons, List.length_append] at hcolumn hle hlt
    refine ⟨(c :: line) :: above, inside, below, rfl, hline, ?_, ?_, ?_⟩
    · rw [if_neg (List.cons_ne_nil _ above), List.flatten_cons, List.length_append,
        List.length_cons]
      omega
    · rw [List.flatten_cons, List.length_append, List.length_cons]
      omega
    · rw [List.flatten_cons, List.length_append, List.length_cons]
      omega

/-- **Lines and columns passed.**  Passing characters goes from one display line to the next. -/
theorem Spot.reaches_pass (h : n < text.length) :
    spot.Reaches (displayLines text) n (spot.pass text n) := by
  fun_induction Spot.pass spot text n with
  | case1 spot text =>
    obtain ⟨line, lines, hlines, hpos⟩ := exists_displayLines (List.ne_nil_of_length_pos h)
    rw [hlines]
    exact .refl hpos
  | case2 spot n => exact absurd h (Nat.not_lt_zero _)
  | case3 spot rest =>
    have hinside : 0 < ['\n'].length := Nat.one_pos
    exact .of_next_column (.refl hinside)
  | case4 spot rest n ih =>
    exact (ih (Nat.lt_of_add_lt_add_right h)).of_next_line
  | case5 spot c rest n hone htwo hend ih =>
    rw [displayLines_cons hend (not_pair hone htwo)]
    exact (ih (Nat.lt_of_succ_lt_succ h)).of_next_line
  | case6 spot c rest n hone htwo hend ih =>
    have hlt : n < rest.length := Nat.lt_of_succ_lt_succ h
    have hsome : rest ≠ [] := List.ne_nil_of_length_pos (Nat.zero_lt_of_lt hlt)
    obtain ⟨line, lines, hlines, -⟩ := exists_displayLines hsome
    rw [displayLines_cons_of_open hend hlines]
    rw [hlines] at ih
    exact (ih hlt).of_next_column

/-- A display locates an offset where it stands. -/
theorem standsAt_locate (h : n < text.length) :
    StandsAt text n (locate text n).line (locate text n).column := by
  have hreach : Spot.Reaches ⟨1, 1, text⟩ (displayLines text) n (locate text n) :=
    Spot.reaches_pass h
  obtain ⟨above, inside, below, hlines, hline, hcolumn, hle, hlt⟩ := hreach
  simp only [ite_self] at hline hcolumn
  exact ⟨above, inside, below, hlines, by rw [hline, Nat.add_comm], hcolumn, by omega, by omega⟩

end Passing

/-! ### Diagnostics -/

/-- Where a display locates an offset, told by the place of the offset in the text. -/
theorem locate_place {text : List Char} {n : Nat} (h : text[n]? ≠ some '\n') :
    let place := (text.take n).foldl LineColumn.behind LineColumn.start
    place.line + loneTerminators (text.take n) = (locate text n).line ∧
      (LineFeedsEnd (text.take n) → (locate text n).column = place.column + 1) := by
  intro place
  constructor
  · rw [LineColumn.line_foldl_behind, locate, Spot.line_pass h]
    rfl
  · intro hfeeds
    exact Spot.column_pass h hfeeds rfl

/-- A diagnostic begins with its message and, in the frame, where a display locates it. -/
theorem exists_renderScanError (name : String) (text : List Char) (e : ScanError) :
    ∃ snippet, renderScanError name text e =
      "Error: " ++ e.message ++ "\n" ++
        repeated ((toString (locate text e.start).line).length + 2) ' ' ++ "╭─[" ++ name ++ ":" ++
        toString (locate text e.start).line ++ ":" ++ toString (locate text e.start).column ++
        "]\n" ++ snippet := by
  unfold renderScanError
  simp only [String.append_assoc]
  exact ⟨_, rfl⟩

/-- **A frame agrees with its message exactly if all lines above end at line feeds.**  The
    character a diagnostic marks is in the text.  The line and column in its frame are those
    of the character on a display.  They are the line and column of its message, columns
    counted from 1, exactly if no line before it ends without a line feed; otherwise the
    frame is in a line below that of the message. -/
theorem frame_agrees_with_message {policy : Policy} {text : String} {e : ScanError}
    (hsize : text.length ≤ maxOffset) (herror : tokenize policy text = .ok (.error e))
    (name : String) :
    e.start + 1 ≤ text.length ∧
      e.message = e.cause.message ++ ": Line #" ++ toString e.location.line ++ ", Char #" ++
        toString e.location.column ∧
      ∃ line column snippet, StandsAt text.toList e.start line column ∧
        renderScanError name text.toList e =
          "Error: " ++ e.message ++ "\n" ++
            repeated ((toString line).length + 2) ' ' ++ "╭─[" ++ name ++ ":" ++ toString line ++
            ":" ++ toString column ++ "]\n" ++ snippet ∧
        (line = e.location.line ∧ column = e.location.column + 1 ↔
          LineFeedsEnd (text.toList.take e.start)) ∧
        (¬ LineFeedsEnd (text.toList.take e.start) → e.location.line < line) := by
  obtain ⟨before, l, after, hfirst⟩ := tokenize_eq_error_iff.mp herror
  have hlist := Source.toList_ofString hsize
  have hlt : e.start < text.length := by
    rw [← Source.size_ofString hsize]
    exact hfirst.start_lt_size
  have hlocation : e.location =
      (text.toList.take e.start).foldl LineColumn.behind LineColumn.start := by
    rw [← hlist]
    exact Except.ok.inj (hfirst.location.symm.trans
      (Source.lineColumn_of_lt hfirst.start_lt_size))
  have hchar : text.toList[e.start]? ≠ some '\n' := by
    obtain ⟨c, hc, hblank⟩ := hfirst.charAt?_start
    rw [← hlist, ← Source.charAt?_eq, hc]
    rintro ⟨rfl⟩
    cases hblank
  obtain ⟨hline, hcolumn⟩ := locate_place hchar
  rw [← hlocation] at hline hcolumn
  obtain ⟨snippet, hrender⟩ := exists_renderScanError name text.toList e
  refine ⟨hlt, e.message_eq, _, _, snippet, standsAt_locate (by rwa [String.length_toList]),
    hrender, ?_, ?_⟩
  · rw [← loneTerminators_eq_zero_iff] at hcolumn ⊢
    constructor
    · rintro ⟨hsame, -⟩
      omega
    · intro hnone
      exact ⟨by omega, hcolumn hnone⟩
  · rw [← loneTerminators_eq_zero_iff]
    omega

/-- A quote behind a pair, and one behind a pair, a carriage return and a vertical tabulator. -/
theorem frames_behind_terminators :
    let plain := "a\r\n b'"
    let mixed := "a\r\nb\rc\x0B'"
    let e : ScanError := ⟨.unterminatedString, 5, ⟨2, 2⟩⟩
    let e' : ScanError := ⟨.unterminatedString, 7, ⟨2, 4⟩⟩
    (plain.length ≤ maxOffset ∧ tokenize .skip plain = .ok (.error e) ∧
      LineFeedsEnd (plain.toList.take 5) ∧
      ∃ snippet, StandsAt plain.toList 5 2 3 ∧ renderScanError "a.lua" plain.toList e =
        "Error: " ++ e.message ++ "\n" ++ repeated ((toString 2).length + 2) ' ' ++ "╭─[" ++
          "a.lua" ++ ":" ++ toString 2 ++ ":" ++ toString 3 ++ "]\n" ++ snippet) ∧
    mixed.length ≤ maxOffset ∧ tokenize .skip mixed = .ok (.error e') ∧
      ¬ LineFeedsEnd (mixed.toList.take 7) ∧
      ∃ line column, StandsAt mixed.toList 7 line column ∧ 2 < line := by
  intro plain mixed e e'
  have hsize : plain.length ≤ maxOffset := by decide +kernel
  have hsize' : mixed.length ≤ maxOffset := by decide +kernel
  have herror : tokenize .skip plain = .ok (.error e) := by decide +kernel
  have herror' : tokenize .skip mixed = .ok (.error e') := by decide +kernel
  have hfeeds : LineFeedsEnd (plain.toList.take 5) := by decide +kernel
  have hlone : ¬ LineFeedsEnd (mixed.toList.take 7) := by decide +kernel
  obtain ⟨-, -, line, column, snippet, hstands, hrender, hagree, -⟩ :=
    frame_agrees_with_message hsize herror "a.lua"
  obtain ⟨-, -, line', column', -, hstands', -, -, hbelow⟩ :=
    frame_agrees_with_message hsize' herror' "a.lua"
  obtain ⟨rfl, rfl⟩ := hagree.mpr hfeeds
  exact ⟨⟨hsize, herror, hfeeds, snippet, hstands, hrender⟩, hsize', herror', hlone, line',
    column', hstands', hbelow hlone⟩

end CommandLine

end ScriptTokenizer
