/-
  ScriptTokenizer/Proofs/Deliveries.lean
  ======================================
  **How a text arrives does not matter.**

  A stream brings bytes in pieces, and a read may be interrupted any number of
  times (`Delivers`).  Reading to the end puts the pieces back together before
  anything is decoded, so that all that counts is the bytes as a whole
  (`Delivers.drain_append`): where a stream cuts them up, even within a character,
  cannot be seen, and a stream hands over what a file with the same bytes does.

  A read that fails for good is noticed before decoding.  It decides the answer
  even if what came before it is no text.

  A scan is made of the text alone.  Inputs that hand over the same text are
  therefore read alike, and an input that hands over none is not scanned.
-/
import ScriptTokenizer.Input
import ScriptTokenizer.Proofs.Outcomes

namespace ScriptTokenizer

/-! ### Decoding -/

section Decoding

variable {bytes : ByteArray} {text : String} {e : InputError}

theorem decodeText_encode (text : String) : decodeText text.toList.utf8Encode = .ok text := by
  rw [String.utf8Encode_toList]
  unfold decodeText String.fromUTF8?
  rw [dif_pos text.isValidUTF8]
  rfl

/-- Bytes that are the encoding of no text are refused. -/
theorem encodes_or_decodeText_eq_error (bytes : ByteArray) :
    (∃ text : String, text.toList.utf8Encode = bytes) ∨
      decodeText bytes = .error .invalidText := by
  by_cases hvalid : bytes.IsValidUTF8
  · left
    obtain ⟨cs, rfl⟩ := hvalid
    exact ⟨String.ofList cs, by rw [String.toList_ofList]⟩
  · right
    unfold decodeText String.fromUTF8?
    rw [dif_neg hvalid]

theorem decodeText_eq_ok_iff :
    decodeText bytes = .ok text ↔ text.toList.utf8Encode = bytes := by
  constructor
  · intro h
    rcases encodes_or_decodeText_eq_error bytes with ⟨text', rfl⟩ | herror
    · rw [decodeText_encode, Except.ok.injEq] at h
      rw [h]
    · rw [herror] at h
      cases h
  · rintro rfl
    exact decodeText_encode text

theorem decodeText_eq_error_iff :
    decodeText bytes = .error e ↔
      e = .invalidText ∧ ∀ text : String, text.toList.utf8Encode ≠ bytes := by
  rcases encodes_or_decodeText_eq_error bytes with ⟨text, rfl⟩ | herror
  · rw [decodeText_encode]
    constructor
    · intro h
      cases h
    · rintro ⟨-, hnone⟩
      exact absurd rfl (hnone text)
  · constructor
    · intro h
      rw [herror] at h
      refine ⟨(Except.error.inj h).symm, ?_⟩
      intro text htext
      rw [decodeText_eq_ok_iff.mpr htext] at herror
      cases herror
    · rintro ⟨rfl, -⟩
      exact herror

end Decoding

/-! ### Draining -/

/-- The deliveries bring these bytes: pieces one behind the other, and interruptions. -/
inductive Delivers : List Delivery → ByteArray → Prop where
  | nil : Delivers [] ByteArray.empty
  | piece {more bytes : ByteArray} {ds : List Delivery} :
      more.isEmpty = false → Delivers ds bytes → Delivers (.piece more :: ds) (more ++ bytes)
  | interrupted {bytes : ByteArray} {ds : List Delivery} :
      Delivers ds bytes → Delivers (.interrupted :: ds) bytes

section Draining

variable {ds : List Delivery} {bytes : ByteArray}

/-- **Draining** what deliveries bring comes to the same as having had the bytes before. -/
theorem Delivers.drain_append (h : Delivers ds bytes) (before : ByteArray)
    (rest : List Delivery) : drain before (ds ++ rest) = drain (before ++ bytes) rest := by
  induction h generalizing before with
  | nil => rw [List.nil_append, ByteArray.append_empty]
  | @piece more bytes ds hmore _ ih =>
    rw [List.cons_append, drain, hmore, ← ByteArray.append_assoc]
    exact ih (before ++ more)
  | @interrupted bytes ds _ ih =>
    rw [List.cons_append, drain]
    exact ih before

theorem Delivers.take_stream (h : Delivers ds bytes) :
    (Input.stream ds).take = (decodeText bytes, .stream []) := by
  have hdrain := h.drain_append ByteArray.empty []
  rw [List.append_nil, ByteArray.empty_append] at hdrain
  simp [Input.take, hdrain, drain, Except.bind]

/-- A read that fails for good makes the bytes before it unheard. -/
theorem Delivers.take_stream_failed (h : Delivers ds bytes) (failure : ReadFailure)
    (rest : List Delivery) :
    (Input.stream (ds ++ .failed failure :: rest)).take =
      (.error (.readFailed failure), .stream rest) := by
  have hdrain := h.drain_append ByteArray.empty (.failed failure :: rest)
  simp [Input.take, hdrain, drain, Except.bind]

end Draining

/-! ### Calls -/

/-- The answers to so many calls, one after the other. -/
def Input.answers : Input → Nat → List (Except InputError String)
  | _, 0 => []
  | input, calls + 1 => input.take.1 :: input.take.2.answers calls

theorem Input.answers_stream_nil (calls : Nat) :
    (Input.stream []).answers calls = List.replicate calls (.ok "") := by
  induction calls with
  | zero => rfl
  | succ calls ih =>
    have hempty : (Input.stream []).take = (.ok "", .stream []) := Delivers.nil.take_stream
    rw [Input.answers, hempty, ih, List.replicate_succ]

/-! ### Reading -/

section Reading

variable {policy : Policy} {input : Input}

theorem read_of_take_ok {text : String} {outcome : Except ScanError Tokenized}
    (htake : input.take.1 = .ok text) (hscan : tokenize policy text = .ok outcome) :
    read policy input = .ok (outcome.mapError ReadError.scan) := by
  simp [read, htake, hscan, bind, Except.bind, pure, Except.pure]

theorem read_of_take_error {e : InputError} (htake : input.take.1 = .error e) :
    read policy input = .ok (.error (.input e)) := by
  simp [read, htake, pure, Except.pure]

end Reading

/-- **How a text arrives does not matter.**  A stream hands over the text whose encoding it
    brings, and nothing if there is none, just as a file with these bytes does; and it is
    drained then.  A read that fails for good is what the call answers, whatever came before
    it.  What hands over the same text is read alike, which is as the text is tokenized. -/
theorem all_inputs_read_alike {ds : List Delivery} {bytes : ByteArray} (h : Delivers ds bytes) :
    (∀ text, (Input.stream ds).take.1 = .ok text ↔ text.toList.utf8Encode = bytes) ∧
    (∀ e, (Input.stream ds).take.1 = .error e ↔
      e = .invalidText ∧ ∀ text : String, text.toList.utf8Encode ≠ bytes) ∧
    (Input.stream ds).take.1 = (Input.file (.ok bytes)).take.1 ∧
    (∀ calls, (Input.stream ds).answers (calls + 1) =
      (Input.stream ds).take.1 :: List.replicate calls (.ok "")) ∧
    (∀ failure calls, (Input.stream (ds ++ [.failed failure])).answers (calls + 1) =
      .error (.readFailed failure) :: List.replicate calls (.ok "")) ∧
    (∀ policy (text : String), text.toList.utf8Encode = bytes →
      ∃ outcome, tokenize policy text = .ok outcome ∧
        ∀ input ∈ [Input.text text, .owned text, .stream ds, .file (.ok bytes)],
          read policy input = .ok (outcome.mapError ReadError.scan)) ∧
    ∀ policy input e, input.take.1 = .error e → read policy input = .ok (.error (.input e)) := by
  have htake : (Input.stream ds).take.1 = decodeText bytes := by rw [h.take_stream]
  refine ⟨?_, ?_, htake, ?_, ?_, ?_, fun _ _ _ => read_of_take_error⟩
  · intro text
    rw [htake]
    exact decodeText_eq_ok_iff
  · intro e
    rw [htake]
    exact decodeText_eq_error_iff
  · intro calls
    rw [Input.answers, h.take_stream, Input.answers_stream_nil]
  · intro failure calls
    rw [Input.answers, h.take_stream_failed, Input.answers_stream_nil]
  · intro policy text hbytes
    obtain ⟨outcome, hscan⟩ := tokenize_total policy text
    have hdecode : decodeText bytes = .ok text := decodeText_eq_ok_iff.mpr hbytes
    refine ⟨outcome, hscan, ?_⟩
    intro input hinput
    apply read_of_take_ok _ hscan
    simp only [List.mem_cons, List.not_mem_nil, or_false] at hinput
    rcases hinput with rfl | rfl | rfl | rfl
    · rfl
    · rfl
    · exact htake.trans hdecode
    · exact hdecode

/-- A character of two bytes that arrives in two pieces. -/
theorem read_cut_character :
    let ds := [.interrupted, .piece ⟨#[39, 195]⟩, .interrupted, .piece ⟨#[169, 39]⟩]
    let bytes : ByteArray := ⟨#[39, 195, 169, 39]⟩
    Delivers ds bytes ∧
      (Input.stream ds).answers 2 = [.ok "'é'", .ok ""] ∧
      ∃ t, tokenize .reject "'é'" = .ok (.ok t) ∧
        read .reject (.stream ds) = .ok (.ok t) ∧ read .reject (.text "'é'") = .ok (.ok t) := by
  intro ds bytes
  have h : Delivers ds bytes := .interrupted (.piece rfl (.interrupted (.piece rfl .nil)))
  have hbytes : "'é'".toList.utf8Encode = bytes := by decide +kernel
  let t : Tokenized := ⟨Source.ofString "'é'", .ofRows true [⟨0, 3, some .string⟩]⟩
  have hscan : tokenize .reject "'é'" = .ok (.ok t) := by decide +kernel
  obtain ⟨htext, -, -, hcalls, -, hread, -⟩ := all_inputs_read_alike h
  obtain ⟨outcome, hscan', hall⟩ := hread .reject "'é'" hbytes
  obtain rfl : .ok t = outcome := Except.ok.inj (hscan.symm.trans hscan')
  refine ⟨h, ?_, t, hscan, hall _ (by simp), hall _ (by simp)⟩
  rw [hcalls 1, (htext "'é'").mpr hbytes]
  rfl

end ScriptTokenizer
