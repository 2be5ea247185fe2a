/-
  ScriptTokenizer/Input.lean
  ==========================
  **Where the text comes from.**

  A scan starts from a whole text.  An input hands it over in one piece: from
  memory, from a byte stream that is read to its end, or from a file.  Bytes
  must be the UTF-8 encoding of a text, all of them together; how a stream cuts
  them up does not matter, and a character may be cut in two.

  A stream is drained by the first call, whether that call succeeds or not.  A
  read that is interrupted is tried again; a read that fails otherwise decides
  the answer, and what was read before it is lost.
-/
import ScriptTokenizer.Scan

namespace ScriptTokenizer

/-- How a read from a stream can fail for good. -/
inductive ReadFailure where
  | timedOut
  | unexpectedEnd
  /-- Any other kind, by the name that the system gives it. -/
  | other (kind : String)
deriving DecidableEq, Repr

/-- Why an input has no text to hand over. -/
inductive InputError where
  /-- The bytes are no text. -/
  | invalidText
  | notFound
  | permissionDenied
  | isDirectory
  /-- The path goes on below something that is no directory. -/
  | notADirectory
  | nameTooLong
  | readFailed (failure : ReadFailure)
  /-- Any other failure, in the words of the system. -/
  | other (reason : String)
deriving DecidableEq, Repr

namespace InputError

def name : InputError → String
  | .invalidText => "InvalidData"
  | .notFound => "NotFound"
  | .permissionDenied => "PermissionDenied"
  | .isDirectory => "IsADirectory"
  | .notADirectory => "NotADirectory"
  | .nameTooLong => "InvalidFilename"
  | .readFailed .timedOut => "TimedOut"
  | .readFailed .unexpectedEnd => "UnexpectedEof"
  | .readFailed (.other kind) => kind
  | .other _ => "Other"

def message : InputError → String
  | .invalidText => "stream did not contain valid UTF-8"
  | .notFound => "No such file or directory (os error 2)"
  | .permissionDenied => "Permission denied (os error 13)"
  | .isDirectory => "Is a directory (os error 21)"
  | .notADirectory => "Not a directory (os error 20)"
  | .nameTooLong => "File name too long (os error 36)"
  | .readFailed _ => "reader failed"
  | .other reason => reason

end InputError

def decodeText (bytes : ByteArray) : Except InputError String :=
  match String.fromUTF8? bytes with
  | some text => .ok text
  | none => .error .invalidText

/-- What one read from a stream brings. -/
inductive Delivery where
  /-- Some bytes.  No bytes at all mean the end of the stream. -/
  | piece (bytes : ByteArray)
  | interrupted
  | failed (failure : ReadFailure)

/-- Read a stream to its end.  The result is the bytes, or the failure of a read,
    and the deliveries that are left for a later call. -/
def drain (bytes : ByteArray) : List Delivery → Except InputError ByteArray × List Delivery
  | [] => (.ok bytes, [])
  | .piece more :: rest =>
      if more.isEmpty then (.ok bytes, rest) else drain (bytes ++ more) rest
  | .interrupted :: rest => drain bytes rest
  | .failed failure :: rest => (.error (.readFailed failure), rest)

/-- Something that can hand over a text. -/
inductive Input where
  /-- A text that is kept: every call hands over the same. -/
  | text (content : String)
  /-- A text that is given away: later calls hand over the empty text. -/
  | owned (content : String)
  | stream (deliveries : List Delivery)
  /-- A file that is read anew by every call, with what reading it brings. -/
  | file (content : Except InputError ByteArray)

/-- Hand over the text.  The input that is left answers the next call. -/
def Input.take : Input → Except InputError String × Input
  | .text content => (.ok content, .text content)
  | .owned content => (.ok content, .owned "")
  | .stream deliveries =>
      match drain ByteArray.empty deliveries with
      | (outcome, rest) => (outcome.bind decodeText, .stream rest)
  | .file content => (content.bind decodeText, .file content)

/-- What an input answers to a call, when so many calls came before it. -/
def Input.answer : Input → Nat → Except InputError String
  | input, 0 => input.take.1
  | input, earlier + 1 => input.take.2.answer earlier

inductive ReadError where
  | input (error : InputError)
  | scan (error : ScanError)
deriving DecidableEq

def ReadError.message : ReadError → String
  | .input error => "failed to read input: " ++ error.message
  | .scan error => error.message

def read (policy : Policy) (input : Input) : Except Fault (Except ReadError Tokenized) := do
  match input.take.1 with
  | .error error => return .error (.input error)
  | .ok text => return (← tokenize policy text).mapError ReadError.scan

end ScriptTokenizer
