/-
  ScriptTokenizer/Main.lean
  =========================
  **The program.**

  The operands of a run are read beforehand, so that the run itself is a
  function of what was read.  Here bytes come in, texts go out, and nothing is
  decided.
-/
import ScriptTokenizer.CommandLine.Run

namespace ScriptTokenizer

open CommandLine

/-- The system's number of an error.  Some calls report it negated. -/
def errorNumber (code : UInt32) : UInt32 := min code (0 - code)

/-- The reason for which the system could not read a file. -/
def inputErrorOf : IO.Error → InputError
  | .noFileOrDirectory .. => .notFound
  | .permissionDenied .. => .permissionDenied
  | .inappropriateType _ code reason =>
      if errorNumber code = 21 then .isDirectory
      else if errorNumber code = 20 then .notADirectory
      else .other reason
  | .invalidArgument _ code reason =>
      if errorNumber code = 36 then .nameTooLong else .other reason
  | error => .other (toString error)

def readBytes (path : String) : IO (Except InputError ByteArray) := do
  match ← (IO.FS.readBinFile path).toBaseIO with
  | .ok bytes => return .ok bytes
  | .error error => return .error (inputErrorOf error)

/-- A stream up to its end. -/
partial def readStream (stream : IO.FS.Stream) (bytes : ByteArray) : IO ByteArray := do
  let more ← stream.read 65536
  if more.isEmpty then return bytes
  readStream stream (bytes ++ more)

/-- Read what the operands name, run, print, and give the exit code. -/
def program (args : List String) : IO UInt32 := do
  let paths := pathsRead args
  let files ← paths.filter (· != standardInputName) |>.mapM fun path => do
    return (path, ← readBytes path)
  let bytes ←
    if standardInputName ∈ paths then readStream (← IO.getStdin) ByteArray.empty
    else pure ByteArray.empty
  let filter ← IO.getEnv "RUST_LOG"
  let surroundings : Surroundings :=
    { fileAt := fun path => (files.lookup path).getD (.error .notFound)
      standardInput := .stream [.piece bytes]
      filter := filter.map Filter.parse }
  match run args surroundings with
  | .ok exit =>
    IO.print exit.stdout
    IO.eprint exit.stderr
    return UInt32.ofNat exit.code
  | .error fault =>
    IO.eprintln (fault.message?.getD "internal fault")
    return 101

end ScriptTokenizer

def main (args : List String) : IO UInt32 := ScriptTokenizer.program args
