/-
  ScriptTokenizer/CommandLine/Run.lean
  ====================================
  **A run of the command line.**

  `lex` prints the tokens of each file and `check` only whether it scans.  Both
  read and scan every operand, and then write the results in the order of the
  operands: what scans goes to the standard output, and what does not scan or
  cannot be read to the standard error.  No operand keeps another one from
  being handled, and the run fails if one of them did.

  Operands are handled side by side.  That shows only where several of them read
  the standard input: each keeps it to itself until it has read it to its end,
  but nothing says which of them comes first.  So the order in which they come
  is a part of what a run meets (`Surroundings.arrival`), and a run is a function
  of its arguments and its surroundings.  Left open is how the trace lines of
  operands that are scanned at the same time get mixed; here those of an operand
  stand together.
-/
import ScriptTokenizer.CommandLine.Diagnostic
import ScriptTokenizer.CommandLine.Listing
import ScriptTokenizer.CommandLine.Operands
import ScriptTokenizer.CommandLine.Trace
import ScriptTokenizer.Input

namespace ScriptTokenizer.CommandLine

structure Surroundings where
  /-- What reading the file at a path brings. -/
  fileAt : String → Except InputError ByteArray
  /-- What the standard input has left to bring. -/
  standardInput : Input
  /-- Which trace records are written; without a filter, none. -/
  filter : Option Filter
  /-- When the operand at a position comes to the standard input. -/
  arrival : Nat → Nat := id

structure Exit where
  code : Nat
  stdout : String
  stderr : String
deriving DecidableEq, Repr

/-! ### Texts -/

def usage : String :=
  "Luja tokenizer\n\n" ++
  "Usage: luja <command> [options]\n\n" ++
  "Commands:\n" ++
  "  lex <file>...        Tokenize and display tokens\n" ++
  "  check <file>...      Tokenize and report scan errors only\n" ++
  "  help                 Show this help message\n" ++
  "  version              Show version information\n\n" ++
  "Options:\n" ++
  "  --strict             Reject characters outside the grammar\n\n" ++
  "A file named `-` is read from standard input.\n" ++
  "Set RUST_LOG (e.g. RUST_LOG=luja_lexer=debug) for scan tracing.\n"

def versionLine : String := "Luja tokenizer 0.1.0\n"

inductive Command where
  | lex
  | check
deriving DecidableEq, Repr

def Command.name : Command → String
  | .lex => "lex"
  | .check => "check"

def Command.usageLine (command : Command) : String :=
  "Usage: luja " ++ command.name ++ " <file>... [--strict]\n"

/-- What a command prints for a text that scans. -/
def Command.report (command : Command) (name : String) (tokenized : Tokenized) :
    Except Fault String :=
  match command with
  | .lex => tokenDump name tokenized
  | .check => .ok (summary name tokenized)

/-! ### Reading operands -/

/-- Why a file could not be read, for the user. -/
def unreadableFile (path : String) : InputError → String
  | .notFound => "cannot find file '" ++ path ++ "'"
  | .permissionDenied => "permission denied reading '" ++ path ++ "'"
  | .invalidText => "'" ++ path ++ "' contains invalid UTF-8 data"
  | error => "error reading '" ++ path ++ "': " ++ error.message

/-- An operand that was read: the name it goes by in messages, and its text. -/
structure NamedText where
  name : String
  text : String
deriving DecidableEq, Repr

/-- Does the operand at `j` come before the one at `i`?  Of two that come at the same
    time, the one that stands first does. -/
def comesBefore (arrival : Nat → Nat) (j i : Nat) : Bool :=
  arrival j < arrival i || (arrival j == arrival i && j < i)

/-- How many operands read the standard input before the one at `i` comes to it. -/
def turn (arrival : Nat → Nat) (paths : List String) (i : Nat) : Nat :=
  (List.range paths.length).countP fun j =>
    paths[j]? == some standardInputName && comesBefore arrival j i

/-- Read an operand, or say why that is not possible.  The standard input answers it as
    its turn is. -/
def readOperand (surroundings : Surroundings) (turn : Nat) (path : String) :
    Except String NamedText :=
  if path = standardInputName then
    ((surroundings.standardInput.answer turn).map (NamedText.mk "<stdin>")).mapError
      fun error => "error reading standard input: " ++ error.message
  else
    ((Input.file (surroundings.fileAt path)).take.1.map (NamedText.mk path)).mapError
      (unreadableFile path)

def readOperands (surroundings : Surroundings) (paths : List String) :
    List (Except String NamedText) :=
  paths.mapIdx fun i path => readOperand surroundings (turn surroundings.arrival paths i) path

/-! ### Handling operands -/

/-- What became of an operand.  Whatever was scanned has the records of its scan. -/
inductive Outcome where
  /-- It scans, and this is printed of it. -/
  | scanned (text : String) (records : List Record)
  | failed (operand : NamedText) (error : ScanError) (records : List Record)
  | unreadable (message : String)
deriving DecidableEq, Repr

namespace Outcome

def stdout : Outcome → String
  | .scanned text _ => text
  | _ => ""

def stderr : Outcome → String
  | .scanned _ _ => ""
  | .failed operand error _ => renderScanError operand.name operand.text.toList error
  | .unreadable message => message ++ "\n"

def records : Outcome → List Record
  | .scanned _ records => records
  | .failed _ _ records => records
  | .unreadable _ => []

def isFailure : Outcome → Bool
  | .scanned _ _ => false
  | _ => true

end Outcome

def scanOperand (command : Command) (policy : Policy) (operand : NamedText) :
    Except Fault Outcome := do
  let source := Source.ofString operand.text
  let report ← scan policy source
  let records := report.events.map (scanRecord source.size)
  match report.outcome with
  | .ok table => return .scanned (← command.report operand.name ⟨source, table⟩) records
  | .error error => return .failed operand error records

/-- Scan what was read. -/
def handleOperand (command : Command) (policy : Policy) :
    Except String NamedText → Except Fault Outcome
  | .error message => .ok (.unreadable message)
  | .ok operand => scanOperand command policy operand

def handleOperands (command : Command) (policy : Policy) (surroundings : Surroundings)
    (paths : List String) : Except Fault (List Outcome) :=
  (readOperands surroundings paths).mapM (handleOperand command policy)

/-! ### Whole runs -/

/-- The outputs of all operands, behind the trace. -/
def collect (filter : Option Filter) (outcomes : List Outcome) : Exit :=
  let records := startRecord outcomes.length :: outcomes.flatMap Outcome.records
  let trace :=
    match filter with
    | some filter => filter.lines records
    | none => ""
  { code := if outcomes.any Outcome.isFailure then 1 else 0
    stdout := String.join (outcomes.map Outcome.stdout)
    stderr := trace ++ String.join (outcomes.map Outcome.stderr) }

/-- The operands that a run on these arguments reads. -/
def pathsRead (args : List String) : List String :=
  match args with
  | [] => []
  | name :: rest =>
    if name = Command.lex.name ∨ name = Command.check.name then
      match Operands.parse rest with
      | .ok operands => operands.paths
      | .error _ => []
    else []

/-- The operands of a command, or how a run ends that has none to work on. -/
def Command.operands (command : Command) (args : List String) : Except Exit Operands :=
  match Operands.parse args with
  | .error error => .error ⟨1, "", "error: " ++ error.message ++ "\n" ++ command.usageLine⟩
  | .ok operands =>
    if operands.paths.isEmpty then
      .error ⟨1, "", command.usageLine ++ "\nUse `-` to read from standard input.\n"⟩
    else .ok operands

def runCommand (command : Command) (args : List String) (surroundings : Surroundings) :
    Except Fault Exit :=
  match command.operands args with
  | .error exit => .ok exit
  | .ok operands => do
    let outcomes ← handleOperands command operands.policy surroundings operands.paths
    return collect surroundings.filter outcomes

def run (args : List String) (surroundings : Surroundings) : Except Fault Exit :=
  match args with
  | [] => .ok ⟨0, usage, ""⟩
  | name :: rest =>
    if name = Command.lex.name then runCommand .lex rest surroundings
    else if name = Command.check.name then runCommand .check rest surroundings
    else if name ∈ ["help", "--help", "-h"] then .ok ⟨0, usage, ""⟩
    else if name ∈ ["version", "--version", "-v"] then .ok ⟨0, versionLine, ""⟩
    else .ok ⟨1, usage, "Unknown command: " ++ name ++ "\n\n"⟩

end ScriptTokenizer.CommandLine
