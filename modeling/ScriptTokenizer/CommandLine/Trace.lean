/-
  ScriptTokenizer/CommandLine/Trace.lean
  ======================================
  **Trace lines, and the filter that selects them.**

  A run can leave a trace of what it does: that it starts, what each scan drops,
  and that a scan is complete.  Every record has a level and a target, the part
  of the program it speaks of.  A filter is a list of directives; of those whose
  target begins the record's target, the longest decides up to which level
  records are written.

  Filters are written as `level` or `target=level`, separated by commas.  A
  target alone stands for every level.
-/
import ScriptTokenizer.Scan

namespace ScriptTokenizer.CommandLine

/-- Levels of detail, from nothing to everything. -/
inductive Level where
  | off
  | error
  | warn
  | info
  | debug
  | trace
deriving DecidableEq, Repr

namespace Level

def rank : Level → Nat
  | .off => 0
  | .error => 1
  | .warn => 2
  | .info => 3
  | .debug => 4
  | .trace => 5

/-- The level with this name, in any case, or with this rank. -/
def ofName? (name : String) : Option Level :=
  match String.ofList (name.toList.map Char.toLower) with
  | "off" | "0" => some .off
  | "error" | "1" => some .error
  | "warn" | "2" => some .warn
  | "info" | "3" => some .info
  | "debug" | "4" => some .debug
  | "trace" | "5" => some .trace
  | _ => none

def label : Level → String
  | .off => "OFF"
  | .error => "ERROR"
  | .warn => "WARN"
  | .info => "INFO"
  | .debug => "DEBUG"
  | .trace => "TRACE"

end Level

/-! ### Filters -/

/-- Records whose target begins with this one are written up to this level. -/
structure Directive where
  target : String
  level : Level
deriving DecidableEq, Repr

abbrev Filter := List Directive

/-- A directive as it is written.  What is no directive is left out. -/
def Directive.parse? (text : String) : Option Directive :=
  match text.splitOn "=" with
  | [word] =>
    match Level.ofName? word with
    | some level => some ⟨"", level⟩
    | none => some ⟨word, .trace⟩
  | [target, ""] => some ⟨target, .trace⟩
  | [target, word] => (Level.ofName? word).map (Directive.mk target)
  | _ => none

namespace Filter

/-- A filter as it is written.  One without directives lets errors pass. -/
def parse (text : String) : Filter :=
  match ((text.splitOn ",").filter (· != "")).filterMap Directive.parse? with
  | [] => [⟨"", .error⟩]
  | directives => directives

/-- The directive that decides for a target: the one with the longest target that
    begins it, of two equal ones the later. -/
def deciding? (filter : Filter) (target : String) : Option Directive :=
  (filter.filter fun d => d.target.toList.isPrefixOf target.toList).foldl
    (fun best d =>
      match best with
      | some b => if b.target.length ≤ d.target.length then some d else some b
      | none => some d)
    none

/-- Is a record of this target and level written? -/
def passes (filter : Filter) (target : String) (level : Level) : Bool :=
  match filter.deciding? target with
  | some d => level.rank ≤ d.level.rank
  | none => false

end Filter

/-! ### Records -/

/-- One record: its level, the activity it belongs to, its target and its text. -/
structure Record where
  level : Level
  activity : String
  target : String
  text : String
deriving DecidableEq, Repr

def Record.line (record : Record) : String :=
  record.level.label ++ " " ++ record.activity ++ record.target ++ ": " ++ record.text ++ "\n"

/-- The record of a run that starts on so many operands. -/
def startRecord (operands : Nat) : Record :=
  ⟨.debug, "", "lujac::commands", "tokenizing files=" ++ toString operands⟩

/-- How a record writes the character that was skipped. -/
def foundText : Option Char → String
  | some c => "Some(" ++ quoteChar c ++ ")"
  | none => "None"

/-- The record of an event in the scan of a text of so many characters. -/
def scanRecord (chars : Nat) (event : Event) : Record :=
  let activity := "scan_buffer\x7bchars=" ++ toString chars ++ "\x7d: "
  let target := "luja_lexer::lexer"
  match event with
  | .droppedComment start length =>
    ⟨.trace, activity, target,
      "dropped comment start=" ++ toString start ++ " len=" ++ toString length⟩
  | .skippedCharacter start found =>
    ⟨.trace, activity, target,
      "skipped unrecognized character start=" ++ toString start ++ " found=" ++ foundText found⟩
  | .complete tokens =>
    ⟨.debug, activity, target, "scan complete tokens=" ++ toString tokens⟩

/-- The lines of the records that pass a filter. -/
def Filter.lines (filter : Filter) (records : List Record) : String :=
  String.join ((records.filter fun r => filter.passes r.target r.level).map Record.line)

end ScriptTokenizer.CommandLine
