/-
  ScriptTokenizer/CommandLine/Operands.lean
  =========================================
  **The operands of a command.**

  Files and the flag `--strict`, in any order.  A single `-` is a file, the
  standard input; every other argument that begins with `-` must be the flag,
  and the first one that is not makes the whole list invalid.
-/
import ScriptTokenizer.Scan

namespace ScriptTokenizer.CommandLine

/-- The operand that stands for the standard input. -/
def standardInputName : String := "-"

/-- What a command is to work on. -/
structure Operands where
  policy : Policy
  paths : List String
deriving DecidableEq, Repr

structure UnknownOption where
  option : String
deriving DecidableEq, Repr

def UnknownOption.message (e : UnknownOption) : String := "unknown option '" ++ e.option ++ "'"

namespace Operands

def empty : Operands := ⟨.skip, []⟩

def add (operands : Operands) (arg : String) : Except UnknownOption Operands :=
  if arg = "--strict" then .ok { operands with policy := .reject }
  else if arg = standardInputName then .ok { operands with paths := operands.paths ++ [arg] }
  else if arg.toList.head? = some '-' then .error ⟨arg⟩
  else .ok { operands with paths := operands.paths ++ [arg] }

def parse (args : List String) : Except UnknownOption Operands := args.foldlM add empty

end Operands

end ScriptTokenizer.CommandLine
