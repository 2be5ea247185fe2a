/-
  ScriptTokenizer/CommandLine/Listing.lean
  ========================================
  **What is printed of a text that scans.**

  The dump has a heading and one line for every token, in order.  A line feed
  within a token is written as a backslash and an `n`, so that a token never
  takes more than its line.  The summary is one line with the number of tokens.
-/
import ScriptTokenizer.Scan

namespace ScriptTokenizer.CommandLine

/-- Write line feeds as two characters. -/
def escapeNewlines (text : String) : String :=
  String.ofList (text.toList.flatMap fun c => if c = '\n' then ['\\', 'n'] else [c])

/-- The line of one token. -/
def tokenLine (source : Source) (row : Row) : Except Fault String := do
  let text ← source.text row.start row.span
  return "  " ++ row.kindName ++ ": " ++ escapeNewlines text ++ "\n"

/-- A heading, and a line for every token. -/
def tokenDump (name : String) (tokenized : Tokenized) : Except Fault String := do
  let lines ← tokenized.table.rows.toList.mapM (tokenLine tokenized.source)
  return "Tokens for '" ++ name ++ "' (" ++ toString tokenized.table.size ++ " tokens):\n" ++
    String.join lines

def summary (name : String) (tokenized : Tokenized) : String :=
  "'" ++ name ++ "': ok (" ++ toString tokenized.table.size ++ " tokens)\n"

end ScriptTokenizer.CommandLine
