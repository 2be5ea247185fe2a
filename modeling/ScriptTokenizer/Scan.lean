/-
  ScriptTokenizer/Scan.lean
  =========================
  **From a text to its table of tokens.**

  One pass over the lexemes.  Those with a kind become tokens; blanks and
  comments are dropped; the first mistake ends the scan.  Whether a character
  outside the grammar is a mistake is the one thing a caller can choose
  (`Policy`).

  The scan reports, in order, what it dropped on the way: comments, characters
  outside the grammar, and the number of tokens when it reached the end.
-/
import ScriptTokenizer.Lexeme.Reading
import ScriptTokenizer.Table
import ScriptTokenizer.Scan.Error

namespace ScriptTokenizer

/-- What to do with characters outside the grammar. -/
inductive Policy where
  /-- Drop them. -/
  | skip
  /-- Reject the text. -/
  | reject
deriving DecidableEq, Repr

/-- What becomes of a lexeme. -/
inductive Treatment where
  | keep (kind : Kind)
  | ignore
  /-- It is a comment: dropped and reported. -/
  | dropComment
  /-- It is a character outside the grammar: dropped and reported. -/
  | skipCharacter
  | fail
deriving DecidableEq, Repr

def Policy.treat (policy : Policy) (tag : Tag) : Treatment :=
  match tag.kind? with
  | some kind => .keep kind
  | none =>
    match tag with
    | .lineComment => .dropComment
    | .blockComment => .dropComment
    | .unrecognized =>
      match policy with
      | .skip => .skipCharacter
      | .reject => .fail
    | tag => if tag.isError then .fail else .ignore

/-- Something a scan reports while it runs. -/
inductive Event where
  | droppedComment (start length : Nat)
  | skippedCharacter (start : Nat) (found : Option Char)
  /-- The end was reached with so many tokens. -/
  | complete (tokens : Nat)
deriving DecidableEq, Repr

/-- A finished scan: what it reported, and the table or the first error. -/
structure Report where
  events : List Event
  outcome : Except ScanError Table

instance : DecidableEq Report
  | ⟨events, .ok table⟩, ⟨events', .ok table'⟩ =>
    decidable_of_iff (events = events' ∧ table = table') (by simp)
  | ⟨events, .error error⟩, ⟨events', .error error'⟩ =>
    decidable_of_iff (events = events' ∧ error = error') (by simp)
  | ⟨_, .ok _⟩, ⟨_, .error _⟩ => isFalse (by simp)
  | ⟨_, .error _⟩, ⟨_, .ok _⟩ => isFalse (by simp)

/-- Continue a scan at a cursor, with the tokens and the events so far. -/
def scanFrom (policy : Policy) (table : Table) (events : Array Event) (c : Cursor) :
    Except Fault Report :=
  match _h : c.next with
  | .error fault _ => .error fault
  | .ok lexeme c' =>
    if _htag : lexeme.tag = .eof then
      .ok ⟨(events.push (.complete table.size)).toList, .ok table⟩
    else
      match policy.treat lexeme.tag with
      | .keep kind =>
        match table.push c.pos lexeme.length kind with
        | .error fault => .error fault
        | .ok table => scanFrom policy table events c'
      | .ignore => scanFrom policy table events c'
      | .dropComment =>
        scanFrom policy table (events.push (.droppedComment c.pos lexeme.length)) c'
      | .skipCharacter =>
        scanFrom policy table
          (events.push (.skippedCharacter c.pos (c.source.charAt? c.pos))) c'
      | .fail =>
        match ScanError.ofLexeme c.source lexeme.tag c.pos with
        | .error fault => .error fault
        | .ok error => .ok ⟨events.toList, .error error⟩
termination_by c.source.size + padding - c.pos
decreasing_by
  all_goals
    obtain ⟨hlt, htag | ⟨hsource, hpos⟩⟩ := Cursor.next_progress _h
    · contradiction
    · rw [hsource]
      omega

def scan (policy : Policy) (s : Source) : Except Fault Report :=
  scanFrom policy (Table.empty true) #[] (Cursor.start s)

/-- A text that was scanned, with its tokens. -/
structure Tokenized where
  source : Source
  table : Table
deriving DecidableEq

def tokenize (policy : Policy) (text : String) : Except Fault (Except ScanError Tokenized) := do
  let source := Source.ofString text
  let report ← scan policy source
  return report.outcome.map (Tokenized.mk source)

end ScriptTokenizer
