/-
  ScriptTokenizer/Kind.lean
  =========================
  **The kinds of tokens.**

  A closed set with stable numbers, grouped by category and with gaps between
  the groups: structural kinds from 1, brackets from 10, punctuation from 20,
  operators from 30, logic at 46, reserved words from 70 to 90.

  Reading a text assigns all but a few of the kinds up to 46, and of the kinds
  of reserved words only `kwNot`, to a `!`.  A reserved word in the text is a
  word like any other; who wants to tell it apart asks `Kind.ofKeyword?`.
-/
import ScriptTokenizer.Lexeme

namespace ScriptTokenizer

/-- The category of a token. -/
inductive Kind where
  /-- A run of letters and underscores, with no meaning assigned yet. -/
  | word
  | number
  /-- Quoted, with its quotes. -/
  | string
  /-- Never assigned: comments do not become tokens. -/
  | comment
  | objectStart
  | objectEnd
  | functionStart
  | functionEnd
  | arrayStart
  | arrayEnd
  | colon
  | question
  | semicolon
  | comma
  | period
  | hash
  /-- A line feed. -/
  | newline
  | equal
  | add
  | sub
  | mul
  /-- Never assigned: `/` is outside the grammar. -/
  | div
  | concat
  | varargs
  /-- `~` -/
  | logicNot
  | kwAnd
  | kwBreak
  | kwDo
  | kwElse
  | kwElseIf
  | kwEnd
  | kwFalse
  | kwFor
  | kwFunction
  | kwIf
  | kwIn
  | kwLocal
  | kwNil
  /-- The reserved word, also assigned to `!`. -/
  | kwNot
  | kwOr
  | kwRepeat
  | kwReturn
  | kwThen
  | kwTrue
  | kwUntil
  | kwWhile
deriving DecidableEq, Repr

namespace Kind

def all : List Kind :=
  [.word, .number, .string, .comment, .objectStart, .objectEnd, .functionStart, .functionEnd,
   .arrayStart, .arrayEnd, .colon, .question, .semicolon, .comma, .period, .hash, .newline,
   .equal, .add, .sub, .mul, .div, .concat, .varargs, .logicNot, .kwAnd, .kwBreak, .kwDo,
   .kwElse, .kwElseIf, .kwEnd, .kwFalse, .kwFor, .kwFunction, .kwIf, .kwIn, .kwLocal, .kwNil,
   .kwNot, .kwOr, .kwRepeat, .kwReturn, .kwThen, .kwTrue, .kwUntil, .kwWhile]

def code : Kind → Nat
  | .word => 1
  | .number => 2
  | .string => 3
  | .comment => 4
  | .objectStart => 10
  | .objectEnd => 11
  | .functionStart => 12
  | .functionEnd => 13
  | .arrayStart => 14
  | .arrayEnd => 15
  | .colon => 20
  | .question => 21
  | .semicolon => 22
  | .comma => 23
  | .period => 24
  | .hash => 25
  | .newline => 26
  | .equal => 30
  | .add => 31
  | .sub => 32
  | .mul => 33
  | .div => 34
  | .concat => 35
  | .varargs => 36
  | .logicNot => 46
  | .kwAnd => 70
  | .kwBreak => 71
  | .kwDo => 72
  | .kwElse => 73
  | .kwElseIf => 74
  | .kwEnd => 75
  | .kwFalse => 76
  | .kwFor => 77
  | .kwFunction => 78
  | .kwIf => 79
  | .kwIn => 80
  | .kwLocal => 81
  | .kwNil => 82
  | .kwNot => 83
  | .kwOr => 84
  | .kwRepeat => 85
  | .kwReturn => 86
  | .kwThen => 87
  | .kwTrue => 88
  | .kwUntil => 89
  | .kwWhile => 90

/-- The name that token dumps and messages write. -/
def name : Kind → String
  | .word => "NAMESPACE"
  | .number => "NUMBER"
  | .string => "STRING"
  | .comment => "COMMENT"
  | .objectStart => "OBJECT_START"
  | .objectEnd => "OBJECT_END"
  | .functionStart => "FUNCTION_START"
  | .functionEnd => "FUNCTION_END"
  | .arrayStart => "ARRAY_START"
  | .arrayEnd => "ARRAY_END"
  | .colon => "COLON"
  | .question => "QUESTION"
  | .semicolon => "SEMI_COLON"
  | .comma => "COMMA"
  | .period => "PERIOD"
  | .hash => "HASH"
  | .newline => "EOL"
  | .equal => "EQUAL"
  | .add => "ADD"
  | .sub => "SUB"
  | .mul => "MUL"
  | .div => "DIV"
  | .concat => "CONCAT"
  | .varargs => "VARARGS"
  | .logicNot => "LOGIC_NOT"
  | .kwAnd => "AND"
  | .kwBreak => "BREAK"
  | .kwDo => "DO"
  | .kwElse => "ELSE"
  | .kwElseIf => "ELSEIF"
  | .kwEnd => "END"
  | .kwFalse => "FALSE"
  | .kwFor => "FOR"
  | .kwFunction => "FUNCTION"
  | .kwIf => "IF"
  | .kwIn => "IN"
  | .kwLocal => "LOCAL"
  | .kwNil => "NIL"
  | .kwNot => "NOT"
  | .kwOr => "OR"
  | .kwRepeat => "REPEAT"
  | .kwReturn => "RETURN"
  | .kwThen => "THEN"
  | .kwTrue => "TRUE"
  | .kwUntil => "UNTIL"
  | .kwWhile => "WHILE"

/-- The name in mixed case, which tables of kinds list beside the other one. -/
def title : Kind → String
  | .word => "Namespace"
  | .number => "Number"
  | .string => "String"
  | .comment => "Comment"
  | .objectStart => "ObjectStart"
  | .objectEnd => "ObjectEnd"
  | .functionStart => "FunctionStart"
  | .functionEnd => "FunctionEnd"
  | .arrayStart => "ArrayStart"
  | .arrayEnd => "ArrayEnd"
  | .colon => "Colon"
  | .question => "Question"
  | .semicolon => "SemiColon"
  | .comma => "Comma"
  | .period => "Period"
  | .hash => "Hash"
  | .newline => "Eol"
  | .equal => "Equal"
  | .add => "Add"
  | .sub => "Sub"
  | .mul => "Mul"
  | .div => "Div"
  | .concat => "Concat"
  | .varargs => "Varargs"
  | .logicNot => "LogicNot"
  | .kwAnd => "And"
  | .kwBreak => "Break"
  | .kwDo => "Do"
  | .kwElse => "Else"
  | .kwElseIf => "ElseIf"
  | .kwEnd => "End"
  | .kwFalse => "False"
  | .kwFor => "For"
  | .kwFunction => "Function"
  | .kwIf => "If"
  | .kwIn => "In"
  | .kwLocal => "Local"
  | .kwNil => "Nil"
  | .kwNot => "Not"
  | .kwOr => "Or"
  | .kwRepeat => "Repeat"
  | .kwReturn => "Return"
  | .kwThen => "Then"
  | .kwTrue => "True"
  | .kwUntil => "Until"
  | .kwWhile => "While"

def ofName? (name : String) : Option Kind := all.find? (fun kind => kind.name == name)

/-- The kinds numbered from 70 to 90 are the reserved words. -/
def isKeyword (kind : Kind) : Bool := 70 ≤ kind.code && kind.code ≤ 90

instance : Ord Kind where
  compare k l := compare k.code l.code

/-- The reserved word that a text is, letter for letter.  How many bytes the text has
    tells with which words it is compared. -/
def ofKeyword? (text : String) : Option Kind :=
  match text.utf8ByteSize with
  | 2 =>
    match text with
    | "do" => some .kwDo
    | "if" => some .kwIf
    | "in" => some .kwIn
    | "or" => some .kwOr
    | _ => none
  | 3 =>
    match text with
    | "and" => some .kwAnd
    | "end" => some .kwEnd
    | "for" => some .kwFor
    | "nil" => some .kwNil
    | "not" => some .kwNot
    | _ => none
  | 4 =>
    match text with
    | "else" => some .kwElse
    | "then" => some .kwThen
    | "true" => some .kwTrue
    | _ => none
  | 5 =>
    match text with
    | "break" => some .kwBreak
    | "false" => some .kwFalse
    | "local" => some .kwLocal
    | "until" => some .kwUntil
    | "while" => some .kwWhile
    | _ => none
  | 6 =>
    match text with
    | "elseif" => some .kwElseIf
    | "repeat" => some .kwRepeat
    | "return" => some .kwReturn
    | _ => none
  | 8 =>
    match text with
    | "function" => some .kwFunction
    | _ => none
  | _ => none

theorem mem_all (kind : Kind) : kind ∈ all := by
  cases kind <;> decide

/-- **The reserved words** are the names of their kinds, in lower case. -/
theorem ofKeyword?_eq_some_iff {text : String} {kind : Kind} :
    ofKeyword? text = some kind ↔ kind.isKeyword = true ∧ text = kind.name.toLower := by
  constructor
  · intro h
    unfold ofKeyword? at h
    -- one case for each word that a text of its length is compared with
    split at h
    case h_7 => cases h
    all_goals
      split at h
      all_goals cases h
      all_goals decide +kernel
  · rintro ⟨hkeyword, rfl⟩
    have hall : ∀ k ∈ all, k.isKeyword = true → ofKeyword? k.name.toLower = some k := by
      decide +kernel
    exact hall kind (mem_all kind) hkeyword

end Kind

/-- The kind of token that a lexeme becomes.  Trivia, mistakes and the end
    become none. -/
def Tag.kind? : Tag → Option Kind
  | .word => some .word
  | .number => some .number
  | .string => some .string
  | .leftBrace => some .objectStart
  | .rightBrace => some .objectEnd
  | .leftParen => some .functionStart
  | .rightParen => some .functionEnd
  | .leftBracket => some .arrayStart
  | .rightBracket => some .arrayEnd
  | .colon => some .colon
  | .question => some .question
  | .semicolon => some .semicolon
  | .comma => some .comma
  | .dot => some .period
  | .hash => some .hash
  | .newline => some .newline
  | .equal => some .equal
  | .plus => some .add
  | .minus => some .sub
  | .star => some .mul
  | .dotDot => some .concat
  | .dotDotDot => some .varargs
  | .bang => some .kwNot
  | .tilde => some .logicNot
  | .spacing => none
  | .lineComment => none
  | .blockComment => none
  | .unrecognized => none
  | .unterminatedString => none
  | .unterminatedBlockComment => none
  | .eof => none

/-- A lexeme becomes a token exactly if it is neither trivia nor a mistake nor
    the end. -/
theorem Tag.kind?_eq_none_iff (tag : Tag) :
    tag.kind? = none ↔ tag.isTrivia = true ∨ tag.isError = true ∨ tag = .eof := by
  cases tag <;> decide

end ScriptTokenizer
