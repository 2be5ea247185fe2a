/-
  ScriptTokenizer/Table.lean
  ==========================
  **The table of tokens.**

  A table lists tokens in the order of the text: where each starts, how many
  characters it spans and, unless the table was made without them, its kind.
  A token is known by its number, counted from 0.

  A token is nothing of its own: the table has a column of starts, a column of
  spans and a column of kinds, and each of them grows by itself.  The rows are
  what can be read across the columns as far as they go.

  A table grows at its end only, and only by tokens that have characters and
  that start no earlier than the last one ends.  Anything else is a fault, which
  is noticed before a column grows.  How much room a column has before it must
  be moved is left out; nothing but the time of a push depends on it.
-/
import ScriptTokenizer.Fault
import ScriptTokenizer.Kind

namespace ScriptTokenizer

/-- One token: its place in the text, and its kind where kinds are tracked. -/
structure Row where
  start : Nat
  span : Nat
  kind : Option Kind
deriving DecidableEq, Repr

structure Table where
  tracksKinds : Bool
  startColumn : Array Nat
  spanColumn : Array Nat
  /-- Stays empty in a table without kinds. -/
  kindColumn : Array Kind
deriving DecidableEq, Repr

namespace Table

def empty (tracksKinds : Bool) : Table := ⟨tracksKinds, #[], #[], #[]⟩

def size (t : Table) : Nat := t.startColumn.size

def isEmpty (t : Table) : Bool := t.size == 0

/-! ### Growing -/

/-- May a token enter the table?  It must have characters; then the last token
    must end within the offsets, and no later than the new one starts. -/
def check (t : Table) (start span : Nat) : Except Fault Unit :=
  if span = 0 then .error (.emptyToken start)
  else
    match t.startColumn.back?, t.spanColumn.back? with
    | some lastStart, some lastSpan =>
      match addOffsets lastStart lastSpan with
      | .error fault => .error fault
      | .ok stop => if stop ≤ start then .ok () else .error (.overlap start)
    | _, _ => .ok ()

/-- Steps that let a table grow in place.  A fault leaves it as the steps before have made
    it. -/
abbrev Writing (α : Type) := EStateM Fault Table α

/-- Append a token without a look at it, one column after another.  A table that tracks no
    kinds forgets the kind. -/
def append (start span : Nat) (kind : Kind) : Writing Unit := do
  modify fun t => { t with startColumn := t.startColumn.push start }
  modify fun t => { t with spanColumn := t.spanColumn.push span }
  if (← get).tracksKinds then
    modify fun t => { t with kindColumn := t.kindColumn.push kind }

/-- Append a token that may enter. -/
def write (start span : Nat) (kind : Kind) : Writing Unit := do
  liftExcept ((← get).check start span)
  append start span kind

/-- The table with a token that may enter. -/
def push (t : Table) (start span : Nat) (kind : Kind) : Except Fault Table :=
  match write start span kind t with
  | .ok _ t' => .ok t'
  | .error fault _ => .error fault

/-! ### Asking by number -/

def start (t : Table) (i : Nat) : Except Fault Nat :=
  match t.startColumn[i]? with
  | some start => .ok start
  | none => .error .outOfBounds

def span (t : Table) (i : Nat) : Except Fault Nat :=
  match t.spanColumn[i]? with
  | some span => .ok span
  | none => .error .outOfBounds

/-- The kind of a token; `none` in a table without kinds. -/
def kind (t : Table) (i : Nat) : Except Fault (Option Kind) :=
  if i < t.size then .ok t.kindColumn[i]? else .error (.noSuchToken i t.size)

/-! ### The columns -/

def starts (t : Table) : List Nat := t.startColumn.toList

def spans (t : Table) : List Nat := t.spanColumn.toList

/-- The kinds of all tokens; the empty list in a table without kinds. -/
def kinds (t : Table) : List Kind := t.kindColumn.toList

instance : ToString Table where
  toString t := s!"TokenTable({t.size} tokens)"

/-! ### The rows -/

/-- Read across columns from the top, as long as there is a start and a span. -/
def across : List Nat → List Nat → List Kind → List Row
  | start :: starts, span :: spans, kinds =>
    ⟨start, span, kinds.head?⟩ :: across starts spans kinds.tail
  | _, _, _ => []

def rows (t : Table) : Array Row := (across t.starts t.spans t.kinds).toArray

def row? (t : Table) (i : Nat) : Option Row := t.rows[i]?

/-- The table with the columns of these rows. -/
def ofRows (tracksKinds : Bool) (rows : List Row) : Table :=
  ⟨tracksKinds, (rows.map Row.start).toArray, (rows.map Row.span).toArray,
    (rows.filterMap Row.kind).toArray⟩

theorem getElem?_across {starts spans : List Nat} {kinds : List Kind} {i : Nat} {row : Row} :
    (across starts spans kinds)[i]? = some row ↔
      starts[i]? = some row.start ∧ spans[i]? = some row.span ∧ kinds[i]? = row.kind := by
  fun_induction across starts spans kinds generalizing i with
  | case1 start starts span spans kinds ih =>
    cases i with
    | zero =>
      obtain ⟨rowStart, rowSpan, rowKind⟩ := row
      simp [List.head?_eq_getElem?]
    | succ i => simp [ih, List.getElem?_tail]
  | case2 starts spans kinds hshort =>
    simp only [List.getElem?_nil, reduceCtorEq, false_iff, not_and]
    intro hstart hspan
    cases starts with
    | nil => cases hstart
    | cons start starts =>
      cases spans with
      | nil => cases hspan
      | cons span spans => exact (hshort start starts span spans rfl rfl).elim

/-- A row is what the columns have at its number. -/
theorem row?_eq_some_iff {t : Table} {i : Nat} {row : Row} :
    t.row? i = some row ↔
      t.startColumn[i]? = some row.start ∧ t.spanColumn[i]? = some row.span ∧
        t.kindColumn[i]? = row.kind := by
  simp [row?, rows, getElem?_across, starts, spans, kinds]

section Asking

variable {t : Table} {i : Nat} {row : Row}

theorem lt_size_of_row? (h : t.row? i = some row) : i < t.size :=
  (Array.getElem?_eq_some_iff.mp (row?_eq_some_iff.mp h).1).1

theorem start_of_row? (h : t.row? i = some row) : t.start i = .ok row.start := by
  rw [start, (row?_eq_some_iff.mp h).1]

theorem span_of_row? (h : t.row? i = some row) : t.span i = .ok row.span := by
  rw [span, (row?_eq_some_iff.mp h).2.1]

theorem kind_of_row? (h : t.row? i = some row) : t.kind i = .ok row.kind := by
  rw [kind, if_pos (lt_size_of_row? h), (row?_eq_some_iff.mp h).2.2]

end Asking

end Table

def Row.kindName (row : Row) : String :=
  match row.kind with
  | some kind => kind.name
  | none => "UNDEFINED"

end ScriptTokenizer
