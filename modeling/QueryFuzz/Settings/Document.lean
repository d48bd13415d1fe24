import QueryFuzz.Schema
import QueryFuzz.Width

/-!
# Documents

Settings and schemas are read from documents: trees of texts, numbers, lists and tables. The
functions here take a document apart into the fields of a record. Unknown fields are refused, and
a record may also be given as the list of its fields in order.
-/

namespace QueryFuzz
namespace Settings

/-- The written form a document comes from; the two differ in small freedoms. -/
inductive Form where
  | json
  | toml
  deriving DecidableEq, Repr

inductive Document where
  | null
  | boolean (b : Bool)
  | integer (n : Int)
  | real (x : Float)
  | text (s : String)
  /-- A date or a time. -/
  | moment
  | list (items : List Document)
  | table (entries : List (String × Document))
  deriving Inhabited

namespace Document

def isEmpty : Document → Bool
  | list items => items.isEmpty
  | table entries => entries.isEmpty
  | _ => false

def text? : Document → Option String
  | text s => some s
  | _ => none

def boolean? : Document → Option Bool
  | boolean b => some b
  | _ => none

/-- A whole number that passes a test. -/
def integer? (fits : Int → Bool) : Document → Option Int
  | integer n => if fits n then some n else none
  | _ => none

/-- A count that fits 64 bits. -/
def count? (d : Document) : Option Nat :=
  (d.integer? (Width.fitsUnsigned 64)).map Int.toNat

/-- A number; a whole number counts as a real one. -/
def real? : Document → Option Float
  | real x => some x
  | integer n => some (Float.ofInt n)
  | _ => none

def items? : Document → Option (List Document)
  | list items => some items
  | _ => none

def listOf? {α : Type} (item? : Document → Option α) (d : Document) : Option (List α) :=
  d.items?.bind (·.mapM item?)

/-- The name of a choice. It may also be the only key of a table without further content. -/
def choice? (form : Form) : Document → Option String
  | text s => some s
  | table [(name, content)] =>
    match form, content with
    | .json, null => some name
    | .json, _ => none
    | .toml, content => if content.isEmpty then some name else none
  | _ => none

/-- The values of the named fields, absent ones as none. -/
def fields? (form : Form) (names : List String) : Document → Option (List (Option Document))
  | table entries =>
    if entries.all fun e => names.contains e.1 then
      some (names.map fun name => (entries.find? (·.1 == name)).map (·.2))
    else none
  | list items =>
    if form = .json ∧ names.length < items.length then none
    else some ((List.range names.length).map fun i => items[i]?)
  | _ => none

end Document

/-- A field that must be there. -/
def required {α : Type} (read? : Document → Option α) (d : Option Document) : Option α :=
  d.bind read?

/-- A field with a value of its own when it is absent. -/
def optional {α : Type} (read? : Document → Option α) (otherwise : α) (d : Option Document) :
    Option α :=
  match d with
  | some d => read? d
  | none => some otherwise

end Settings

open Settings

def ColumnType.ofDocument? (form : Form) (d : Document) : Option ColumnType :=
  (d.choice? form).bind ofDocumentName?

def Column.ofDocument? (form : Form) (d : Document) : Option Column := do
  match ← d.fields? form ["name", "type"] with
  | [name, type] =>
    return ⟨← required (·.text?) name, ← required (ColumnType.ofDocument? form) type⟩
  | _ => none

def Table.ofDocument? (form : Form) (d : Document) : Option Table := do
  match ← d.fields? form ["name", "columns"] with
  | [name, columns] =>
    return ⟨← required (·.text?) name,
      ← required (·.listOf? (Column.ofDocument? form)) columns⟩
  | _ => none

def Schema.ofDocument? (form : Form) (d : Document) : Option Schema :=
  (d.listOf? (Table.ofDocument? form)).map Schema.mk

end QueryFuzz
