import QueryFuzz.Settings.Document

/-!
# Tables under construction

The tables of a TOML document are put together line by line. A table that only stands on the way
to another may still get a header of its own; one that has a header, or that was made by dotted
keys, may not, and a value in braces or brackets is closed once it is written.
-/

namespace QueryFuzz
namespace Settings
namespace Toml

/-- How a table came to be. -/
inductive Standing where
  /-- By a header of its own. -/
  | headed
  /-- On the way to another header. -/
  | passed
  /-- By dotted keys. -/
  | dotted
  deriving DecidableEq

inductive Draft where
  | value (d : Document)
  | table (standing : Standing) (entries : List (String × Draft))
  /-- Tables that share a header in double brackets. -/
  | tables (items : List (List (String × Draft)))

abbrev Entries := List (String × Draft)

mutual

def Draft.document : Draft → Document
  | .value d => d
  | .table _ entries => .table (documentEntries entries)
  | .tables items => .list (documentTables items)

def documentEntries : List (String × Draft) → List (String × Document)
  | [] => []
  | (name, d) :: rest => (name, d.document) :: documentEntries rest

def documentTables : List (List (String × Draft)) → List Document
  | [] => []
  | entries :: rest => .table (documentEntries entries) :: documentTables rest

end

namespace Entries

def replace (entries : Entries) (name : String) (d : Draft) : Entries :=
  entries.map fun e => if e.1 = name then (name, d) else e

/-- Changes the table that a path leads to. Tables on the way that are missing are made. Dotted
keys do not lead through a table that has a header. -/
def alter (byHeader : Bool) (change : Standing → Entries → Option Entries) :
    List String → Standing → Entries → Option Entries
  | [], standing, entries => change standing entries
  | name :: path, _, entries =>
    match entries.lookup name with
    | none => do
      let standing := if byHeader then .passed else .dotted
      let inner ← alter byHeader change path standing []
      return entries ++ [(name, .table standing inner)]
    | some (.value _) => none
    | some (.tables items) => do
      let inner ← alter byHeader change path .headed (items.getLast?.getD [])
      return entries.replace name (.tables (items.dropLast ++ [inner]))
    | some (.table standing inner) => do
      if !byHeader && standing = .headed then none
      else
        let inner ← alter byHeader change path standing inner
        return entries.replace name (.table standing inner)

/-- Starts the table of a header. -/
def startTable (path : List String) (name : String) (entries : Entries) : Option Entries :=
  alter true (fun _ inner =>
    match inner.lookup name with
    | none => some (inner ++ [(name, .table .headed [])])
    | some (.table .passed content) => some (inner.replace name (.table .headed content))
    | some _ => none) path .headed entries

/-- Starts one more of the tables of a header in double brackets. -/
def startItem (path : List String) (name : String) (entries : Entries) : Option Entries :=
  alter true (fun _ inner =>
    match inner.lookup name with
    | none => some (inner ++ [(name, .tables [[]])])
    | some (.tables items) => some (inner.replace name (.tables (items ++ [[]])))
    | some _ => none) path .headed entries

/-- Puts a value under a key of a table. The table that the last part of a dotted key belongs to
must itself have been made by dotted keys. -/
def put (path : List String) (name : String) (d : Document) (standing : Standing)
    (entries : Entries) : Option Entries :=
  alter false (fun standing inner =>
    if (standing = .dotted) = (path = []) then none
    else if (inner.lookup name).isSome then none
    else some (inner ++ [(name, .value d)])) path standing entries

/-- Puts a value under a key of the table that a header leads to. -/
def putBelow (header path : List String) (name : String) (d : Document) (entries : Entries) :
    Option Entries :=
  alter true (fun _ inner => inner.put path name d .headed) header .headed entries

end Entries
end Toml
end Settings
end QueryFuzz
