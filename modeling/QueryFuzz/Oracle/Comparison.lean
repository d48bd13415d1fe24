import QueryFuzz.Engine.Outcome
import QueryFuzz.Oracle.Value
import QueryFuzz.Sql.Script

/-!
# Comparing results

Rows are compared in the order they came in if the query fixes their order, and as a multiset
otherwise. If a query limits the rows without ordering them, any choice of rows is right and by
default only their number is compared. A difference is described in words.
-/

namespace QueryFuzz
namespace Oracle

open Engine (Row)

/-- What to do with a limit on unordered rows. -/
inductive UnorderedLimit where
  | compareCounts
  | strict
  deriving DecidableEq, Repr

structure Config where
  floatDigits : Nat
  unorderedLimit : UnorderedLimit
  /-- Fragments of error texts that come from differing versions. -/
  ignorableErrors : List String
  deriving DecidableEq, Repr

def Config.standard : Config :=
  ⟨12, .compareCounts, ["syntax error", "no such function", "not currently supported"]⟩

abbrev CanonicalRow := List Value

def canonicalRow (digits : Nat) (row : Row) : CanonicalRow :=
  row.map (canonical · digits)

/-- Column by column; a row that ends first comes first. -/
def rowLe : CanonicalRow → CanonicalRow → Bool
  | [], _ => true
  | _ :: _, [] => false
  | v :: vs, w :: ws => if v = w then rowLe vs ws else v.le w

def rowText (row : CanonicalRow) : String :=
  "(" ++ ", ".intercalate (row.map Value.display) ++ ")"

def sorted (rows : List CanonicalRow) : List CanonicalRow :=
  rows.mergeSort rowLe

/-- What is only in the first and what is only in the second of two sorted lists. -/
def difference (left right : List CanonicalRow) : List CanonicalRow × List CanonicalRow :=
  match left, right with
  | [], right => ([], right)
  | left, [] => (left, [])
  | l :: ls, r :: rs =>
    if l = r then difference ls rs
    else if rowLe l r then
      let (onlyLeft, onlyRight) := difference ls (r :: rs)
      (l :: onlyLeft, onlyRight)
    else
      let (onlyLeft, onlyRight) := difference (l :: ls) rs
      (onlyLeft, r :: onlyRight)
termination_by left.length + right.length

/-- Position and rows of the first difference of two lists, up to the end of the shorter. -/
def firstDifference? (index : Nat) :
    List CanonicalRow → List CanonicalRow → Option (Nat × CanonicalRow × CanonicalRow)
  | l :: ls, r :: rs => if l = r then firstDifference? (index + 1) ls rs else some (index, l, r)
  | _, _ => none

def rowCounts (left right : List CanonicalRow) : String :=
  s!"primary returned {left.length} rows, reference returned {right.length} rows"

def describeSequences (left right : List CanonicalRow) : String :=
  "Ordered results differ: " ++ rowCounts left right ++
    match firstDifference? 0 left right with
    | some (index, l, r) =>
      s!"\nFirst difference at row {index}: primary " ++ rowText l ++ " vs reference " ++ rowText r
    | none => ""

/-- Rows listed for one side at most. -/
def listedRows : Nat := 5

/-- The rows that only one side has; nothing if there are none. -/
def describeSide (side : String) (rows : List CanonicalRow) : String :=
  if rows.isEmpty then ""
  else
    "\nOnly in " ++ side ++ ": " ++ " ".intercalate ((rows.take listedRows).map rowText) ++
      if listedRows < rows.length then s!" (+{rows.length - listedRows} more)" else ""

/-- Both lists are sorted. -/
def describeMultisets (left right : List CanonicalRow) : String :=
  let (onlyLeft, onlyRight) := difference left right
  "Result multisets differ: " ++ rowCounts left right ++ describeSide "primary" onlyLeft ++
    describeSide "reference" onlyRight

def describeCounts (left right : List CanonicalRow) : String :=
  "Row counts differ under unordered LIMIT: " ++
    s!"primary returned {left.length}, reference returned {right.length}"

/-- A description of how two results for a query differ, or none if they agree. -/
def compareRows (config : Config) (sql : String) (left right : List Row) : Option String :=
  let left := left.map (canonicalRow config.floatDigits)
  let right := right.map (canonicalRow config.floatDigits)
  let shape := Sql.resultShape sql
  if shape.limited ∧ ¬ shape.ordered ∧ config.unorderedLimit = .compareCounts then
    if left.length = right.length then none else some (describeCounts left right)
  else if shape.ordered then
    if left = right then none else some (describeSequences left right)
  else if sorted left = sorted right then none
  else some (describeMultisets (sorted left) (sorted right))

/-- Missing rows count as no rows. -/
def compare (config : Config) (sql : String) (primary reference : Engine.Outcome) :
    Option String :=
  compareRows config sql (primary.rows.getD []) (reference.rows.getD [])

end Oracle
end QueryFuzz
