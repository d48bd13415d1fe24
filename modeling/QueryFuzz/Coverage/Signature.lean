import QueryFuzz.Coverage.Digest
import QueryFuzz.NameSet

/-!
# Coverage signatures

What one execution covered, as a set of units, and the grammar rules of the query that was run. A
trace of units counts either unit by unit, or as one unit that stands for the whole path.
-/

namespace QueryFuzz
namespace Coverage

inductive Granularity where
  /-- Each distinct unit of the trace counts. -/
  | statement
  /-- The trace counts as a whole. -/
  | path
  deriving DecidableEq, Repr

structure Signature where
  units : NameSet
  rules : NameSet
  deriving DecidableEq

/-- Drops each item that equals the one before it. -/
def collapse : List String → List String
  | [] => []
  | [x] => [x]
  | x :: y :: rest => if x = y then collapse (y :: rest) else x :: collapse (y :: rest)

/-- The one unit that names a path. Repetition of a unit does not make a new path, so a loop
counts the same however often it runs. -/
def pathUnit (trace : List String) : String :=
  "path:" ++ digest ("\n".intercalate (collapse trace))

namespace Signature

def empty : Signature := ⟨.empty, .empty⟩

def ofUnits (units : List String) : Signature := ⟨.ofList units, .empty⟩

def ofTrace (granularity : Granularity) (trace : List String) : Signature :=
  match granularity with
  | .statement => ofUnits trace
  | .path => if trace.isEmpty then empty else ofUnits [pathUnit trace]

def withRules (s : Signature) (rules : NameSet) : Signature :=
  { s with rules := s.rules.union rules }

end Signature
end Coverage
end QueryFuzz
