import QueryFuzz.Mutation.Operator

/-!
# Mutating a candidate

The number of changes is drawn first. Each change draws a statement of the query, an operator that
applies to it and a site. The names of the operators that took effect are kept with the result.
-/

namespace QueryFuzz
namespace Mutation

open Sql Draw

structure Config where
  least : Nat
  most : Nat
  boundaryProbability : Float

def Config.standard : Config := ⟨1, 3, 0.3⟩

/-- A query under mutation: the tokens of its statements and the operators that took effect. -/
structure Draft where
  statements : List (List Token)
  operators : List String
  deriving DecidableEq

def Draft.text (d : Draft) : String :=
  "; ".intercalate (d.statements.map render)

/-- One change of one statement; it may come to nothing. -/
def change (m : Material) (d : Draft) : Sampling Draft := do
  let which ← Sampling.index "mutation.statement" d.statements.length
  match Statement.ofTokens (d.statements.getD which []) with
  | .error _ => return d
  | .ok s =>
    match ← Sampling.choose "mutation.operator-choice" (Operator.all.filter (·.applies m s)) with
    | none => return d
    | some op =>
      match ← op.transform m s with
      | none => return d
      | some tokens => return ⟨d.statements.set which tokens, d.operators ++ [op.name]⟩

def changes (m : Material) (d : Draft) : Nat → Sampling Draft
  | 0 => return d
  | n + 1 => do changes m (← change m d) n

/-- The bounds of the number of changes. A number beyond the signed words stands for a negative
one, so the bounds need not be in order. -/
def Config.bounds (c : Config) : Int × Int :=
  (signedOf (max c.least 1), signedOf (max (max c.most c.least) 1))

/-- Mutates a query text; none if it does not parse or nothing took effect. -/
def mutateText (c : Config) (schema : Schema) (donors : List String) (sql : String) :
    Sampling (Option Draft) :=
  match parseScript sql with
  | .error _ => return none
  | .ok statements => do
    let (low, high) := c.bounds
    let count ← Sampling.between "mutation.count" low high
    let d ← changes ⟨schema, donors, c.boundaryProbability⟩ ⟨statements.map (·.tokens), []⟩
      count.toNat
    return if d.operators.isEmpty then none else some d

/-- Mutates a corpus entry. Without a result the draws stay with the source. -/
def mutate (c : Config) (parent : Candidate) (parentId : Nat) (schema : Schema)
    (donors : List String) (source : Source) : Option Candidate × Source :=
  match source.sample (mutateText c schema donors parent.sql) with
  | (none, source) => (none, source)
  | (some d, source) =>
    let (candidate, source) := Candidate.mutated d.text parent parentId d.operators source
    (some candidate, source)

end Mutation
end QueryFuzz
