import QueryFuzz.Draw.Source
import QueryFuzz.NameSet

/-!
# Candidates

A candidate is the text of a query together with the database it is meant for, the grammar rules
it exercises and the account of how it came about. Every way to make one takes the pending draws
of a source, so that the account is complete and no draw is told twice.
-/

namespace QueryFuzz

open Draw

inductive Origin where
  | generated
  | mutated
  /-- Read from a file of queries. -/
  | seed
  /-- Made smaller from a failing candidate. -/
  | reduced
  deriving DecidableEq, Repr

def Origin.name : Origin → String
  | generated => "generated"
  | mutated => "mutated"
  | seed => "seed"
  | reduced => "reduced"

structure Candidate where
  sql : String
  /-- Position among the configured databases. -/
  database : Nat
  rules : NameSet
  origin : Origin
  /-- Corpus entry that was mutated. -/
  parent : Option Nat
  /-- Names of the mutation operators, in the order they were applied. -/
  operators : List String
  seed : Nat
  stream : Nat
  draws : List Decision
  deriving DecidableEq

namespace Candidate

/-- A candidate that takes the trail of a source with it. -/
def take (sql : String) (database : Nat) (rules : NameSet) (origin : Origin)
    (parent : Option Nat) (operators : List String) (s : Source) : Candidate × Source :=
  (⟨sql, database, rules, origin, parent, operators, s.seed, s.stream, s.trail⟩, s.clear)

def generated (sql : String) (database : Nat) (rules : NameSet) (s : Source) :
    Candidate × Source :=
  take sql database rules .generated none [] s

/-- A mutation of a corpus entry keeps the rules and the database of its parent. -/
def mutated (sql : String) (parent : Candidate) (parentId : Nat) (operators : List String)
    (s : Source) : Candidate × Source :=
  take sql parent.database parent.rules .mutated (some parentId) operators s

def ofSeed (sql : String) (database : Nat) (s : Source) : Candidate × Source :=
  take sql database .empty .seed none [] s

/-- The candidate with a smaller query in its place, which no draws account for. -/
def reduced (c : Candidate) (sql : String) : Candidate :=
  { c with sql := sql, origin := .reduced, draws := [] }

end Candidate
end QueryFuzz
