import QueryFuzz.Corpus

/-!
# Scheduling

Whether a trial mutates or generates, and which entry of the corpus is mutated. Parents are chosen
uniformly, or in proportion to an energy that fades as the rarest unit of an entry is hit more
often.
-/

namespace QueryFuzz
namespace Scheduling

open Draw

inductive Strategy where
  | mutate
  | generate
  deriving DecidableEq, Repr

/-- The coin is tossed even if the corpus is empty and nothing can be mutated. -/
def chooseStrategy (corpus : Corpus) (mutationProbability : Float) : Sampling Strategy := do
  let mutate ← Sampling.chance "strategy" mutationProbability
  return if mutate && !corpus.entries.isEmpty then .mutate else .generate

inductive Error where
  | corpusEmpty
  | corpus (e : Corpus.Error)
  deriving DecidableEq, Repr

def Error.message : Error → String
  | corpusEmpty => "Corpus is empty, cannot schedule a parent"
  | corpus e => "Corpus interaction failed within scheduler: " ++ e.message

/-- How the parent of a mutation is chosen. -/
inductive Policy where
  | uniform
  /-- By energy, with the exponent of the hits. -/
  | rarity (exponent : Float)

def Policy.name : Policy → String
  | uniform => "uniform"
  | rarity _ => "rarity"

def energy (exponent : Float) (corpus : Corpus) (index : Nat) : Except Error Float :=
  match corpus.rarestHits index with
  | .ok hits => .ok (1.0 / Float.pow hits.toFloat exponent)
  | .error e => .error (.corpus e)

/-- An index with probability in proportion to its energy. Energies may all vanish; then every
index is equally likely. -/
def chooseByEnergy (corpus : Corpus) (energies : List Float) : Sampling Nat := do
  match ← Sampling.weighted "parent" energies with
  | some index => return index
  | none => Sampling.index "parent" corpus.size

/-- The index of the next parent. -/
def next (policy : Policy) (corpus : Corpus) : Sampling (Except Error Nat) :=
  if corpus.entries.isEmpty then return .error .corpusEmpty
  else match policy with
    | .uniform => .ok <$> Sampling.index "parent" corpus.size
    | .rarity exponent =>
      match (List.range corpus.size).mapM (energy exponent corpus) with
      | .error e => return .error e
      | .ok energies => .ok <$> chooseByEnergy corpus energies

end Scheduling
end QueryFuzz
