import QueryFuzz.Draw.Sampling

/-!
# Sources of random decisions

A source belongs to one trial. It is identified by the seed of the run and the number of the
trial, and it keeps the trail of decisions that have not yet been handed to a candidate.
-/

namespace QueryFuzz
namespace Draw

structure Source where
  seed : Nat
  stream : Nat
  words : KeyStream
  trail : List Decision

namespace Source

def ofSeed (seed stream : Nat) : Source :=
  ⟨seed, stream, .ofSeed (UInt64.ofNat seed) (UInt64.ofNat stream), []⟩

/-- Runs a random program; its draws join the trail. -/
def sample {α : Type} (s : Source) (program : Sampling α) : α × Source :=
  let out := program.run s.words
  (out.value, { s with words := out.rest, trail := s.trail ++ out.draws })

/-- The same source with an empty trail. -/
def clear (s : Source) : Source :=
  { s with trail := [] }

end Source
end Draw
end QueryFuzz
