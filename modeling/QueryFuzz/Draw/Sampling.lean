import QueryFuzz.Draw.Question

/-!
# Random programs

A random program is a tree: it is done with a value, or it asks a labelled question and goes on
with the answer. Nothing else can reach chance, so two runs that got the same answers to the same
questions have the same value. `run` takes the answers from a key stream and lists them.
-/

namespace QueryFuzz
namespace Draw

inductive Sampling (α : Type) where
  | done (value : α)
  | ask (label : String) (question : Question) (next : Nat → Sampling α)

/-- One recorded decision: what it was for, and its answer. -/
structure Decision where
  label : String
  value : Nat
  deriving DecidableEq, Repr

namespace Sampling

variable {α β : Type}

protected def bind : Sampling α → (α → Sampling β) → Sampling β
  | done a, f => f a
  | ask label q next, f => ask label q fun answer => (next answer).bind f

instance : Monad Sampling where
  pure := done
  bind := Sampling.bind

/-- An index below the bound. -/
def index (label : String) (bound : Nat) : Sampling Nat :=
  ask label (.below bound) done

/-- A number between the two, ends included, whichever comes first. -/
def between (label : String) (low high : Int) : Sampling Int :=
  ask label (if low ≤ high then .between low high else .between high low) fun code =>
    done (signedOf code)

def chance (label : String) (probability : Float) : Sampling Bool :=
  ask label (.chance probability) fun code => done (code != 0)

def unit (label : String) : Sampling Float :=
  ask label .unit fun code => done (Float.ofBits (UInt64.ofNat code))

/-- One of the items; an empty list asks nothing. -/
def choose (label : String) (items : List α) : Sampling (Option α) :=
  if items.isEmpty then done none
  else ask label (.below items.length) fun index => done items[index]?

/-- An index in proportion to its weight; without a positive weight nothing is asked. -/
def weighted (label : String) (weights : List Float) : Sampling (Option Nat) :=
  if totalWeight weights ≤ 0.0 then done none
  else ask label (.weighted weights) fun index => done (some index)

/-- What a random program yields on a key stream. -/
structure Outcome (α : Type) where
  value : α
  draws : List Decision
  rest : KeyStream

def run (s : KeyStream) : Sampling α → Outcome α
  | done a => ⟨a, [], s⟩
  | ask label q next =>
    let (answer, s) := q.answer s
    let more := run s (next answer)
    { more with draws := ⟨label, answer⟩ :: more.draws }

end Sampling
end Draw
end QueryFuzz
