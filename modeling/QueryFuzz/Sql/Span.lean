/-!
# Runs of positions

A half-open run of positions in a list of tokens.
-/

namespace QueryFuzz
namespace Sql

structure Span where
  start : Nat
  stop : Nat
  deriving DecidableEq, Repr

namespace Span

def length (s : Span) : Nat := s.stop - s.start

def isEmpty (s : Span) : Bool := s.stop ≤ s.start

/-- The items of a list at the positions of the run. -/
def slice {α : Type} (s : Span) (xs : List α) : List α :=
  (xs.take s.stop).drop s.start

/-- The list with the run replaced by other items. -/
def replace {α : Type} (s : Span) (xs replacement : List α) : List α :=
  xs.take s.start ++ replacement ++ xs.drop s.stop

end Span
end Sql
end QueryFuzz
