/-!
# Sets of code points

A Unicode property is stored as the closed intervals it covers. Membership scans the intervals;
only characters beyond the first 128 are ever looked up, so the scan is rare.
-/

namespace QueryFuzz
namespace Text

/-- A set of code points, given by closed intervals. -/
structure CodePointSet where
  intervals : List (Nat × Nat)

namespace CodePointSet

def contains (s : CodePointSet) (c : Char) : Bool :=
  s.intervals.any fun (low, high) => low ≤ c.toNat && c.toNat ≤ high

theorem contains_iff {s : CodePointSet} {c : Char} :
    s.contains c = true ↔ ∃ i ∈ s.intervals, i.1 ≤ c.toNat ∧ c.toNat ≤ i.2 := by
  simp [contains]

end CodePointSet
end Text
end QueryFuzz
