/-!
# Tallies

How often each of some names was counted. A tally is kept as a list that ascends strictly by name,
so tallies with the same counts are equal and are listed in one order.
-/

namespace QueryFuzz
namespace Run

/-- Adds to the count of a name in an ascending list. -/
def addCount (name : String) (n : Nat) : List (String × Nat) → List (String × Nat)
  | [] => [(name, n)]
  | (x, k) :: rest =>
    if name < x then (name, n) :: (x, k) :: rest
    else if name = x then (x, k + n) :: rest
    else (x, k) :: addCount name n rest

theorem key_mem_addCount {name x : String} {n : Nat} {xs : List (String × Nat)} :
    x ∈ (addCount name n xs).map Prod.fst ↔ x = name ∨ x ∈ xs.map Prod.fst := by
  induction xs with
  | nil => simp [addCount]
  | cons y rest ih =>
    obtain ⟨y, k⟩ := y
    simp only [addCount]
    split
    · simp
    · split
      · rename_i h
        subst h
        simp
      · rw [List.map_cons, List.mem_cons, ih, List.map_cons, List.mem_cons, or_left_comm]

theorem pairwise_addCount {name : String} {n : Nat} {xs : List (String × Nat)}
    (h : (xs.map Prod.fst).Pairwise (· < ·)) :
    ((addCount name n xs).map Prod.fst).Pairwise (· < ·) := by
  induction xs with
  | nil => simp [addCount]
  | cons y rest ih =>
    obtain ⟨y, k⟩ := y
    rw [List.map_cons, List.pairwise_cons] at h
    obtain ⟨hy, hrest⟩ := h
    simp only [addCount]
    split
    · rename_i hlt
      refine List.pairwise_cons.2 ⟨fun z hz => ?_, List.pairwise_cons.2 ⟨hy, hrest⟩⟩
      rcases List.mem_cons.1 hz with rfl | hz
      · exact hlt
      · exact String.lt_trans hlt (hy z hz)
    · split
      · exact List.pairwise_cons.2 ⟨hy, hrest⟩
      · rename_i hlt hne
        refine List.pairwise_cons.2 ⟨fun z hz => ?_, ih hrest⟩
        rcases key_mem_addCount.1 hz with rfl | hz
        · have hle : y ≤ z := String.not_lt.1 hlt
          exact Classical.byContradiction fun hn =>
            hne (String.le_antisymm (String.not_lt.1 hn) hle)
        · exact hy z hz

structure Tally where
  entries : List (String × Nat)
  ascending : (entries.map Prod.fst).Pairwise (· < ·)
  deriving DecidableEq

namespace Tally

theorem pairwise_keys_nil : (([] : List (String × Nat)).map Prod.fst).Pairwise (· < ·) :=
  List.Pairwise.nil

def empty : Tally := ⟨[], pairwise_keys_nil⟩

instance : Inhabited Tally := ⟨empty⟩

def add (t : Tally) (name : String) (n : Nat) : Tally :=
  ⟨addCount name n t.entries, pairwise_addCount t.ascending⟩

/-- The count of a name; a name that was never counted has none. -/
def get (t : Tally) (name : String) : Nat :=
  (t.entries.lookup name).getD 0

/-- The counts of both. -/
def merge (t u : Tally) : Tally :=
  u.entries.foldl (fun t e => t.add e.1 e.2) t

def ofList (entries : List (String × Nat)) : Tally :=
  entries.foldl (fun t e => t.add e.1 e.2) empty

def total (t : Tally) : Nat := t.entries.foldl (fun n e => n + e.2) 0

end Tally
end Run
end QueryFuzz
