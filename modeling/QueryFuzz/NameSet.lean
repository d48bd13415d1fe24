/-!
# Sets of names

Grammar rules and coverage units are sets of names. A set is kept as a strictly ascending list,
so sets with the same members are equal and are listed in one order.
-/

namespace QueryFuzz

/-- Inserts a name into an ascending list, unless it is there already. -/
def insertName (name : String) : List String → List String
  | [] => [name]
  | x :: rest =>
    if name < x then name :: x :: rest
    else if name = x then x :: rest
    else x :: insertName name rest

theorem mem_insertName {name x : String} {xs : List String} :
    x ∈ insertName name xs ↔ x = name ∨ x ∈ xs := by
  induction xs with
  | nil => simp [insertName]
  | cons y rest ih =>
    simp only [insertName]
    split
    · simp
    · split
      · rename_i h
        subst h
        simp
      · simp [ih, or_left_comm]

theorem pairwise_insertName {name : String} {xs : List String} (h : xs.Pairwise (· < ·)) :
    (insertName name xs).Pairwise (· < ·) := by
  induction xs with
  | nil => simp [insertName]
  | cons y rest ih =>
    obtain ⟨hy, hrest⟩ := List.pairwise_cons.1 h
    simp only [insertName]
    split
    · rename_i hlt
      refine List.pairwise_cons.2 ⟨fun z hz => ?_, h⟩
      rcases List.mem_cons.1 hz with rfl | hz
      · exact hlt
      · exact String.lt_trans hlt (hy z hz)
    · split
      · exact h
      · rename_i hlt hne
        refine List.pairwise_cons.2 ⟨fun z hz => ?_, ih hrest⟩
        rcases mem_insertName.1 hz with rfl | hz
        · have hle : y ≤ z := String.not_lt.1 hlt
          exact Classical.byContradiction fun hn =>
            hne (String.le_antisymm (String.not_lt.1 hn) hle)
        · exact hy z hz

/-- A finite set of names. -/
structure NameSet where
  toList : List String
  ascending : toList.Pairwise (· < ·)
  deriving DecidableEq

namespace NameSet

instance : Membership String NameSet := ⟨fun s x => x ∈ s.toList⟩

theorem mem_def {s : NameSet} {x : String} : x ∈ s ↔ x ∈ s.toList := Iff.rfl

def empty : NameSet := ⟨[], List.Pairwise.nil⟩

instance : Inhabited NameSet := ⟨empty⟩

def contains (s : NameSet) (name : String) : Bool := s.toList.contains name

def insert (s : NameSet) (name : String) : NameSet :=
  ⟨insertName name s.toList, pairwise_insertName s.ascending⟩

/-- The set with all names of a list added. -/
def insertAll (s : NameSet) (names : List String) : NameSet :=
  names.foldl insert s

def union (s t : NameSet) : NameSet := s.insertAll t.toList

def ofList (names : List String) : NameSet := empty.insertAll names

def size (s : NameSet) : Nat := s.toList.length

def isEmpty (s : NameSet) : Bool := s.toList.isEmpty

@[simp] theorem contains_iff {s : NameSet} {x : String} : s.contains x = true ↔ x ∈ s := by
  simp [contains, mem_def]

@[simp] theorem not_mem_empty {x : String} : ¬ x ∈ empty := by
  simp [mem_def, empty]

@[simp] theorem mem_insert {s : NameSet} {name x : String} :
    x ∈ s.insert name ↔ x = name ∨ x ∈ s :=
  mem_insertName

@[simp] theorem mem_insertAll {s : NameSet} {names : List String} {x : String} :
    x ∈ s.insertAll names ↔ x ∈ s ∨ x ∈ names := by
  induction names generalizing s with
  | nil => simp [insertAll]
  | cons y rest ih =>
    have h : s.insertAll (y :: rest) = (s.insert y).insertAll rest := rfl
    rw [h, ih]
    simp only [mem_insert, List.mem_cons, or_assoc, or_left_comm]

@[simp] theorem mem_union {s t : NameSet} {x : String} : x ∈ s.union t ↔ x ∈ s ∨ x ∈ t :=
  mem_insertAll

@[simp] theorem mem_ofList {names : List String} {x : String} : x ∈ ofList names ↔ x ∈ names := by
  simp [ofList]

end NameSet
end QueryFuzz
