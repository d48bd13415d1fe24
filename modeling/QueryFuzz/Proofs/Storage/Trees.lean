import Mathlib.Data.List.Basic
import QueryFuzz.Storage.Disk

/-!
# What is where in a file tree

What is at each location after a node is set, removed or moved, told by what was there before. In a
tree in which everything stands in a directory, nothing is below a location that is free.
-/

namespace QueryFuzz
namespace Storage
namespace Tree

variable {t : Tree} {l m : Location} {n : Node}

/-! ## Looking up -/

@[simp] theorem get?_nil (t : Tree) : t.get? [] = some .directory :=
  rfl

theorem get?_of_ne_nil (h : l ≠ []) : t.get? l = t.nodes.lookup l :=
  if_neg h

theorem ne_nil_of_get?_ne (h : t.get? l ≠ some .directory) : l ≠ [] := by
  rintro rfl
  exact h rfl

theorem ne_nil_of_get?_eq_none (h : t.get? l = none) : l ≠ [] :=
  ne_nil_of_get?_ne (t := t) (by simp [h])

theorem isDirectory_iff : t.isDirectory l ↔ t.get? l = some .directory := by
  rw [isDirectory]
  cases t.get? l with
  | none => simp
  | some n => cases n <;> simp

/-- A filter on the locations hides what is at the others. -/
theorem lookup_filter (p : Location → Bool) (nodes : List (Location × Node)) (m : Location) :
    (nodes.filter fun e => p e.1).lookup m = if p m then nodes.lookup m else none := by
  induction nodes with
  | nil => simp
  | cons e nodes ih =>
    obtain ⟨l, n⟩ := e
    rw [List.filter_cons, List.lookup_cons]
    cases hml : m == l with
    | true =>
      obtain rfl := eq_of_beq hml
      cases hp : p m with
      | true => simp
      | false => simp [ih, hp]
    | false =>
      dsimp only
      rw [← ih]
      split_ifs
      · rw [List.lookup_cons, hml]
      · rfl

theorem get?_set (hl : l ≠ []) (m : Location) :
    (t.set l n).get? m = if m = l then some n else t.get? m := by
  by_cases hm : m = []
  · subst hm
    rw [get?_nil, get?_nil, if_neg (Ne.symm hl)]
  · have hfilter := lookup_filter (fun k => decide (k ≠ l)) t.nodes m
    rw [get?_of_ne_nil hm, get?_of_ne_nil hm, set, List.lookup_cons, hfilter]
    by_cases hml : m = l
    · simp [hml]
    · simp [hml, beq_false_of_ne hml]

theorem get?_remove (hl : l ≠ []) (m : Location) :
    (t.remove l).get? m = if l <+: m then none else t.get? m := by
  by_cases hm : m = []
  · subst hm
    rw [get?_nil, get?_nil, if_neg (by simpa using hl)]
  · have hfilter := lookup_filter (fun k => !l.isPrefixOf k) t.nodes m
    rw [get?_of_ne_nil hm, get?_of_ne_nil hm, remove, hfilter]
    by_cases hlm : l <+: m
    · have hinside : l.isPrefixOf m = true := List.isPrefixOf_iff_prefix.2 hlm
      simp [hlm, hinside]
    · have hinside : l.isPrefixOf m = false := by
        rwa [Bool.eq_false_iff, Ne, List.isPrefixOf_iff_prefix]
      simp [hlm, hinside]

/-! ## Moving -/

theorem relocate_append (source target rest : Location) :
    relocate source target (source ++ rest) = target ++ rest := by
  rw [relocate, if_pos (List.isPrefixOf_iff_prefix.2 (List.prefix_append source rest)),
    List.drop_left]

theorem relocate_of_not_below {source target : Location} (h : ¬ source <+: l) :
    relocate source target l = l := by
  rw [relocate, if_neg (by simpa using h)]

section Move

variable {source target : Location} {nodes : List (Location × Node)}

theorem lookup_map_relocate_append (hfree : ∀ e ∈ nodes, ¬ target <+: e.1) (rest : Location) :
    (nodes.map fun (l, n) => (relocate source target l, n)).lookup (target ++ rest) =
      nodes.lookup (source ++ rest) := by
  induction nodes with
  | nil => rfl
  | cons e nodes ih =>
    obtain ⟨l, n⟩ := e
    obtain ⟨hfirst, hfree⟩ := List.forall_mem_cons.1 hfree
    have hsame : (target ++ rest == relocate source target l) = (source ++ rest == l) := by
      rw [Bool.eq_iff_iff, beq_iff_eq, beq_iff_eq]
      by_cases hinside : source <+: l
      · obtain ⟨more, rfl⟩ := hinside
        rw [relocate_append, List.append_right_inj, List.append_right_inj]
      · rw [relocate_of_not_below hinside]
        constructor
        · rintro rfl
          exact absurd (List.prefix_append target rest) hfirst
        · rintro rfl
          exact absurd (List.prefix_append source rest) hinside
    rw [List.map_cons, List.lookup_cons, List.lookup_cons, hsame, ih hfree]

theorem lookup_map_relocate_of_not_below (hm : ¬ target <+: m) :
    (nodes.map fun (l, n) => (relocate source target l, n)).lookup m =
      if source <+: m then none else nodes.lookup m := by
  induction nodes with
  | nil => simp
  | cons e nodes ih =>
    obtain ⟨l, n⟩ := e
    rw [List.map_cons, List.lookup_cons, List.lookup_cons, ih]
    by_cases hinside : source <+: l
    · obtain ⟨more, rfl⟩ := hinside
      have hne : (m == target ++ more) = false := by
        rw [beq_eq_false_iff_ne]
        rintro rfl
        exact hm (List.prefix_append target more)
      rw [relocate_append, hne]
      by_cases hsource : source <+: m
      · rw [if_pos hsource, if_pos hsource]
      · have hne' : (m == source ++ more) = false := by
          rw [beq_eq_false_iff_ne]
          rintro rfl
          exact hsource (List.prefix_append source more)
        rw [hne']
    · rw [relocate_of_not_below hinside]
      cases hml : m == l with
      | true =>
        obtain rfl := eq_of_beq hml
        exact (if_neg hinside).symm
      | false => rfl

/-- Everything at and below the source is at and below the target, if that was free. -/
theorem get?_move (hsource : source ≠ []) (htarget : target ≠ [])
    (hfree : ∀ rest, t.get? (target ++ rest) = none) (m : Location) :
    (t.move source target).get? m =
      if target <+: m then t.get? (source ++ m.drop target.length)
      else if source <+: m then none else t.get? m := by
  have hnodes : ∀ e ∈ t.nodes, ¬ target <+: e.1 := by
    rintro ⟨l, n⟩ he ⟨rest, rfl⟩
    have hnone := hfree rest
    rw [get?_of_ne_nil (by simp [htarget]), List.lookup_eq_none_iff] at hnone
    simpa using hnone _ he
  by_cases hm : target <+: m
  · obtain ⟨rest, rfl⟩ := hm
    rw [if_pos (List.prefix_append target rest), List.drop_left, get?_of_ne_nil (by simp [htarget]),
      get?_of_ne_nil (by simp [hsource])]
    exact lookup_map_relocate_append hnodes rest
  · rw [if_neg hm]
    by_cases hnil : m = []
    · subst hnil
      rw [get?_nil, get?_nil, if_neg (by simpa using hsource)]
    · rw [get?_of_ne_nil hnil, get?_of_ne_nil hnil]
      exact lookup_map_relocate_of_not_below hm

end Move

/-! ## Names -/

theorem mem_names_iff {name : String} :
    name ∈ t.names l ↔ (t.get? (l ++ [name])).isSome := by
  have hne : l ++ [name] ≠ [] := by simp
  have hnode (m : Location) :
      (if m.dropLast = l then m.getLast? else none) = some name ↔ m = l ++ [name] := by
    constructor
    · intro h
      split_ifs at h with hfront
      rw [← hfront, List.dropLast_append_getLast? name h]
    · rintro rfl
      simp
  rw [get?_of_ne_nil hne, Option.isSome_iff_ne_none, Ne, List.lookup_eq_none_iff, names,
    List.mem_filterMap]
  constructor
  · rintro ⟨⟨m, n⟩, hmem, hname⟩ hnone
    have hbne := hnone _ hmem
    rw [(hnode m).1 hname] at hbne
    simp at hbne
  · intro h
    by_contra hnone
    apply h
    rintro ⟨m, n⟩ hmem
    rw [bne_iff_ne]
    intro heq
    exact hnone ⟨(m, n), hmem, (hnode m).2 heq.symm⟩

/-- What is free in a tree was free in one of which nothing was lost. -/
theorem get?_eq_none_of_kept {t' : Tree} (hkept : ∀ n, t.get? l = some n → t'.get? l = some n)
    (h : t'.get? l = none) : t.get? l = none := by
  cases hget : t.get? l with
  | none => rfl
  | some n =>
    rw [hkept n hget] at h
    cases h

end Tree

/-- The longest of several names is no longer than what their lengths come to. -/
theorem le_foldl_max {lengths : List ℕ} {start k : ℕ} (h : k ≤ start ∨ k ∈ lengths) :
    k ≤ lengths.foldl max start := by
  induction lengths generalizing start with
  | nil => simpa using h
  | cons length lengths ih =>
    rw [List.foldl_cons]
    apply ih
    rcases h with h | h
    · exact .inl (Nat.le_trans h (Nat.le_max_left _ _))
    · rcases List.mem_cons.1 h with rfl | h
      · exact .inl (Nat.le_max_right _ _)
      · exact .inr h

theorem Disk.freshName_notMem (start : String) (names : List String) :
    Disk.freshName start names ∉ names := by
  intro hmem
  have hle : (Disk.freshName start names).length ≤ (names.map String.length).foldl max 0 :=
    le_foldl_max (.inr (List.mem_map_of_mem hmem))
  rw [Disk.freshName, String.length_append, String.length_ofList, List.length_replicate] at hle
  omega

namespace Tree

variable {t : Tree} {l m : Location} {n : Node}

/-! ## Trees in which everything stands in a directory -/

/-- Whatever is in the tree is directly below a directory. -/
def IsRooted (t : Tree) : Prop :=
  ∀ l name n, t.get? (l ++ [name]) = some n → t.get? l = some .directory

/-- Nothing is below what is no directory. -/
theorem IsRooted.get?_append (h : t.IsRooted) (hl : t.get? l ≠ some .directory) {rest : Location}
    (hrest : rest ≠ []) : t.get? (l ++ rest) = none := by
  induction rest generalizing l with
  | nil => exact absurd rfl hrest
  | cons name rest ih =>
    have hnone : t.get? (l ++ [name]) = none := by
      cases hget : t.get? (l ++ [name]) with
      | none => rfl
      | some n => exact absurd (h l name n hget) hl
    cases rest with
    | nil => exact hnone
    | cons next rest =>
      rw [List.append_cons]
      apply ih
      · simp [hnone]
      · exact List.cons_ne_nil next rest

theorem IsRooted.get?_append_of_none (h : t.IsRooted) (hl : t.get? l = none) (rest : Location) :
    t.get? (l ++ rest) = none := by
  cases rest with
  | nil => rwa [List.append_nil]
  | cons name rest => exact h.get?_append (by simp [hl]) (List.cons_ne_nil name rest)

theorem isRooted_iff : t.IsRooted ↔ ∀ e ∈ t.nodes, t.isDirectory e.1.dropLast := by
  constructor
  · rintro h ⟨l, n⟩ hmem
    rw [isDirectory_iff]
    rcases List.eq_nil_or_concat l with rfl | ⟨front, name, rfl⟩
    · rfl
    · have hget : t.get? (front ++ [name]) ≠ none := by
        rw [get?_of_ne_nil (by simp), Ne, List.lookup_eq_none_iff]
        intro hne
        simpa using hne _ hmem
      obtain ⟨found, hfound⟩ := Option.ne_none_iff_exists'.1 hget
      rw [List.concat_eq_append, List.dropLast_concat]
      exact h front name found hfound
  · intro h l name n hget
    rw [get?_of_ne_nil (by simp)] at hget
    obtain ⟨before, after, hnodes, -⟩ := List.lookup_eq_some_iff.1 hget
    have hdirectory := h (l ++ [name], n) (by simp [hnodes])
    rwa [List.dropLast_concat, isDirectory_iff] at hdirectory

instance : Decidable t.IsRooted :=
  decidable_of_iff _ isRooted_iff.symm

theorem IsRooted.congr {t' : Tree} (h : t.IsRooted) (hsame : ∀ l, t'.get? l = t.get? l) :
    t'.IsRooted := by
  intro l name n hget
  rw [hsame] at hget ⊢
  exact h l name n hget

end Tree
end Storage
end QueryFuzz
