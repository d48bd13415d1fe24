import Mathlib.Data.List.Count
import QueryFuzz.Proofs.Oracle.Agreement

/-!
# How two results differ

The rows that only one of two sorted results has are the difference of multisets: a row that both
have is left over as often as one has it more often than the other. Sorting is what makes this
right, since the lesser of two first rows cannot come later in the other list. The description lists
the first of these rows on each side, and says how many it leaves out.
-/

namespace QueryFuzz
namespace Oracle

variable {left right rows : List CanonicalRow}

/-! ## The rows that only one side has -/

/-- Each row is at most as great as all behind it. -/
def Ascending (rows : List CanonicalRow) : Prop :=
  rows.Pairwise fun a b => rowLe a b

instance (rows : List CanonicalRow) : Decidable (Ascending rows) :=
  inferInstanceAs (Decidable (rows.Pairwise _))

/-- The lesser of two first rows does not come later in the other list. -/
theorem Ascending.notMem {l r : CanonicalRow} (h : Ascending (r :: rows)) (hle : rowLe l r)
    (hne : l ≠ r) : l ∉ r :: rows := by
  intro hmem
  rcases List.mem_cons.1 hmem with heq | hmem
  · exact hne heq
  · exact hne (rowLe_antisymm hle ((List.pairwise_cons.1 h).1 l hmem))

/-- Of sorted lists the merge leaves what removing the rows of the other list one by one leaves. -/
theorem difference_eq (hleft : Ascending left) (hright : Ascending right) :
    difference left right = (left.diff right, right.diff left) := by
  induction left, right using difference.induct with
  | case1 right => rw [difference, List.nil_diff, List.diff_nil]
  | case2 left hne =>
    rw [difference, List.nil_diff, List.diff_nil]
    exact hne
  | case3 r ls rs ih =>
    rw [difference, if_pos rfl, ih (List.pairwise_cons.1 hleft).2 (List.pairwise_cons.1 hright).2,
      List.diff_cons, List.diff_cons, List.erase_cons_head, List.erase_cons_head]
  | case4 l ls r rs hne hle _ _ _ ih =>
    -- The first row on the left is nowhere on the right, so there is nothing to remove it from.
    have hnotMem : l ∉ r :: rs := hright.notMem hle hne
    rw [difference, if_neg hne, if_pos hle, ih (List.pairwise_cons.1 hleft).2 hright,
      List.cons_diff_of_not_mem hnotMem, List.diff_cons _ ls, List.erase_of_not_mem hnotMem]
  | case5 l ls r rs hne hle _ _ _ ih =>
    have hnotMem : r ∉ l :: ls :=
      hleft.notMem ((rowLe_total l r).resolve_left hle) (Ne.symm hne)
    rw [difference, if_neg hne, if_neg hle, ih hleft (List.pairwise_cons.1 hright).2,
      List.cons_diff_of_not_mem hnotMem, List.diff_cons _ rs, List.erase_of_not_mem hnotMem]

theorem Ascending.diff (h : Ascending left) (right : List CanonicalRow) :
    Ascending (left.diff right) :=
  h.sublist (List.diff_sublist left right)

/-- A row is left over on one side at most. -/
theorem disjoint_diff (left right : List CanonicalRow) :
    (left.diff right).Disjoint (right.diff left) := by
  intro row hleft hright
  have hleft := List.count_pos_iff.2 hleft
  have hright := List.count_pos_iff.2 hright
  rw [List.count_diff] at hleft hright
  omega

/-- If no row is left over on either side, sorted lists are equal. -/
theorem eq_of_diff_eq_nil (hleft : Ascending left) (hright : Ascending right)
    (hnoLeft : left.diff right = []) (hnoRight : right.diff left = []) : left = right := by
  have hperm : left.Perm right := by
    rw [List.perm_iff_count]
    intro row
    have hmore := List.count_diff row left right
    have hless := List.count_diff row right left
    rw [hnoLeft, List.count_nil] at hmore
    rw [hnoRight, List.count_nil] at hless
    omega
  exact hperm.eq_of_pairwise (fun _ _ _ _ => rowLe_antisymm) hleft hright

/-! ## The description -/

/-- What is said of the rows that only one side has: nothing of no rows, each row of up to five, and
of more the first five and how many there are besides. -/
inductive Lists (side : String) : List CanonicalRow → String → Prop
  | nothing : Lists side [] ""
  | every {rows : List CanonicalRow} (hne : rows ≠ []) (hfew : rows.length ≤ 5) :
      Lists side rows ("\nOnly in " ++ side ++ ": " ++ " ".intercalate (rows.map rowText))
  | first {shown more : List CanonicalRow} (hshown : shown.length = 5) (hmore : more ≠ []) :
      Lists side (shown ++ more) ("\nOnly in " ++ side ++ ": " ++
        " ".intercalate (shown.map rowText) ++ s!" (+{more.length} more)")

theorem lists_describeSide (side : String) (rows : List CanonicalRow) :
    Lists side rows (describeSide side rows) := by
  unfold describeSide listedRows
  by_cases hne : rows = []
  · subst hne
    exact .nothing
  rw [if_neg (by simpa using hne)]
  by_cases hfew : rows.length ≤ 5
  · rw [List.take_of_length_le hfew, if_neg (by omega), String.append_empty]
    exact .every hne hfew
  · have hshown : (rows.take 5).length = 5 := by
      rw [List.length_take]
      omega
    have hmore : rows.drop 5 ≠ [] := by
      rw [Ne, List.drop_eq_nil_iff]
      exact hfew
    have hlists : Lists side _ _ := .first hshown hmore
    rw [List.take_append_drop, List.length_drop] at hlists
    rw [if_pos (by omega)]
    exact hlists

theorem describeMultisets_eq (left right : List CanonicalRow) :
    describeMultisets left right = "Result multisets differ: " ++ rowCounts left right ++
      describeSide "primary" (difference left right).1 ++
      describeSide "reference" (difference left right).2 :=
  rfl

/-- The description of two sorted results goes by their difference as multisets, in which no row is
on both sides and which is empty only if they are equal. -/
theorem describes_multiset_difference (hleft : Ascending left) (hright : Ascending right) :
    let (onlyLeft, onlyRight) := difference left right
    (Ascending onlyLeft ∧ ∀ row, onlyLeft.count row = left.count row - right.count row) ∧
    (Ascending onlyRight ∧ ∀ row, onlyRight.count row = right.count row - left.count row) ∧
    onlyLeft.Disjoint onlyRight ∧
    (left ≠ right → onlyLeft ≠ [] ∨ onlyRight ≠ []) ∧
    ∃ ofLeft ofRight, Lists "primary" onlyLeft ofLeft ∧ Lists "reference" onlyRight ofRight ∧
      describeMultisets left right =
        "Result multisets differ: " ++ rowCounts left right ++ ofLeft ++ ofRight := by
  rw [describeMultisets_eq, difference_eq hleft hright]
  refine ⟨⟨hleft.diff right, fun row => List.count_diff row left right⟩,
    ⟨hright.diff left, fun row => List.count_diff row right left⟩, disjoint_diff left right, ?_,
    _, _, lists_describeSide _ _, lists_describeSide _ _, rfl⟩
  intro hne
  by_contra hnone
  obtain ⟨hnoLeft, hnoRight⟩ := not_or.1 hnone
  exact hne (eq_of_diff_eq_nil hleft hright (not_not.1 hnoLeft) (not_not.1 hnoRight))

/-- A row that both sides have is listed as often as one side has it more often, and the last of six
rows is only counted. -/
theorem describes_multiset_difference_repeated :
    let row (n : ℤ) : CanonicalRow := [.integer n]
    let left := [1, 1, 1, 2, 3, 4, 5, 6].map row
    let right := [1, 2, 2].map row
    Ascending left ∧ Ascending right ∧
      (difference left right).1.count (row 1) = 2 ∧ (difference left right).2.count (row 2) = 1 ∧
      describeMultisets left right =
        "Result multisets differ: primary returned 8 rows, reference returned 3 rows" ++
          "\nOnly in primary: (1) (1) (3) (4) (5) (+1 more)" ++ "\nOnly in reference: (2)" := by
  intro row left right
  have hleft : Ascending left := by decide
  have hright : Ascending right := by decide
  obtain ⟨⟨-, hmore⟩, ⟨-, hless⟩, -⟩ := describes_multiset_difference hleft hright
  exact ⟨hleft, hright, hmore (row 1), hless (row 2), by decide +kernel⟩

end Oracle
end QueryFuzz
