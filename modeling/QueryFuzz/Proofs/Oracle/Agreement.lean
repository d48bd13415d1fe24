import Mathlib.Data.List.Sort
import QueryFuzz.Oracle.Verdict

/-!
# When two results agree

Sorting brings two lists of rows to the same form exactly if they hold the same rows equally often,
because the order of rows is total and leaves no two rows tied. So the comparison of results
decides, by the shape of the query, between equal numbers of rows, equal lists and permutations,
and for a fixed query agreement is an equivalence.
-/

namespace QueryFuzz
namespace Oracle

open Engine (Outcome Row)

/-! ## The order of values -/

namespace Value

theorem le_total (v w : Value) : v.le w ∨ w.le v := by
  cases v with
  | integer m => cases w with
    | integer n => simpa [Value.le] using Int.le_total m n
    | _ => simp [Value.le, rank]
  | real s => cases w with
    | real t => simpa [Value.le] using String.le_total s t
    | _ => simp [Value.le, rank]
  | text s => cases w with
    | text t => simpa [Value.le] using String.le_total s t
    | _ => simp [Value.le, rank]
  | null => simp [Value.le, rank]

/-- Values of different sorts are ordered by the sort alone. -/
theorem rank_le_of_le {v w : Value} (h : v.le w) : v.rank ≤ w.rank := by
  cases v <;> cases w <;> simp_all [Value.le, rank]

theorem le_of_rank_lt {v w : Value} (h : v.rank < w.rank) : v.le w := by
  cases v <;> cases w <;> simp_all [Value.le, rank]

theorem le_antisymm {v w : Value} (hvw : v.le w) (hwv : w.le v) : v = w := by
  have hrank : v.rank = w.rank := by
    have := rank_le_of_le hvw
    have := rank_le_of_le hwv
    omega
  cases v with
  | null => cases w <;> simp_all [rank]
  | integer m => cases w with
    | integer n =>
      have hmn : m ≤ n := by simpa [Value.le] using hvw
      have hnm : n ≤ m := by simpa [Value.le] using hwv
      rw [Int.le_antisymm hmn hnm]
    | _ => simp [rank] at hrank
  | real s => cases w with
    | real t =>
      have hst : s ≤ t := by simpa [Value.le] using hvw
      have hts : t ≤ s := by simpa [Value.le] using hwv
      rw [String.le_antisymm hst hts]
    | _ => simp [rank] at hrank
  | text s => cases w with
    | text t =>
      have hst : s ≤ t := by simpa [Value.le] using hvw
      have hts : t ≤ s := by simpa [Value.le] using hwv
      rw [String.le_antisymm hst hts]
    | _ => simp [rank] at hrank

theorem le_trans {u v w : Value} (huv : u.le v) (hvw : v.le w) : u.le w := by
  have hu := rank_le_of_le huv
  have hw := rank_le_of_le hvw
  by_cases hlt : u.rank < w.rank
  · exact le_of_rank_lt hlt
  · -- All three values are of one sort.
    have huv' : u.rank = v.rank := by omega
    have hvw' : v.rank = w.rank := by omega
    cases u <;> cases v <;> simp [rank] at huv' <;> cases w <;> simp [rank] at hvw'
    · rfl
    · simp only [Value.le, decide_eq_true_eq] at huv hvw ⊢
      exact Int.le_trans huv hvw
    · simp only [Value.le, decide_eq_true_eq] at huv hvw ⊢
      exact String.le_trans huv hvw
    · simp only [Value.le, decide_eq_true_eq] at huv hvw ⊢
      exact String.le_trans huv hvw

end Value

/-! ## The order of rows -/

theorem rowLe_cons_self (v : Value) (a b : CanonicalRow) : rowLe (v :: a) (v :: b) = rowLe a b := by
  rw [rowLe, if_pos rfl]

theorem rowLe_cons_of_ne {v w : Value} (h : v ≠ w) (a b : CanonicalRow) :
    rowLe (v :: a) (w :: b) = v.le w := by
  rw [rowLe, if_neg h]

theorem rowLe_total (a b : CanonicalRow) : rowLe a b ∨ rowLe b a := by
  induction a generalizing b with
  | nil => exact .inl rfl
  | cons v a ih =>
    cases b with
    | nil => exact .inr rfl
    | cons w b =>
      by_cases hvw : v = w
      · subst hvw
        rw [rowLe_cons_self, rowLe_cons_self]
        exact ih b
      · rw [rowLe_cons_of_ne hvw, rowLe_cons_of_ne (Ne.symm hvw)]
        exact Value.le_total v w

theorem rowLe_antisymm {a b : CanonicalRow} (hab : rowLe a b) (hba : rowLe b a) : a = b := by
  induction a generalizing b with
  | nil =>
    cases b with
    | nil => rfl
    | cons w b => simp [rowLe] at hba
  | cons v a ih =>
    cases b with
    | nil => simp [rowLe] at hab
    | cons w b =>
      by_cases hvw : v = w
      · subst hvw
        rw [rowLe_cons_self] at hab hba
        rw [ih hab hba]
      · rw [rowLe_cons_of_ne hvw] at hab
        rw [rowLe_cons_of_ne (Ne.symm hvw)] at hba
        exact absurd (Value.le_antisymm hab hba) hvw

theorem rowLe_trans {a b c : CanonicalRow} (hab : rowLe a b) (hbc : rowLe b c) : rowLe a c := by
  induction a generalizing b c with
  | nil => rfl
  | cons u a ih =>
    cases b with
    | nil => simp [rowLe] at hab
    | cons v b =>
      cases c with
      | nil => simp [rowLe] at hbc
      | cons w c =>
        by_cases huv : u = v
        · subst huv
          rw [rowLe_cons_self] at hab
          by_cases huw : u = w
          · subst huw
            rw [rowLe_cons_self] at hbc ⊢
            exact ih hab hbc
          · rw [rowLe_cons_of_ne huw] at hbc ⊢
            exact hbc
        · rw [rowLe_cons_of_ne huv] at hab
          by_cases hvw : v = w
          · subst hvw
            rw [rowLe_cons_of_ne huv]
            exact hab
          · rw [rowLe_cons_of_ne hvw] at hbc
            have huw : u ≠ w := by
              rintro rfl
              exact huv (Value.le_antisymm hab hbc)
            rw [rowLe_cons_of_ne huw]
            exact Value.le_trans hab hbc

theorem sorted_perm (rows : List CanonicalRow) : (sorted rows).Perm rows :=
  List.mergeSort_perm rows rowLe

theorem pairwise_sorted (rows : List CanonicalRow) :
    (sorted rows).Pairwise fun a b => rowLe a b := by
  apply List.pairwise_mergeSort
  · intro a b c
    exact rowLe_trans
  · intro a b
    simpa using rowLe_total a b

/-- Sorting decides whether two lists hold the same rows equally often. -/
theorem sorted_eq_sorted_iff {left right : List CanonicalRow} :
    sorted left = sorted right ↔ left.Perm right := by
  constructor
  · intro h
    exact (sorted_perm left).symm.trans (h ▸ sorted_perm right)
  · intro h
    have hperm : (sorted left).Perm (sorted right) :=
      (sorted_perm left).trans (h.trans (sorted_perm right).symm)
    exact hperm.eq_of_pairwise (fun a b _ _ => rowLe_antisymm) (pairwise_sorted left)
      (pairwise_sorted right)

/-! ## Agreement -/

variable (config : Config) (sql : String)

/-- The rows that are compared; missing rows count as none. -/
def comparedRows (o : Outcome) : List CanonicalRow :=
  (o.rows.getD []).map (canonicalRow config.floatDigits)

/-- Is only the number of rows compared? -/
def CountsOnly : Prop :=
  (Sql.resultShape sql).limited ∧ ¬(Sql.resultShape sql).ordered ∧
    config.unorderedLimit = .compareCounts

instance : Decidable (CountsOnly config sql) :=
  inferInstanceAs (Decidable (_ ∧ _ ∧ _))

/-- What the rows of two results must have in common. -/
def Agree (left right : List CanonicalRow) : Prop :=
  if CountsOnly config sql then left.length = right.length
  else if (Sql.resultShape sql).ordered then left = right
  else left.Perm right

instance (left right : List CanonicalRow) : Decidable (Agree config sql left right) :=
  inferInstanceAs (Decidable (ite _ _ (ite _ _ _)))

theorem equivalence_agree : Equivalence (Agree config sql) := by
  unfold Agree
  split_ifs
  · exact ⟨fun _ => rfl, Eq.symm, Eq.trans⟩
  · exact ⟨fun _ => rfl, Eq.symm, Eq.trans⟩
  · exact ⟨List.Perm.refl, List.Perm.symm, List.Perm.trans⟩

theorem compare_eq (primary reference : Outcome) :
    compare config sql primary reference =
      let left := comparedRows config primary
      let right := comparedRows config reference
      if CountsOnly config sql then
        if left.length = right.length then none else some (describeCounts left right)
      else if (Sql.resultShape sql).ordered then
        if left = right then none else some (describeSequences left right)
      else if sorted left = sorted right then none
      else some (describeMultisets (sorted left) (sorted right)) :=
  rfl

theorem compare_eq_none_iff (primary reference : Outcome) :
    compare config sql primary reference = none ↔
      Agree config sql (comparedRows config primary) (comparedRows config reference) := by
  rw [compare_eq, Agree]
  dsimp only
  split_ifs with hcounts hcount hordered heq hsorted
  · simpa using hcount
  · simpa using hcount
  · simpa using heq
  · simpa using heq
  · simpa using sorted_eq_sorted_iff.1 hsorted
  · simpa using fun hperm => hsorted (sorted_eq_sorted_iff.2 hperm)

/-- Where the rows have no fixed order, neither does it matter in which order they came. -/
theorem compare_eq_of_perm (hordered : (Sql.resultShape sql).ordered = false)
    {primary primary' reference reference' : Outcome}
    (hprimary : (primary.rows.getD []).Perm (primary'.rows.getD []))
    (hreference : (reference.rows.getD []).Perm (reference'.rows.getD [])) :
    compare config sql primary reference = compare config sql primary' reference' := by
  have hleft : (comparedRows config primary).Perm (comparedRows config primary') :=
    hprimary.map _
  have hright : (comparedRows config reference).Perm (comparedRows config reference') :=
    hreference.map _
  have hcounts : describeCounts (comparedRows config primary) (comparedRows config reference) =
      describeCounts (comparedRows config primary') (comparedRows config reference') := by
    unfold describeCounts
    rw [hleft.length_eq, hright.length_eq]
  simp only [compare_eq, hordered, hcounts, hleft.length_eq, hright.length_eq,
    sorted_eq_sorted_iff.2 hleft, sorted_eq_sorted_iff.2 hright, Bool.false_eq_true, if_false]

/-! ## Verdicts on completed runs -/

theorem classify_completed {primary reference : Outcome} (hprimary : primary.completed)
    (hreference : reference.completed) :
    classify config sql ⟨primary, some reference⟩ =
      classifyCompleted config sql primary reference := by
  obtain ⟨hcrashed, htimedOut⟩ : primary.crashed = false ∧ primary.timedOut = false := by
    simpa [Outcome.completed] using hprimary
  simp [classify, hcrashed, htimedOut, hreference]

theorem classifyCompleted_kind {primary reference : Outcome} (hprimary : primary.error = none)
    (hreference : reference.error = none) :
    (classifyCompleted config sql primary reference).kind = .logicBug ↔
      compare config sql primary reference ≠ none := by
  unfold classifyCompleted
  rw [hprimary, hreference]
  dsimp only
  cases compare config sql primary reference with
  | none => simp [Verdict.normal]
  | some detail => simp [Verdict.bug]

/-- The run came to its end and reported no error. -/
def Succeeded (o : Outcome) : Prop :=
  o.completed ∧ o.error = none

theorem classify_kind_iff {primary reference : Outcome} (hprimary : Succeeded primary)
    (hreference : Succeeded reference) :
    (classify config sql ⟨primary, some reference⟩).kind = .logicBug ↔
      compare config sql primary reference ≠ none := by
  rw [classify_completed config sql hprimary.1 hreference.1]
  exact classifyCompleted_kind config sql hprimary.2 hreference.2

/-- The same outcome with its rows in another order. -/
def reordered (o : Outcome) (rows : List Row) : Outcome :=
  { o with rows := some rows }

/-- Two results compare as equal exactly if they agree; for a fixed query this is an equivalence,
an unordered query does not tell apart the orders of the rows, and of two runs that succeeded a
logic bug is reported exactly if they do not agree, whichever is the primary one. -/
theorem compare_decides :
    (∀ primary reference, compare config sql primary reference = none ↔
      Agree config sql (comparedRows config primary) (comparedRows config reference)) ∧
    Equivalence (fun primary reference => compare config sql primary reference = none) ∧
    ((Sql.resultShape sql).ordered = false → ∀ primary reference rows rows',
      (primary.rows.getD []).Perm rows → (reference.rows.getD []).Perm rows' →
        compare config sql (reordered primary rows) (reordered reference rows') =
          compare config sql primary reference ∧
        classify config sql ⟨reordered primary rows, some (reordered reference rows')⟩ =
          classify config sql ⟨primary, some reference⟩) ∧
    ∀ primary reference, Succeeded primary → Succeeded reference →
      ((classify config sql ⟨primary, some reference⟩).kind = .logicBug ↔
        compare config sql primary reference ≠ none) ∧
      ((classify config sql ⟨reference, some primary⟩).kind = .logicBug ↔
        compare config sql primary reference ≠ none) := by
  have hagree := compare_eq_none_iff config sql
  have hequivalence :
      Equivalence (fun primary reference => compare config sql primary reference = none) := by
    simp only [hagree]
    exact (equivalence_agree config sql).comap (comparedRows config)
  refine ⟨hagree, hequivalence, ?_, ?_⟩
  · intro hordered primary reference rows rows' hrows hrows'
    have hcompare : compare config sql (reordered primary rows) (reordered reference rows') =
        compare config sql primary reference :=
      compare_eq_of_perm config sql hordered hrows.symm hrows'.symm
    refine ⟨hcompare, ?_⟩
    -- Apart from the comparison, a verdict never looks at the rows.
    simp only [classify, classifyCompleted, hcompare]
    rfl
  · intro primary reference hprimary hreference
    refine ⟨classify_kind_iff config sql hprimary hreference, ?_⟩
    rw [classify_kind_iff config sql hreference hprimary]
    exact not_congr ⟨hequivalence.symm, hequivalence.symm⟩

/-- An engine that ends normally and prints these rows. -/
def printing (rows : List Row) : Outcome :=
  ⟨"3.50.0", .exited 0, false, false, some rows, none, "", "", 0, []⟩

/-- Two engines print the rows of an unordered query in different orders; a third one lacks a
row. -/
theorem compare_decides_rows :
    let sql := "SELECT a FROM t"
    let ascending := printing [["1"], ["2"]]
    let descending := printing [["2"], ["1"]]
    let partly := printing [["1"]]
    (Sql.resultShape sql).ordered = false ∧ Succeeded ascending ∧ Succeeded partly ∧
      compare .standard sql ascending ascending = none ∧
      classify .standard sql ⟨descending, some ascending⟩ =
        classify .standard sql ⟨ascending, some ascending⟩ ∧
      (classify .standard sql ⟨ascending, some partly⟩).kind = .logicBug := by
  intro sql ascending descending partly
  obtain ⟨hagree, hequivalence, hreordered, hclassify⟩ := compare_decides .standard sql
  have hordered : (Sql.resultShape sql).ordered = false := by decide +kernel
  have hascending : Succeeded ascending := ⟨rfl, rfl⟩
  have hpartly : Succeeded partly := ⟨rfl, rfl⟩
  have hdiffer : compare .standard sql ascending partly ≠ none := by
    rw [Ne, hagree]
    decide +kernel
  exact ⟨hordered, hascending, hpartly, hequivalence.refl ascending,
    (hreordered hordered ascending ascending [["2"], ["1"]] [["1"], ["2"]]
      (List.Perm.swap _ _ _) (List.Perm.refl _)).2,
    (hclassify ascending partly hascending hpartly).1.2 hdiffer⟩

end Oracle
end QueryFuzz
