import QueryFuzz.Proofs.Draw.Yields

/-!
# Weights that are chosen

A choice in proportion to weights falls on a weight that is positive and finite, whatever the sum
and the target are: the sum may be infinite, and then the target may be no number, which no partial
sum exceeds. It cannot run past all weights without having met such a weight, since then the sum
would have been zero and nothing would have been asked.
-/

namespace QueryFuzz
namespace Draw

/-- A weight that can be chosen. -/
def IsUsable (w : Float) : Prop :=
  w.isFinite ∧ 0.0 < w

instance (w : Float) : Decidable (IsUsable w) :=
  inferInstanceAs (Decidable (_ ∧ _))

/-! ## Positive numbers -/

theorem unpack_zero : (0.0 : Float).toModel.unpack = .zero .positive :=
  rfl

/-- The comparisons of floating-point numbers agree on what is positive. -/
theorem beq_zero_of_pos {w : Float} (h : 0.0 < w) : (w == 0.0) = false := by
  have hpos : (0.0 : Float).toModel.unpack.lt w.toModel.unpack = true := of_decide_eq_true h
  show w.toModel.unpack.beq (0.0 : Float).toModel.unpack = false
  rw [unpack_zero] at hpos ⊢
  cases hw : w.toModel.unpack with
  | zero sign =>
    rw [hw] at hpos
    cases hpos
  | notANumber => rfl
  | infinity sign => cases sign <;> rfl
  | finite sign => cases sign <;> rfl

theorem usableWeight_of_isUsable {w : Float} (h : IsUsable w) : usableWeight w = w :=
  if_pos (by simp [h.1, h.2])

theorem usableWeight_of_not_isUsable {w : Float} (h : ¬IsUsable w) : usableWeight w = 0.0 :=
  if_neg (by simpa [IsUsable] using h)

theorem usableWeight_beq_zero_iff {w : Float} : (usableWeight w == 0.0) ↔ ¬IsUsable w := by
  by_cases h : IsUsable w
  · rw [usableWeight_of_isUsable h, beq_zero_of_pos h.2]
    simpa using h
  · rw [usableWeight_of_not_isUsable h]
    exact iff_of_true (by decide) h

/-! ## Sums -/

theorem totalWeight_of_not_isUsable {weights : List Float} (h : ∀ w ∈ weights, ¬IsUsable w) :
    totalWeight weights = 0.0 := by
  unfold totalWeight
  induction weights with
  | nil => rfl
  | cons w rest ih =>
    obtain ⟨hw, hrest⟩ := List.forall_mem_cons.1 h
    have hzero : (0.0 + 0.0 : Float) = 0.0 := rfl
    rw [List.foldl_cons, usableWeight_of_not_isUsable hw, hzero]
    exact ih hrest

/-- A sum that is not zero has a weight that can be chosen. -/
theorem exists_isUsable {weights : List Float} (h : ¬totalWeight weights ≤ 0.0) :
    ∃ w ∈ weights, IsUsable w := by
  by_contra hnone
  apply h
  rw [totalWeight_of_not_isUsable fun w hw husable => hnone ⟨w, hw, husable⟩]
  decide

/-! ## Choices -/

/-- The number is that of a weight that can be chosen, with the weights numbered from an index. -/
def IsUsableAt (weights : List Float) (index n : ℕ) : Prop :=
  ∃ i w, weights[i]? = some w ∧ IsUsable w ∧ n = index + i

theorem isUsableAt_head {w : Float} (h : IsUsable w) (rest : List Float) (index : ℕ) :
    IsUsableAt (w :: rest) index index :=
  ⟨0, w, rfl, h, rfl⟩

theorem IsUsableAt.cons {rest : List Float} {index n : ℕ} (h : IsUsableAt rest (index + 1) n)
    (w : Float) : IsUsableAt (w :: rest) index n := by
  obtain ⟨i, v, hv, husable, hn⟩ := h
  exact ⟨i + 1, v, hv, husable, by omega⟩

/-- Going on from an index, the choice falls on a weight that can be chosen; if there is none, it
stays with what was chosen before. -/
theorem pickWeighted_cases (target sum : Float) (index chosen : ℕ) (weights : List Float) :
    IsUsableAt weights index (pickWeighted target sum index chosen weights) ∨
    ((∀ w ∈ weights, ¬IsUsable w) ∧ pickWeighted target sum index chosen weights = chosen) := by
  induction weights generalizing sum index chosen with
  | nil => exact .inr ⟨by simp, rfl⟩
  | cons w rest ih =>
    unfold pickWeighted
    dsimp only
    split_ifs with hzero hreached
    · rcases ih sum (index + 1) chosen with hlater | ⟨hrest, hpick⟩
      · exact .inl (hlater.cons w)
      · exact .inr ⟨List.forall_mem_cons.2 ⟨usableWeight_beq_zero_iff.1 hzero, hrest⟩, hpick⟩
    · have hw := not_not.1 (mt usableWeight_beq_zero_iff.2 hzero)
      exact .inl (isUsableAt_head hw rest index)
    · have hw := not_not.1 (mt usableWeight_beq_zero_iff.2 hzero)
      rcases ih (sum + usableWeight w) (index + 1) index with hlater | ⟨-, hpick⟩
      · exact .inl (hlater.cons w)
      · exact .inl (hpick.symm ▸ isUsableAt_head hw rest index)

/-- A choice that is asked for falls on a weight that can be chosen. -/
theorem isUsable_answerWeighted {weights : List Float} (h : ¬totalWeight weights ≤ 0.0)
    (s : KeyStream) : ∃ w, weights[(answerWeighted weights s).1]? = some w ∧ IsUsable w := by
  obtain ⟨v, hv, husable⟩ := exists_isUsable h
  rcases pickWeighted_cases ((nextFraction s).1 * totalWeight weights) 0.0 0 0 weights with
    ⟨i, w, hw, hwusable, hpick⟩ | ⟨hnone, -⟩
  · refine ⟨w, ?_, hwusable⟩
    unfold answerWeighted
    dsimp only
    rwa [hpick, Nat.zero_add]
  · exact absurd husable (hnone v hv)

end Draw
end QueryFuzz
