import QueryFuzz.Proofs.Decimal.Rounding

/-!
# A fixed number of digits

The digits of a number are the closest ones of their count. Where all digits are nines and are
rounded up, they become a power of ten with one more digit in front; the number is below that power
then, by no more than half a unit of the digits it had. A number that is at least as close to its
digits as the one they were computed from has the same digits, but for one that lies too far below
a power of ten.
-/

namespace QueryFuzz
namespace Decimal
namespace Figures

def value (f : Figures) : ℚ := f.digits * 10 ^ f.exponent

/-- The figures are those of `x` with `k + 1` digits. -/
inductive IsExact (k : ℕ) (x : ℚ) (f : Figures) : Prop where
  | rounded (hlow : 10 ^ k ≤ f.digits) (hhigh : f.digits < 10 ^ (k + 1))
      (hx : (10 ^ k : ℕ) * (10 : ℚ) ^ f.exponent ≤ x)
      (hround : IsRounded (x * 10 ^ (-f.exponent)) f.digits)
  | carried (hdigits : f.digits = 10 ^ k) (hx : x < f.value)
      (hclose : f.value - x ≤ 10 ^ f.exponent / 20)

/-- The figures are a power of ten, and `x` lies below it by more than half a unit of the digits it
has there. -/
def Slips (k : ℕ) (x : ℚ) (f : Figures) : Prop :=
  f.digits = 10 ^ k ∧ x + 10 ^ f.exponent / 20 < f.value

/-- The exponent of the last digit. -/
theorem exponent_eq_iff {num den : ℕ} (hnum : 0 < num) (hden : 0 < den) {k : ℕ} {exponent : ℤ} :
    decimalOrder num den - (((k + 1 : ℕ) : ℤ) - 1) = exponent ↔
      (10 ^ k : ℕ) * (10 : ℚ) ^ exponent ≤ num / den ∧
        (num / den : ℚ) < (10 ^ (k + 1) : ℕ) * 10 ^ exponent := by
  have hx : (0 : ℚ) < num / den := by positivity
  have hlow : ((10 : ℕ) : ℚ) ^ ((k : ℤ) + exponent) = (10 ^ k : ℕ) * (10 : ℚ) ^ exponent := by
    push_cast
    rw [zpow_add₀ (by norm_num), zpow_natCast]
  have hhigh : ((10 : ℕ) : ℚ) ^ ((k : ℤ) + exponent + 1) =
      (10 ^ (k + 1) : ℕ) * (10 : ℚ) ^ exponent := by
    rw [zpow_add_one₀ (by norm_num), hlow]
    push_cast
    ring
  rw [← hlow, ← hhigh, ← eq_log_iff (by decide) hx, decimalOrder_eq_log hnum hden]
  push_cast
  omega

/-- A power of ten with its exponent, and with one less. -/
theorem value_carried (k : ℕ) (exponent : ℤ) :
    value ⟨10 ^ k, exponent + 1⟩ = (10 ^ (k + 1) : ℕ) * (10 : ℚ) ^ exponent := by
  rw [value, zpow_add_one₀ (by norm_num)]
  push_cast
  ring

section Exact

variable {num den : ℕ} (hnum : 0 < num) (hden : 0 < den)

include hnum hden

/-- The figures from their exponent and their digits, before a carry is seen to. -/
theorem exact_eq {k digits : ℕ} {exponent : ℤ}
    (hlow : (10 ^ k : ℕ) * (10 : ℚ) ^ exponent ≤ num / den)
    (hhigh : (num / den : ℚ) < (10 ^ (k + 1) : ℕ) * 10 ^ exponent)
    (hround : IsRounded (num / den * 10 ^ (-exponent)) digits) :
    exact (k + 1) num den =
      if digits = 10 ^ (k + 1) then ⟨10 ^ k, exponent + 1⟩ else ⟨digits, exponent⟩ := by
  obtain ⟨hscaled, hquotient⟩ := scaledByTen_spec exponent num hden
  rw [← hquotient, ← roundHalfEven_eq_iff hscaled] at hround
  unfold exact
  dsimp only
  rw [(exponent_eq_iff hnum hden).2 ⟨hlow, hhigh⟩, hround, Nat.pow_eq, Nat.pow_eq, Nat.add_sub_cancel]

theorem isExact_exact (k : ℕ) : IsExact k (num / den) (exact (k + 1) num den) := by
  obtain ⟨hlow, hhigh⟩ := (exponent_eq_iff hnum hden (k := k)).1 rfl
  set exponent := decimalOrder num den - (((k + 1 : ℕ) : ℤ) - 1)
  obtain ⟨hscaled, hquotient⟩ := scaledByTen_spec exponent num hden
  obtain ⟨digits, hround⟩ : ∃ digits, IsRounded (num / den * 10 ^ (-exponent)) digits := by
    rw [← hquotient]
    exact ⟨_, isRounded_roundHalfEven _ hscaled⟩
  have hpower : (0 : ℚ) < 10 ^ exponent := by positivity
  rw [exact_eq hnum hden hlow hhigh hround]
  split_ifs with hcarry
  · have hclose := le_of_abs_le ((isRounded_mul_zpow_iff (by norm_num)).1 hround).1
    rw [hcarry] at hclose
    refine .carried rfl ?_ ?_
    · rw [value_carried]
      exact hhigh
    · rw [value_carried, zpow_add_one₀ (by norm_num)]
      linarith
  · have hleast : 10 ^ k ≤ digits := by
      refine hround.le_of_le ?_
      rwa [zpow_neg, ← div_eq_mul_inv, le_div_iff₀ hpower]
    have hmost : digits ≤ 10 ^ (k + 1) := by
      refine hround.le_of_lt ?_
      rwa [zpow_neg, ← div_eq_mul_inv, div_lt_iff₀ hpower]
    exact .rounded hleast (lt_of_le_of_ne hmost hcarry) hlow hround

theorem exact_eq_of_isExact {k : ℕ} {f : Figures} (h : IsExact k (num / den) f) :
    exact (k + 1) num den = f := by
  obtain ⟨digits, exponent⟩ := f
  cases h with
  | rounded hlow hhigh hx hround =>
    dsimp only at hlow hhigh hx hround
    have hpower : (0 : ℚ) < 10 ^ exponent := by positivity
    have hmost : (num / den : ℚ) < (10 ^ (k + 1) : ℕ) * 10 ^ exponent := by
      have hclose := neg_le_of_abs_le ((isRounded_mul_zpow_iff (by norm_num)).1 hround).1
      have hdigits : (digits : ℚ) + 1 ≤ (10 ^ (k + 1) : ℕ) := by exact_mod_cast hhigh
      calc (num / den : ℚ) < (digits + 1) * 10 ^ exponent := by linarith
        _ ≤ (10 ^ (k + 1) : ℕ) * 10 ^ exponent := by gcongr
    rw [exact_eq hnum hden hx hmost hround, if_neg hhigh.ne]
  | carried hdigits hx hclose =>
    -- With one more digit in front, the digits before the carry have the exponent below.
    obtain rfl : digits = 10 ^ k := hdigits
    obtain ⟨exponent, rfl⟩ : ∃ e, exponent = e + 1 := ⟨exponent - 1, by omega⟩
    have hpower : (0 : ℚ) < 10 ^ exponent := by positivity
    rw [value_carried] at hx hclose
    rw [zpow_add_one₀ (by norm_num)] at hclose
    have hround : IsRounded (num / den * 10 ^ (-exponent)) (10 ^ (k + 1)) := by
      refine (isRounded_mul_zpow_iff (by norm_num)).2 ⟨?_, fun _ => ?_⟩
      · rw [abs_of_nonneg (by linarith)]
        linarith
      · exact Nat.even_pow.2 ⟨by decide, by omega⟩
    have hleast : (10 ^ k : ℕ) * (10 : ℚ) ^ exponent ≤ num / den := by
      have hone : 1 * (10 : ℚ) ^ exponent ≤ (10 ^ k : ℕ) * 10 ^ exponent := by
        gcongr
        exact_mod_cast Nat.one_le_pow' k 9
      have hten : ((10 ^ (k + 1) : ℕ) : ℚ) * 10 ^ exponent =
          10 * ((10 ^ k : ℕ) * 10 ^ exponent) := by
        push_cast
        ring
      linarith
    rw [exact_eq hnum hden hleast hx hround, if_pos rfl]

theorem exact_eq_iff {k : ℕ} {f : Figures} :
    exact (k + 1) num den = f ↔ IsExact k (num / den) f := by
  constructor
  · rintro rfl
    exact isExact_exact hnum hden k
  · exact exact_eq_of_isExact hnum hden

end Exact

/-! ## Digits of a closer number -/

namespace IsExact

variable {k : ℕ} {x v : ℚ} {f : Figures}

theorem digits_bounds (h : IsExact k x f) : 10 ^ k ≤ f.digits ∧ f.digits < 10 ^ (k + 1) := by
  cases h with
  | rounded hlow hhigh => exact ⟨hlow, hhigh⟩
  | carried hdigits =>
    rw [hdigits]
    exact ⟨le_rfl, Nat.pow_lt_pow_succ (by decide)⟩

theorem close (h : IsExact k x f) : |f.value - x| ≤ 10 ^ f.exponent / 2 ∧
    (|f.value - x| = 10 ^ f.exponent / 2 → Even f.digits) := by
  cases h with
  | rounded hlow hhigh hx hround => exact (isRounded_mul_zpow_iff (by norm_num)).1 hround
  | carried hdigits hx hclose =>
    have hpower : (0 : ℚ) < 10 ^ f.exponent := by positivity
    rw [abs_of_nonneg (by linarith)]
    constructor
    · linarith
    · intro
      linarith

/-- What is at least as close to the figures of a number as the number is has the same figures, if
it does not lie too far below a power of ten. -/
theorem iff_of_closer (hv : IsExact k v f) (hcloser : |f.value - x| ≤ |f.value - v|) :
    IsExact k x f ↔ ¬Slips k x f := by
  have hpower : (0 : ℚ) < 10 ^ f.exponent := by positivity
  have hten (hdigits : f.digits = 10 ^ k) : f.value = (10 ^ k : ℕ) * 10 ^ f.exponent := by
    rw [value, hdigits]
  constructor
  · rintro h ⟨hdigits, hfar⟩
    cases h with
    | rounded hlow hhigh hx hround =>
      rw [hten hdigits] at hfar
      linarith
    | carried _ hx hclose => linarith
  · intro hnear
    obtain ⟨hclose, htie⟩ := hv.close
    by_cases hx : (10 ^ k : ℕ) * (10 : ℚ) ^ f.exponent ≤ x
    · refine .rounded hv.digits_bounds.1 hv.digits_bounds.2 hx ?_
      refine (isRounded_mul_zpow_iff (by norm_num)).2 ⟨hcloser.trans hclose, fun heq => htie ?_⟩
      exact le_antisymm hclose (heq.symm.le.trans hcloser)
    · have hdigits : f.digits = 10 ^ k := by
        by_contra hne
        have hnext : ((10 ^ k : ℕ) + 1 : ℚ) ≤ f.digits := by
          exact_mod_cast lt_of_le_of_ne hv.digits_bounds.1 (Ne.symm hne)
        have hvalue : ((10 ^ k : ℕ) + 1 : ℚ) * 10 ^ f.exponent ≤ f.value := by
          unfold value
          gcongr
        have := le_of_abs_le (hcloser.trans hclose)
        linarith
      refine .carried hdigits ?_ ?_
      · rw [hten hdigits]
        exact lt_of_not_ge hx
      · have hle := le_of_not_gt fun hfar => hnear ⟨hdigits, hfar⟩
        linarith

end IsExact

end Figures
end Decimal
end QueryFuzz
