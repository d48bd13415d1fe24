import Mathlib.Algebra.Order.Field.Power
import Mathlib.Algebra.Order.Floor.Semifield
import Mathlib.Data.Int.Log
import Mathlib.Data.Rat.Floor
import Mathlib.Tactic.FieldSimp
import Mathlib.Tactic.Linarith
import Mathlib.Tactic.Positivity
import Mathlib.Tactic.Ring
import QueryFuzz.Decimal.Digits

/-!
# Quotients, their orders and their rounding

The numerators and denominators that the digits are computed from stand for positive rational
numbers. Scaling multiplies by a power of the base, the order is the whole part of the logarithm,
and rounding is to the closest whole number, the even one of two.
-/

namespace QueryFuzz
namespace Decimal

/-! ## Rounding -/

/-- The whole number is closest to `x`; of two that are equally close it is the even one. -/
structure IsRounded (x : ℚ) (n : ℕ) : Prop where
  close : |x - n| ≤ 1 / 2
  even_of_tie : |x - n| = 1 / 2 → Even n

namespace IsRounded

variable {x : ℚ} {n : ℕ}

theorem unique {n' : ℕ} (h : IsRounded x n) (h' : IsRounded x n') : n = n' := by
  wlog hlt : n < n' generalizing n n'
  · by_contra hne
    exact hne (this h' h (by omega)).symm
  -- Two different ones are neighbours with `x` in the middle, and cannot both be even.
  exfalso
  have hclose := abs_le.1 h.close
  have hclose' := abs_le.1 h'.close
  have hnext : n' = n + 1 := by
    have hlt' : (n' : ℚ) < n + 2 := by linarith
    have : n' < n + 2 := by exact_mod_cast hlt'
    omega
  subst hnext
  push_cast at hclose'
  have hmiddle : x = n + 1 / 2 := by linarith
  have heven : Even n := h.even_of_tie (by rw [hmiddle, add_sub_cancel_left]; norm_num)
  have heven' : Even (n + 1) := by
    refine h'.even_of_tie ?_
    rw [hmiddle, abs_eq (by norm_num)]
    right
    push_cast
    ring
  exact Nat.even_add_one.1 heven' heven

/-- No whole number is closer. -/
theorem closest (h : IsRounded x n) (k : ℤ) : |x - n| ≤ |x - k| := by
  by_cases hk : k = n
  · rw [hk]
    rfl
  · have hgap : (1 : ℚ) ≤ |(n : ℚ) - k| := by
      have : (1 : ℤ) ≤ |(n : ℤ) - k| := Int.one_le_abs (sub_ne_zero.2 (Ne.symm hk))
      exact_mod_cast this
    have htriangle := abs_sub_le (n : ℚ) x k
    rw [abs_sub_comm (n : ℚ) x] at htriangle
    have := h.close
    linarith

theorem le_of_le {k : ℕ} (h : IsRounded x n) (hk : (k : ℚ) ≤ x) : k ≤ n := by
  have hclose := abs_le.1 h.close
  have hlt : (k : ℚ) < n + 1 := by linarith
  have : k < n + 1 := by exact_mod_cast hlt
  omega

theorem le_of_lt {k : ℕ} (h : IsRounded x n) (hk : x < k) : n ≤ k := by
  have hclose := abs_le.1 h.close
  have hlt : (n : ℚ) < k + 1 := by linarith
  have : n < k + 1 := by exact_mod_cast hlt
  omega

end IsRounded

theorem isRounded_roundHalfEven (num : ℕ) {den : ℕ} (hden : 0 < den) :
    IsRounded (num / den) (roundHalfEven num den) := by
  have hpos : (0 : ℚ) < den := by exact_mod_cast hden
  set q := num / den with hq
  set r := num % den with hr
  have hlt : (r : ℚ) < den := by exact_mod_cast Nat.mod_lt num hden
  have hx : (num : ℚ) / den = q + r / den := by
    have hsum : (num : ℚ) = den * q + r := by exact_mod_cast (Nat.div_add_mod num den).symm
    rw [hsum]
    field_simp
  have hfraction : (0 : ℚ) ≤ r / den := by positivity
  rw [hx]
  simp only [roundHalfEven, ← hq, ← hr]
  split_ifs with hlow hhigh heven
  · have hhalf : (r : ℚ) / den < 1 / 2 := by
      rw [div_lt_iff₀ hpos]
      have : (2 * r : ℚ) < den := by exact_mod_cast hlow
      linarith
    have habs : |(q : ℚ) + r / den - q| < 1 / 2 := by
      rw [add_sub_cancel_left, abs_of_nonneg hfraction]
      exact hhalf
    exact ⟨habs.le, fun htie => absurd htie habs.ne⟩
  · have hhalf : 1 / 2 < (r : ℚ) / den := by
      rw [lt_div_iff₀ hpos]
      have : (den : ℚ) < 2 * r := by exact_mod_cast hhigh
      linarith
    have hone : (r : ℚ) / den < 1 := (div_lt_one hpos).2 hlt
    have habs : |(q : ℚ) + r / den - (q + 1 : ℕ)| < 1 / 2 := by
      push_cast
      rw [abs_lt]
      constructor <;> linarith
    exact ⟨habs.le, fun htie => absurd htie habs.ne⟩
  all_goals
    have htie : (r : ℚ) / den = 1 / 2 := by
      rw [div_eq_iff hpos.ne']
      have : (2 * r : ℚ) = den := by exact_mod_cast (show 2 * r = den by omega)
      linarith
    rw [htie]
  · refine ⟨by rw [add_sub_cancel_left]; norm_num, fun _ => Nat.even_iff.2 heven⟩
  · refine ⟨?_, fun _ => Nat.even_iff.2 (by omega)⟩
    push_cast
    rw [abs_le]
    constructor <;> linarith

theorem roundHalfEven_eq_iff {num den n : ℕ} (hden : 0 < den) :
    roundHalfEven num den = n ↔ IsRounded (num / den) n := by
  constructor
  · rintro rfl
    exact isRounded_roundHalfEven num hden
  · exact (isRounded_roundHalfEven num hden).unique

/-! ## Scaling -/

/-- Scaling in whole numbers: a negative exponent multiplies the numerator, any other one the
denominator. -/
theorem scaled_spec {b : ℕ} (hb : 0 < b) (exponent : ℤ) (num : ℕ) {den : ℕ} (hden : 0 < den) :
    let scaled : ℕ × ℕ := if exponent < 0 then (num * Nat.pow b exponent.natAbs, den)
      else (num, den * Nat.pow b exponent.natAbs)
    0 < scaled.2 ∧ (scaled.1 : ℚ) / scaled.2 = num / den * (b : ℚ) ^ (-exponent) := by
  intro scaled
  obtain ⟨n, rfl | rfl⟩ := exponent.eq_nat_or_neg
  · have hscaled : scaled = (num, den * Nat.pow b n) := by simp [scaled]
    rw [hscaled, zpow_neg, zpow_natCast, Nat.pow_eq]
    refine ⟨Nat.mul_pos hden (Nat.pow_pos hb), ?_⟩
    push_cast
    rw [← div_div, div_eq_mul_inv _ ((b : ℚ) ^ n)]
  · have hscaled : scaled = (num * Nat.pow b n, den) := by
      rcases Nat.eq_zero_or_pos n with rfl | hn
      · simp [scaled]
      · simp [scaled, hn]
    rw [hscaled, neg_neg, zpow_natCast, Nat.pow_eq]
    refine ⟨hden, ?_⟩
    push_cast
    rw [mul_div_right_comm]

theorem scaledBy_spec (exponent : ℤ) (num : ℕ) {den : ℕ} (hden : 0 < den) :
    0 < (scaledBy exponent num den).2 ∧
      ((scaledBy exponent num den).1 : ℚ) / (scaledBy exponent num den).2 =
        num / den * 2 ^ (-exponent) :=
  scaled_spec two_pos exponent num hden

theorem scaledByTen_spec (exponent : ℤ) (num : ℕ) {den : ℕ} (hden : 0 < den) :
    0 < (scaledByTen exponent num den).2 ∧
      ((scaledByTen exponent num den).1 : ℚ) / (scaledByTen exponent num den).2 =
        num / den * 10 ^ (-exponent) :=
  scaled_spec (by decide) exponent num hden

/-- The distance to a multiple of a power, in units of the power. -/
theorem abs_mul_zpow_sub {b : ℚ} (hb : 0 < b) (y x : ℚ) (g : ℤ) :
    |y * b ^ g - x| = b ^ g * |x * b ^ (-g) - y| := by
  have hpos : 0 < b ^ g := zpow_pos hb g
  have hfactor : y * b ^ g - x = -(b ^ g * (x * b ^ (-g) - y)) := by
    rw [zpow_neg]
    field_simp
    ring
  rw [hfactor, abs_neg, abs_mul, abs_of_pos hpos]

theorem isRounded_mul_zpow_iff {b : ℚ} (hb : 0 < b) {x : ℚ} {n : ℕ} {g : ℤ} :
    IsRounded (x * b ^ (-g)) n ↔
      |n * b ^ g - x| ≤ b ^ g / 2 ∧ (|n * b ^ g - x| = b ^ g / 2 → Even n) := by
  have hpos : 0 < b ^ g := zpow_pos hb g
  have hle : |n * b ^ g - x| ≤ b ^ g / 2 ↔ |x * b ^ (-g) - n| ≤ 1 / 2 := by
    rw [abs_mul_zpow_sub hb, div_eq_mul_one_div, mul_le_mul_iff_right₀ hpos]
  have heq : |n * b ^ g - x| = b ^ g / 2 ↔ |x * b ^ (-g) - n| = 1 / 2 := by
    rw [abs_mul_zpow_sub hb, div_eq_mul_one_div, mul_right_inj' hpos.ne']
  rw [hle, heq]
  exact ⟨fun h => ⟨h.close, h.even_of_tie⟩, fun h => ⟨h.1, h.2⟩⟩

/-! ## Orders -/

theorem eq_log_iff {b : ℕ} (hb : 1 < b) {x : ℚ} (hx : 0 < x) {k : ℤ} :
    Int.log b x = k ↔ (b : ℚ) ^ k ≤ x ∧ x < (b : ℚ) ^ (k + 1) := by
  rw [Int.zpow_le_iff_le_log hb hx, Int.lt_zpow_iff_log_lt hb hx]
  omega

theorem decimalLength_le_iff {n k : ℕ} : decimalLength n ≤ k ↔ n < 10 ^ k := by
  induction k generalizing n with
  | zero =>
    unfold decimalLength
    split_ifs with hn
    · simp [hn]
    · simp only [pow_zero, Nat.lt_one_iff, hn, iff_false]
      omega
  | succ k ih =>
    unfold decimalLength
    split_ifs with hn
    · simp [hn]
    · rw [Nat.add_comm, Nat.succ_le_succ_iff, ih, pow_succ]
      omega

/-- The numbers of binary digits tell the order of a quotient, except for one. -/
theorem log2_bounds {num den : ℕ} (hnum : 0 < num) (hden : 0 < den) :
    (2 : ℚ) ^ ((num.log2 : ℤ) - den.log2 - 1) ≤ num / den ∧
      (num / den : ℚ) < 2 ^ ((num.log2 : ℤ) - den.log2 + 1) := by
  have hnum_low : (2 : ℚ) ^ num.log2 ≤ num := by
    exact_mod_cast Nat.log2_self_le hnum.ne'
  have hnum_high : (num : ℚ) < 2 ^ (num.log2 + 1) := by
    exact_mod_cast Nat.lt_log2_self
  have hden_low : (2 : ℚ) ^ den.log2 ≤ den := by
    exact_mod_cast Nat.log2_self_le hden.ne'
  have hden_high : (den : ℚ) < 2 ^ (den.log2 + 1) := by
    exact_mod_cast Nat.lt_log2_self
  constructor
  · have hexponent : (num.log2 : ℤ) - den.log2 - 1 = num.log2 - (den.log2 + 1 : ℕ) := by
      push_cast
      omega
    rw [hexponent, zpow_sub₀ two_ne_zero, zpow_natCast, zpow_natCast]
    exact div_le_div₀ (by positivity) hnum_low (by exact_mod_cast hden) hden_high.le
  · have hexponent : (num.log2 : ℤ) - den.log2 + 1 = (num.log2 + 1 : ℕ) - den.log2 := by
      push_cast
      omega
    rw [hexponent, zpow_sub₀ two_ne_zero, zpow_natCast, zpow_natCast]
    exact div_lt_div₀ hnum_high hden_low (by positivity) (by positivity)

theorem scaledBy_le_iff (exponent : ℤ) (num : ℕ) {den : ℕ} (hden : 0 < den) :
    (scaledBy exponent num den).2 ≤ (scaledBy exponent num den).1 ↔
      (2 : ℚ) ^ exponent ≤ num / den := by
  obtain ⟨hpos, hscaled⟩ := scaledBy_spec exponent num hden
  have hpos' : (0 : ℚ) < (scaledBy exponent num den).2 := by exact_mod_cast hpos
  have hpower : (0 : ℚ) < 2 ^ exponent := by positivity
  rw [← one_le_div hpower, div_eq_mul_inv _ ((2 : ℚ) ^ exponent), ← zpow_neg, ← hscaled,
    one_le_div hpos', Nat.cast_le]

theorem binaryOrder_eq_log {num den : ℕ} (hnum : 0 < num) (hden : 0 < den) :
    binaryOrder num den = Int.log 2 (num / den : ℚ) := by
  have hx : (0 : ℚ) < num / den := by positivity
  obtain ⟨hlow, hhigh⟩ := log2_bounds hnum hden
  have hdecide := scaledBy_le_iff ((num.log2 : ℤ) - den.log2) num hden
  symm
  unfold binaryOrder
  dsimp only
  split_ifs with hle
  · exact (eq_log_iff one_lt_two hx).2 ⟨hdecide.1 hle, hhigh⟩
  · refine (eq_log_iff one_lt_two hx).2 ⟨hlow, ?_⟩
    rw [sub_add_cancel]
    exact lt_of_not_ge fun hge => hle (hdecide.2 hge)

theorem exists_decimalLength {n : ℕ} (hn : 0 < n) :
    ∃ k, decimalLength n = k + 1 ∧ 10 ^ k ≤ n ∧ n < 10 ^ (k + 1) := by
  have hpos : ¬decimalLength n ≤ 0 := by
    rw [decimalLength_le_iff, pow_zero]
    omega
  obtain ⟨k, hk⟩ := Nat.exists_eq_add_of_lt (Nat.lt_of_not_le hpos)
  rw [Nat.zero_add] at hk
  refine ⟨k, hk, ?_, decimalLength_le_iff.1 hk.le⟩
  by_contra hlt
  have := decimalLength_le_iff.2 (Nat.lt_of_not_le hlt)
  omega

/-- From one on, the order is that of the whole part. -/
theorem log_of_le {num den : ℕ} (hden : 0 < den) (hle : den ≤ num) :
    Int.log 10 (num / den : ℚ) = (decimalLength (num / den) : ℤ) - 1 := by
  have hden' : (0 : ℚ) < den := by exact_mod_cast hden
  have hnum : 0 < num := hden.trans_le hle
  obtain ⟨k, hlength, hlow, hhigh⟩ := exists_decimalLength (Nat.div_pos hle hden)
  have horder : (decimalLength (num / den) : ℤ) - 1 = (k : ℕ) := by omega
  rw [horder]
  refine (eq_log_iff (by decide) (by positivity)).2 ⟨?_, ?_⟩
  · rw [zpow_natCast, le_div_iff₀ hden']
    exact_mod_cast (Nat.mul_le_mul_right den hlow).trans (Nat.div_mul_le_self num den)
  · rw [show (k : ℤ) + 1 = ((k + 1 : ℕ) : ℤ) by push_cast; rfl, zpow_natCast, div_lt_iff₀ hden']
    have hlt : num < 10 ^ (k + 1) * den := by
      calc num < (num / den + 1) * den := by
            rw [Nat.mul_comm]
            exact Nat.lt_mul_div_succ num hden
        _ ≤ 10 ^ (k + 1) * den := Nat.mul_le_mul_right den hhigh
    exact_mod_cast hlt

/-- Below one, it is that of the largest whole number below the inverse. -/
theorem log_of_lt {num den : ℕ} (hnum : 0 < num) (hlt : num < den) :
    Int.log 10 (num / den : ℚ) = -(decimalLength ((den - 1) / num) : ℤ) := by
  have hnum' : (0 : ℚ) < num := by exact_mod_cast hnum
  have hden : 0 < den := hnum.trans hlt
  have hx : (0 : ℚ) < num / den := by positivity
  obtain ⟨k, hlength, hlow, hhigh⟩ :=
    exists_decimalLength (Nat.div_pos (by omega : num ≤ den - 1) hnum)
  have hbelow : (den - 1) / num * num < den := by
    have := Nat.div_mul_le_self (den - 1) num
    omega
  have habove : den ≤ ((den - 1) / num + 1) * num := by
    have := Nat.lt_mul_div_succ (den - 1) hnum
    rw [Nat.mul_comm] at this
    omega
  rw [hlength]
  refine (eq_log_iff (by decide) hx).2 ⟨?_, ?_⟩
  · rw [zpow_neg, zpow_natCast, inv_le_comm₀ (by positivity) hx, inv_div, div_le_iff₀ hnum']
    exact_mod_cast habove.trans (Nat.mul_le_mul_right num hhigh)
  · rw [show -((k + 1 : ℕ) : ℤ) + 1 = -(k : ℤ) by push_cast; ring, zpow_neg, zpow_natCast,
      lt_inv_comm₀ hx (by positivity), inv_div, lt_div_iff₀ hnum']
    exact_mod_cast (Nat.mul_le_mul_right num hlow).trans_lt hbelow

theorem decimalOrder_eq_log {num den : ℕ} (hnum : 0 < num) (hden : 0 < den) :
    decimalOrder num den = Int.log 10 (num / den : ℚ) := by
  unfold decimalOrder
  split_ifs with hle
  · exact (log_of_le hden hle).symm
  · have hceil : (den + num - 1) / num - 1 = (den - 1) / num := by
      rw [show den + num - 1 = den - 1 + num by omega, Nat.add_div_right _ hnum]
      rfl
    rw [hceil]
    exact (log_of_lt hnum (Nat.lt_of_not_le hle)).symm

end Decimal
end QueryFuzz
