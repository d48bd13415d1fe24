import QueryFuzz.Proofs.Decimal.Rounding
import QueryFuzz.Decimal.Reading

/-!
# The closest number of the format

A quotient is rounded to a multiple of a power of two. The multiples are all numbers of the format
that are at least as coarse; a finer one is less than the hidden bit's multiple, which is not above
the quotient. So no number of the format is closer than the one that is chosen.
-/

namespace QueryFuzz
namespace Decimal
namespace Binary64

/-- The magnitude of a finite number. -/
def value (significand : ℕ) (exponent : ℤ) : ℚ := significand * 2 ^ exponent

theorem magnitude_spec (significand : ℕ) (exponent : ℤ) :
    0 < (magnitude significand exponent).2 ∧
      ((magnitude significand exponent).1 : ℚ) / (magnitude significand exponent).2 =
        value significand exponent := by
  unfold magnitude value
  split_ifs with hneg
  · refine ⟨Nat.pow_pos (by decide), ?_⟩
    have hexponent : exponent = -(exponent.natAbs : ℤ) := by omega
    rw [hexponent, zpow_neg, zpow_natCast, Int.natAbs_neg, Int.natAbs_natCast, Nat.pow_eq]
    push_cast
    rw [div_eq_mul_inv]
  · refine ⟨Nat.one_pos, ?_⟩
    have hexponent : exponent = (exponent.natAbs : ℤ) := by omega
    rw [hexponent, zpow_natCast, Int.natAbs_natCast, Nat.pow_eq]
    push_cast
    rw [div_one]

theorem magnitude_pos {significand : ℕ} (h : significand ≠ 0) (exponent : ℤ) :
    0 < (magnitude significand exponent).1 := by
  unfold magnitude
  split_ifs
  · exact Nat.pos_of_ne_zero h
  · exact Nat.mul_pos (Nat.pos_of_ne_zero h) (Nat.pow_pos (by decide))

/-- The significand has its bits, and the exponent is not below the least one. -/
structure InFormat (significand : ℕ) (exponent : ℤ) : Prop where
  significand_lt : significand < 2 * hiddenBit
  leastExponent_le : leastExponent ≤ exponent

/-- No number of the format is closer to `x` than this one of it. -/
structure IsClosest (x : ℚ) (significand : ℕ) (exponent : ℤ) : Prop
    extends InFormat significand exponent where
  closest : ∀ m e, InFormat m e → |value significand exponent - x| ≤ |value m e - x|

/-- The exponent of the multiples that a quotient is rounded to. -/
def gridExponent (num den : ℕ) : ℤ :=
  max (binaryOrder num den - 52) leastExponent

section Nearest

variable {num den : ℕ} (hnum : 0 < num) (hden : 0 < den)

include hnum hden

theorem lt_grid : (num / den : ℚ) < (2 * hiddenBit : ℕ) * 2 ^ gridExponent num den := by
  have hx : (0 : ℚ) < num / den := by positivity
  have hlog := (eq_log_iff one_lt_two hx).1 (binaryOrder_eq_log hnum hden).symm
  have hbits : ((2 * hiddenBit : ℕ) : ℚ) = 2 ^ (53 : ℤ) := by norm_num [hiddenBit]
  rw [hbits, ← zpow_add₀ two_ne_zero]
  refine hlog.2.trans_le ?_
  rw [Nat.cast_ofNat]
  refine zpow_le_zpow_right₀ one_le_two ?_
  have := le_max_left (binaryOrder num den - 52) leastExponent
  rw [gridExponent]
  omega

theorem grid_le (h : leastExponent < gridExponent num den) :
    (hiddenBit : ℚ) * 2 ^ gridExponent num den ≤ num / den := by
  have hx : (0 : ℚ) < num / den := by positivity
  have hlog := (eq_log_iff one_lt_two hx).1 (binaryOrder_eq_log hnum hden).symm
  have hbits : (hiddenBit : ℚ) = 2 ^ (52 : ℤ) := by norm_num [hiddenBit]
  rw [hbits, ← zpow_add₀ two_ne_zero]
  refine le_trans ?_ hlog.1
  rw [Nat.cast_ofNat]
  refine zpow_le_zpow_right₀ one_le_two ?_
  rw [gridExponent] at h ⊢
  omega

end Nearest

/-- A number that is rounded to the grid is as close as any of the format, if those that are finer
than the grid lie below it. -/
theorem abs_sub_le_of_isRounded {x : ℚ} {n : ℕ} {g : ℤ} (hround : IsRounded (x * 2 ^ (-g)) n)
    (hgrid : leastExponent < g → (hiddenBit : ℚ) * 2 ^ g ≤ x) {m : ℕ} {e : ℤ}
    (hformat : InFormat m e) : |value n g - x| ≤ |value m e - x| := by
  have hpos : (0 : ℚ) < 2 ^ g := by positivity
  have hmultiple (k : ℤ) : |value n g - x| ≤ |k * 2 ^ g - x| := by
    rw [value, abs_mul_zpow_sub two_pos n x g, abs_mul_zpow_sub two_pos k x g]
    exact mul_le_mul_of_nonneg_left (hround.closest k) hpos.le
  by_cases hfine : e < g
  · have hlow := hgrid (hformat.leastExponent_le.trans_lt hfine)
    have hbelow : value m e ≤ hiddenBit * 2 ^ g := by
      have hm : (m : ℚ) ≤ 2 * hiddenBit := by exact_mod_cast hformat.significand_lt.le
      calc value m e ≤ 2 * hiddenBit * 2 ^ e := by
            unfold value
            gcongr
        _ = hiddenBit * 2 ^ (e + 1) := by
            rw [zpow_add_one₀ two_ne_zero]
            ring
        _ ≤ hiddenBit * 2 ^ g := by
            gcongr
            · exact one_le_two
            · omega
    calc |value n g - x| ≤ |(hiddenBit : ℤ) * 2 ^ g - x| := hmultiple hiddenBit
      _ = x - hiddenBit * 2 ^ g := by
          rw [Int.cast_natCast, abs_sub_comm, abs_of_nonneg (by linarith)]
      _ ≤ x - value m e := by linarith
      _ = |value m e - x| := by rw [abs_sub_comm, abs_of_nonneg (by linarith)]
  · have hcoarse : value m e = (m * 2 ^ (e - g).toNat : ℕ) * 2 ^ g := by
      have hexponent : e = ((e - g).toNat : ℤ) + g := by omega
      rw [value, hexponent, zpow_add₀ two_ne_zero, zpow_natCast, add_sub_cancel_right,
        Int.toNat_natCast]
      push_cast
      ring
    rw [hcoarse]
    exact_mod_cast hmultiple (m * 2 ^ (e - g).toNat : ℕ)

theorem isClosest_of_nearest {negative neg : Bool} {num den m : ℕ} {e : ℤ} (hnum : 0 < num)
    (hden : 0 < den) (h : nearest negative num den = .finite neg m e) :
    neg = negative ∧ IsClosest (num / den) m e := by
  obtain ⟨hscaled, hquotient⟩ := scaledBy_spec (gridExponent num den) num hden
  set g := gridExponent num den with hg
  set n := roundHalfEven (scaledBy g num den).1 (scaledBy g num den).2 with hn
  have hround : IsRounded (num / den * 2 ^ (-g)) n := by
    rw [← hquotient]
    exact isRounded_roundHalfEven _ hscaled
  have hle : n ≤ 2 * hiddenBit := by
    refine hround.le_of_lt ?_
    have hlt := lt_grid hnum hden
    rw [zpow_neg, ← div_eq_mul_inv, div_lt_iff₀ (by positivity)]
    exact hlt
  have hclosest (m' : ℕ) (e' : ℤ) (hformat : InFormat m' e') :
      |value n g - num / den| ≤ |value m' e' - num / den| :=
    abs_sub_le_of_isRounded hround (grid_le hnum hden) hformat
  have hleast : leastExponent ≤ g := le_max_right _ _
  unfold nearest at h
  rw [if_neg hnum.ne'] at h
  dsimp only at h
  rw [← gridExponent, ← hg, ← hn] at h
  split_ifs at h with hcarry hhuge hhuge
  · obtain ⟨rfl, rfl, rfl⟩ : negative = neg ∧ hiddenBit = m ∧ g + 1 = e := by simpa using h
    refine ⟨rfl, ⟨by decide, by omega⟩, ?_⟩
    have hsame : value hiddenBit (g + 1) = value n g := by
      rw [hcarry, value, value, zpow_add_one₀ two_ne_zero]
      push_cast
      ring
    rw [hsame]
    exact hclosest
  · obtain ⟨rfl, rfl, rfl⟩ : negative = neg ∧ n = m ∧ g = e := by simpa using h
    exact ⟨rfl, ⟨by omega, hleast⟩, hclosest⟩

end Binary64

open Binary64 in
/-- A number other than zero that is read from digits and an exponent is closest to what they say. -/
theorem isClosest_of_ofScientific {negative neg : Bool} {n m : ℕ} {exponent e : ℤ}
    (h : ofScientific negative n exponent = .finite neg m e) (hm : m ≠ 0) :
    neg = negative ∧ IsClosest (n * 10 ^ exponent) m e := by
  have hzero : ∀ {n' e'}, nearest negative 0 1 = .finite neg n' e' → n' = 0 := by
    intro n' e' h
    rw [nearest, if_pos rfl] at h
    injection h with _ hn'
    exact hn'.symm
  unfold ofScientific at h
  dsimp only at h
  split_ifs at h with hn hhigh hlow hneg
  · exact absurd (hzero h) hm
  · exact absurd (hzero h) hm
  · obtain ⟨hsign, hclosest⟩ :=
      isClosest_of_nearest (Nat.pos_of_ne_zero hn) (Nat.pow_pos (by decide)) h
    have hexponent : exponent = -(exponent.natAbs : ℤ) := by omega
    refine ⟨hsign, ?_⟩
    rw [hexponent, zpow_neg, zpow_natCast, ← div_eq_mul_inv]
    exact_mod_cast hclosest
  · obtain ⟨hsign, hclosest⟩ := isClosest_of_nearest
      (Nat.mul_pos (Nat.pos_of_ne_zero hn) (Nat.pow_pos (by decide))) Nat.one_pos h
    have hexponent : exponent = (exponent.natAbs : ℤ) := by omega
    refine ⟨hsign, ?_⟩
    rw [hexponent, zpow_natCast]
    simpa using hclosest

theorem ofScientific_ne_nan (negative : Bool) (n : ℕ) (exponent : ℤ) :
    ofScientific negative n exponent ≠ .nan := by
  have hnearest (num den : ℕ) : Binary64.nearest negative num den ≠ .nan := by
    unfold Binary64.nearest
    dsimp only
    split_ifs <;> simp
  unfold ofScientific
  dsimp only
  split_ifs
  any_goals exact hnearest _ _
  simp

theorem exists_of_read? {text : String} {x : Binary64} (h : read? text = some x) :
    (∃ negative, x = .infinite negative) ∨ x = .nan ∨
      ∃ negative n exponent, x = ofScientific negative n exponent := by
  unfold read? at h
  dsimp only at h
  split_ifs at h
  · exact .inl ⟨_, (Option.some.inj h).symm⟩
  · exact .inr (.inl (Option.some.inj h).symm)
  · unfold readUnsigned? at h
    dsimp only at h
    split_ifs at h
    split at h
    · exact .inr (.inr ⟨_, _, _, (Option.some.inj h).symm⟩)
    · cases h

/-- What is read is a number of the format. -/
theorem inFormat_of_read? {text : String} {negative : Bool} {m : ℕ} {e : ℤ}
    (h : read? text = some (.finite negative m e)) (hm : m ≠ 0) : Binary64.InFormat m e := by
  rcases exists_of_read? h with ⟨_, hinfinite⟩ | hnan | ⟨_, _, _, hscientific⟩
  · cases hinfinite
  · cases hnan
  · exact (isClosest_of_ofScientific hscientific.symm hm).2.toInFormat

end Decimal
end QueryFuzz
