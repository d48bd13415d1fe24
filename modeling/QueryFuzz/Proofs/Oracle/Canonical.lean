import QueryFuzz.Oracle.Value
import QueryFuzz.Proofs.Decimal.Figures
import QueryFuzz.Proofs.Decimal.Nearest
import QueryFuzz.Proofs.Decimal.Printing

/-!
# Canonical values read again

The print of an integer stands for the same integer. The print of a real has lost digits, and what
it stands for depends on the closest number of double precision: it may be whole, or beyond the
largest number, and otherwise is a real with the same digits, but for one that lies too far below a
power of ten. Everywhere else the closest number is at least as close to the print as the number
that was printed, and so has the same digits.
-/

namespace QueryFuzz
namespace Oracle

open Decimal Binary64

/-! ## What a canonical value can be -/

/-- The values that a text can have: null, itself, an integer of 128 bits, or the print of a number
that is not whole. -/
inductive Arises (raw : String) (digits : ℕ) : Value → Prop where
  | null : Arises raw digits .null
  | text : Arises raw digits (.text raw)
  | integer {n : ℤ} (hfits : Width.fitsSigned 128 n) : Arises raw digits (.integer n)
  | real {negative : Bool} {m : ℕ} {e : ℤ} (hread : read? raw = some (.finite negative m e))
      (hwhole : wholeNumber? negative m e = none) :
      Arises raw digits (.real (scientificText (max digits 1) negative m e))

theorem fitsSigned_of_wholeNumber? {negative : Bool} {m : ℕ} {e n : ℤ}
    (h : wholeNumber? negative m e = some n) : Width.fitsSigned 128 n := by
  have hwide : Width.values 63 ≤ Width.values (128 - 1) := by decide
  unfold wholeNumber? at h
  dsimp only at h
  split_ifs at h with hwhole hnegative
  all_goals
    obtain rfl := Option.some.inj h
    have hlt := hwhole.2
    generalize (magnitude m e).1 / (magnitude m e).2 = whole at hlt
    simp only [Width.fitsSigned, Bool.and_eq_true, decide_eq_true_eq]
    omega

theorem arises_ofDecimal (raw : String) (digits : ℕ) : Arises raw digits (ofDecimal raw digits) := by
  unfold ofDecimal
  split
  · rename_i negative m e hread
    split_ifs
    · unfold ofNumber
      split
      · rename_i n hwhole
        exact .integer (fitsSigned_of_wholeNumber? hwhole)
      · rename_i hwhole
        exact .real hread hwhole
    · exact .text
  · exact .text

theorem arises_canonical (raw : String) (digits : ℕ) : Arises raw digits (canonical raw digits) := by
  unfold canonical
  split_ifs
  · exact .null
  · split
    · split_ifs with hfits
      · exact .integer hfits
      · exact arises_ofDecimal raw digits
    · exact arises_ofDecimal raw digits

/-! ## The print of an integer -/

theorem canonical_toString {n : ℤ} (h : Width.fitsSigned 128 n) (digits : ℕ) :
    canonical (toString n) digits = .integer n := by
  have hne : toString n ≠ "" := by
    intro hempty
    have hread := readInteger?_toString n
    rw [hempty] at hread
    cases hread
  rw [canonical, if_neg hne, readInteger?_toString]
  simp only [h, if_true]

/-! ## The print of a real -/

/-- Zero is whole. -/
theorem ne_zero_of_wholeNumber? {negative : Bool} {m : ℕ} {e : ℤ}
    (h : wholeNumber? negative m e = none) : m ≠ 0 := by
  rintro rfl
  have hzero : (magnitude 0 e).1 = 0 := by
    unfold magnitude
    split_ifs <;> simp
  unfold wholeNumber? at h
  dsimp only at h
  rw [hzero, Nat.zero_mod, Nat.zero_div, if_pos ⟨rfl, by decide⟩] at h
  cases h

theorem scientificText_eq {count m : ℕ} (hm : m ≠ 0) (negative : Bool) (e : ℤ) :
    scientificText count negative m e = signText negative ++
      (Figures.exact count (magnitude m e).1 (magnitude m e).2).scientific false := by
  rw [scientificText, if_neg hm]

theorem looksNumeric_scientific (negative : Bool) (f : Figures) :
    looksNumeric (signText negative ++ f.scientific false) := by
  obtain ⟨c, rest, -, hc, -, hchars⟩ := exists_toList_scientific negative f
  rw [looksNumeric, hchars]
  cases negative with
  | false => simp [signChars, hc]
  | true => simp [signChars]

/-- The print of a number is read as the closest number of double precision. -/
theorem canonical_scientific (negative : Bool) (f : Figures) (digits : ℕ) :
    canonical (signText negative ++ f.scientific false) digits =
      match ofScientific negative f.digits f.exponent with
      | .finite negative m e => ofNumber negative m e digits
      | _ => .text (signText negative ++ f.scientific false) := by
  have hnumeric := looksNumeric_scientific negative f
  have hne : signText negative ++ f.scientific false ≠ "" := by
    intro hempty
    rw [hempty] at hnumeric
    cases hnumeric
  rw [canonical, if_neg hne, readInteger?_scientific, ofDecimal, read?_scientific]
  dsimp only
  cases ofScientific negative f.digits f.exponent with
  | finite negative m e => exact if_pos hnumeric
  | infinite => rfl
  | nan => rfl

theorem exact_magnitude_iff {k m : ℕ} {e : ℤ} {f : Figures} (hm : m ≠ 0) :
    Figures.exact (k + 1) (magnitude m e).1 (magnitude m e).2 = f ↔
      Figures.IsExact k (value m e) f := by
  obtain ⟨hden, hvalue⟩ := magnitude_spec m e
  rw [← hvalue]
  exact Figures.exact_eq_iff (magnitude_pos hm e) hden

/-- The closest number to the print of a number has the same digits, if it does not lie too far
below a power of ten. -/
theorem exact_again {k m m' : ℕ} {e e' : ℤ} {negative negative' : Bool} {f : Figures}
    (hf : Figures.IsExact k (value m e) f) (hformat : InFormat m e) (hm' : m' ≠ 0)
    (h : ofScientific negative f.digits f.exponent = .finite negative' m' e') :
    Figures.exact (k + 1) (magnitude m' e').1 (magnitude m' e').2 = f ↔
      ¬Figures.Slips k (value m' e') f := by
  have hcloser : |f.value - value m' e'| ≤ |f.value - value m e| := by
    rw [abs_sub_comm, abs_sub_comm f.value]
    exact (isClosest_of_ofScientific h hm').2.closest m e hformat
  exact (exact_magnitude_iff hm').trans (hf.iff_of_closer hcloser)

theorem signText_append_inj {negative : Bool} {f f' : Figures} :
    signText negative ++ f.scientific false = signText negative ++ f'.scientific false ↔ f = f' := by
  constructor
  · intro h
    exact scientific_injective ((String.append_right_inj _).1 h)
  · rintro rfl
    rfl

/-- The print of a canonical value stands for the value, or for what the closest number to the
print is: a whole number, none that is finite, or a real that lies so far below a power of ten that
it has digits of its own. -/
theorem canonical_display (raw : String) (digits : ℕ) :
    match canonical raw digits with
    | .integer n => canonical (Value.integer n).display digits = .integer n
    | .real s =>
      match read? s with
      | some (.finite negative m e) =>
        match wholeNumber? negative m e with
        | some n => canonical (Value.real s).display digits = .integer n
        | none => ∃ (f : Figures) (s' : String),
            s = signText negative ++ f.scientific false ∧
            10 ^ (max digits 1 - 1) ≤ f.digits ∧ f.digits < 10 ^ max digits 1 ∧
            IsClosest f.value m e ∧
            canonical (Value.real s).display digits = .real s' ∧
            (s' = s ↔ ¬Figures.Slips (max digits 1 - 1) (value m e) f)
      | some (.infinite _) => canonical (Value.real s).display digits = .text s
      | _ => False
    | _ => True := by
  have harises := arises_canonical raw digits
  revert harises
  generalize canonical raw digits = v
  intro harises
  cases harises with
  | null => trivial
  | text => trivial
  | integer hfits => exact canonical_toString hfits digits
  | @real negative m e hread hwhole =>
    obtain ⟨k, hk⟩ : ∃ k, max digits 1 = k + 1 := ⟨max digits 1 - 1, by omega⟩
    have hm := ne_zero_of_wholeNumber? hwhole
    have hformat := inFormat_of_read? hread hm
    obtain ⟨f, hf⟩ : ∃ f, Figures.exact (k + 1) (magnitude m e).1 (magnitude m e).2 = f := ⟨_, rfl⟩
    have hexact := (exact_magnitude_iff hm).1 hf
    rw [hk, Nat.add_sub_cancel, scientificText_eq hm, hf]
    dsimp only [Value.display]
    rw [read?_scientific, canonical_scientific]
    cases hagain : ofScientific negative f.digits f.exponent with
    | infinite => rfl
    | nan => exact absurd hagain (ofScientific_ne_nan _ _ _)
    | finite negative' m' e' =>
      dsimp only
      cases hwhole' : wholeNumber? negative' m' e' with
      | some n =>
        dsimp only
        rw [ofNumber, hwhole']
      | none =>
        have hm' := ne_zero_of_wholeNumber? hwhole'
        obtain ⟨rfl, hclosest⟩ := isClosest_of_ofScientific hagain hm'
        refine ⟨f, scientificText (k + 1) negative' m' e', rfl, hexact.digits_bounds.1,
          hexact.digits_bounds.2, hclosest, ?_, ?_⟩
        · rw [ofNumber, hwhole', hk]
        · rw [scientificText_eq hm', signText_append_inj]
          exact exact_again hexact hformat hm' hagain

/-- The print of a real does not always stand for the real. A number just below one is printed as
one, which is whole; the closest number to a power of ten can be too far below it to keep its
digits; and the print of the largest number is beyond it. -/
theorem canonical_display_changes :
    (canonical "0.9999999999999" 12 = .real "1.00000000000e0" ∧
      canonical (Value.real "1.00000000000e0").display 12 = .integer 1) ∧
    (canonical "1.0000000000000001e23" 16 = .real "1.000000000000000e23" ∧
      canonical (Value.real "1.000000000000000e23").display 16 = .real "9.999999999999999e22") ∧
    (canonical "1.7976931348623157e308" 1 = .real "2e308" ∧
      canonical (Value.real "2e308").display 1 = .text "2e308") := by
  decide +kernel

end Oracle
end QueryFuzz
