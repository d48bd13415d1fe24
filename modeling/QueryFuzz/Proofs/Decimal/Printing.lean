import Mathlib.Data.List.Basic
import Mathlib.Data.List.TakeWhile
import QueryFuzz.Decimal.Digits
import QueryFuzz.Decimal.Reading

/-!
# What is written is read back

Whole numbers are read back from their digits. A number in scientific form is read as its digits
and its exponent: the places behind the point and the exponent behind the mark cancel out.
-/

namespace QueryFuzz
namespace Decimal

/-! ## Whole numbers -/

theorem splitSign_of_isDigit {cs : List Char} (h : ∀ c ∈ cs.head?, c.isDigit) :
    splitSign cs = (false, cs) := by
  unfold splitSign
  split
  · exact absurd (h '-' rfl) (by decide)
  · exact absurd (h '+' rfl) (by decide)
  · rfl

/-- The sign that is written in front of a number. -/
def signChars (negative : Bool) : List Char := if negative then ['-'] else []

theorem splitSign_signChars (negative : Bool) {cs : List Char} (h : ∀ c ∈ cs.head?, c.isDigit) :
    splitSign (signChars negative ++ cs) = (negative, cs) := by
  cases negative with
  | false => exact splitSign_of_isDigit h
  | true => rfl

theorem readInteger?_digits (negative : Bool) {cs : List Char} (hne : cs ≠ [])
    (h : ∀ c ∈ cs, c.isDigit) : readInteger? (signChars negative ++ cs) =
      some (if negative then -(digitsValue cs : ℤ) else digitsValue cs) := by
  have hhead : ∀ c ∈ cs.head?, c.isDigit := fun c hc => h c (List.mem_of_mem_head? hc)
  have hall : cs.all Char.isDigit := List.all_eq_true.2 h
  rw [readInteger?, splitSign_signChars negative hhead]
  simp [hne, hall]

theorem isDigit_toDigits (n : ℕ) : ∀ c ∈ Nat.toDigits 10 n, c.isDigit :=
  fun _ => Nat.isDigit_of_mem_toDigits (by decide) (by decide)

theorem digitsValue_toDigits (n : ℕ) : digitsValue (Nat.toDigits 10 n) = n :=
  Nat.ofDigitChars_ten_toDigits

theorem toList_toString (k : ℤ) :
    (toString k).toList = signChars (decide (k < 0)) ++ Nat.toDigits 10 k.natAbs := by
  rw [Int.toString_eq_repr, Int.repr_eq_if]
  split_ifs with hk
  · have hnatAbs : k.toNat = k.natAbs := by omega
    simp [signChars, hk, hnatAbs, Nat.toList_repr]
  · have hnatAbs : (-k).toNat = k.natAbs := by omega
    simp [signChars, Int.not_le.1 hk, hnatAbs, Nat.toList_repr]

theorem readInteger?_toString (k : ℤ) : readInteger? (toString k).toList = some k := by
  rw [toList_toString, readInteger?_digits _ Nat.toDigits_ne_nil (isDigit_toDigits _),
    digitsValue_toDigits]
  by_cases hk : k < 0
  · simp only [hk, decide_true, if_true, Option.some.injEq]
    omega
  · simp only [hk, decide_false, Bool.false_eq_true, if_false, Option.some.injEq]
    omega

/-! ## Scientific form -/

/-- The digits behind the point, with the point. -/
def pointed : List Char → List Char
  | [] => []
  | ds => '.' :: ds

theorem exists_text (f : Figures) :
    ∃ c rest, f.text = c :: rest ∧ c.isDigit ∧ ∀ d ∈ rest, d.isDigit := by
  obtain ⟨c, rest, htext⟩ := List.exists_cons_of_ne_nil (show f.text ≠ [] from Nat.toDigits_ne_nil)
  have hdigits : ∀ d ∈ c :: rest, d.isDigit := by
    rw [← htext]
    exact isDigit_toDigits _
  exact ⟨c, rest, htext, List.forall_mem_cons.1 hdigits⟩

theorem toList_scientific {f : Figures} {c : Char} {rest : List Char} (h : f.text = c :: rest) :
    (f.scientific false).toList = c :: (pointed rest ++ 'e' :: (toString f.order).toList) := by
  unfold Figures.scientific
  rw [h]
  cases rest with
  | nil => simp [pointed]
  | cons d rest => simp [pointed]

theorem readUnsigned?_pointed (negative : Bool) {c : Char} {rest cs : List Char} {exponent : ℤ}
    (hc : c.isDigit) (hrest : ∀ d ∈ rest, d.isDigit) (hexponent : readInteger? cs = some exponent) :
    readUnsigned? negative (c :: (pointed rest ++ 'e' :: cs)) =
      some (ofScientific negative (digitsValue (c :: rest)) (exponent - rest.length)) := by
  have hmark : Char.isDigit 'e' = false := by decide
  cases rest with
  | nil => simp [readUnsigned?, pointed, hc, hmark, readExponent?, hexponent]
  | cons d rest =>
    have hpoint : Char.isDigit '.' = false := by decide
    have hfraction : (d :: rest ++ 'e' :: cs).takeWhile Char.isDigit = d :: rest := by
      rw [List.takeWhile_append_of_pos hrest, List.takeWhile_cons_of_neg (by simp [hmark]),
        List.append_nil]
    simp only [readUnsigned?, pointed, List.cons_append, List.takeWhile_cons_of_pos hc,
      List.takeWhile_cons_of_neg (show ¬Char.isDigit '.' by simp [hpoint])] at hfraction ⊢
    simp [hfraction, readExponent?, hexponent]

theorem toLower_of_isDigit {c : Char} (h : c.isDigit) : c.toLower = c := by
  unfold Char.toLower
  rw [dif_neg]
  simp only [Char.isDigit, Bool.and_eq_true, decide_eq_true_eq, UInt32.le_iff_toNat_le, ge_iff_le,
    Char.reduceVal, UInt32.reduceToNat] at h ⊢
  omega

/-- The words for infinity and for no number begin with a letter. -/
theorem read?_of_isDigit {negative : Bool} {cs : List Char} {text : String}
    (htext : text.toList = signChars negative ++ cs) (h : cs.head?.any Char.isDigit) :
    read? text = readUnsigned? negative cs := by
  cases cs with
  | nil => simp at h
  | cons c cs =>
    have hc : c.isDigit := by simpa using h
    have hletter (word : String) (hword : word.toList.head?.any Char.isDigit = false) :
        String.ofList ((c :: cs).map Char.toLower) ≠ word := by
      rintro rfl
      simp [toLower_of_isDigit hc, hc] at hword
    unfold read?
    rw [htext, splitSign_signChars negative (by simpa using hc)]
    dsimp only
    rw [if_neg, if_neg]
    · exact hletter "nan" (by decide)
    · rintro (hinf | hinf)
      · exact hletter "inf" (by decide) hinf
      · exact hletter "infinity" (by decide) hinf

/-- A number in scientific form with its sign, character by character. -/
theorem exists_toList_scientific (negative : Bool) (f : Figures) :
    ∃ c rest, f.text = c :: rest ∧ c.isDigit ∧ (∀ d ∈ rest, d.isDigit) ∧
      (signText negative ++ f.scientific false).toList =
        signChars negative ++ c :: (pointed rest ++ 'e' :: (toString f.order).toList) := by
  obtain ⟨c, rest, htext, hc, hrest⟩ := exists_text f
  refine ⟨c, rest, htext, hc, hrest, ?_⟩
  have hsign : (signText negative).toList = signChars negative := by cases negative <;> rfl
  rw [String.toList_append, hsign, toList_scientific htext]

theorem read?_scientific (negative : Bool) (f : Figures) :
    read? (signText negative ++ f.scientific false) =
      some (ofScientific negative f.digits f.exponent) := by
  obtain ⟨c, rest, htext, hc, hrest, hchars⟩ := exists_toList_scientific negative f
  have hvalue : digitsValue (c :: rest) = f.digits := by
    rw [← htext]
    exact digitsValue_toDigits f.digits
  have hexponent : f.order - rest.length = f.exponent := by
    rw [Figures.order, htext, List.length_cons]
    push_cast
    omega
  rw [read?_of_isDigit hchars (by simpa using hc),
    readUnsigned?_pointed negative hc hrest (readInteger?_toString f.order), hvalue, hexponent]

/-- The mark of the exponent keeps it from being read as a whole number. -/
theorem readInteger?_scientific (negative : Bool) (f : Figures) :
    readInteger? (signText negative ++ f.scientific false).toList = none := by
  obtain ⟨c, rest, -, hc, -, hchars⟩ := exists_toList_scientific negative f
  have hmark : Char.isDigit 'e' = false := by decide
  rw [hchars, readInteger?, splitSign_signChars negative (by simpa using hc)]
  simp [hmark]

theorem pointed_injective {ds es : List Char} (h : pointed ds = pointed es) : ds = es := by
  cases ds with
  | nil =>
    cases es with
    | nil => rfl
    | cons e es => cases h
  | cons d ds =>
    cases es with
    | nil => cases h
    | cons e es => exact (List.cons.inj h).2

theorem notMem_pointed {ds : List Char} (h : ∀ d ∈ ds, d.isDigit) : 'e' ∉ pointed ds := by
  intro hmem
  cases ds with
  | nil => cases hmem
  | cons d ds =>
    rcases List.mem_cons.1 hmem with hpoint | hmem
    · cases hpoint
    · exact absurd (h 'e' hmem) (by decide)

theorem notMem_toString (k : ℤ) : 'e' ∉ (toString k).toList := by
  rw [toList_toString, List.mem_append, not_or]
  constructor
  · unfold signChars
    split_ifs <;> decide
  · exact fun hmem => absurd (isDigit_toDigits _ 'e' hmem) (by decide)

/-- The digits in front of the mark and the exponent behind it determine the figures. -/
theorem scientific_injective {f f' : Figures} (h : f.scientific false = f'.scientific false) :
    f = f' := by
  obtain ⟨c, rest, htext, -, hrest⟩ := exists_text f
  obtain ⟨c', rest', htext', -, hrest'⟩ := exists_text f'
  have hform := toList_scientific htext
  rw [h, toList_scientific htext'] at hform
  obtain ⟨rfl, htail⟩ := List.cons.inj hform
  obtain ⟨hpointed, -, horder⟩ :=
    (List.append_cons_inj_of_notMem (notMem_pointed hrest') (notMem_toString f'.order)).1 htail
  obtain rfl := pointed_injective hpointed
  have hdigits : f.digits = f'.digits := by
    have htexts : Nat.toDigits 10 f.digits = Nat.toDigits 10 f'.digits := htext.trans htext'.symm
    rw [← digitsValue_toDigits f.digits, htexts, digitsValue_toDigits]
  have horders : f.order = f'.order := by
    have hread := readInteger?_toString f.order
    rw [← horder, readInteger?_toString] at hread
    exact (Option.some.inj hread).symm
  have hexponent : f.exponent = f'.exponent := by
    rw [Figures.order, Figures.order, htext, htext'] at horders
    omega
  obtain ⟨digits, exponent⟩ := f
  obtain ⟨digits', exponent'⟩ := f'
  obtain rfl : digits = digits' := hdigits
  obtain rfl : exponent = exponent' := hexponent
  rfl

end Decimal
end QueryFuzz
