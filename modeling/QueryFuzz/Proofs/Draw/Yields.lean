import Mathlib.Tactic.Ring
import QueryFuzz.Draw.Source

/-!
# What a random program can yield

Each question has a range of answers, and the key stream never leaves it. A property that holds of
the value of a random program whatever the answers in range are holds of the value of every run.
The rules below follow the construction of a program, so such properties are shown of a program
piece by piece.
-/

namespace QueryFuzz
namespace Draw

/-! ## The range of an answer -/

/-- The range of the answers to a question. -/
def Question.Admits : Question → ℕ → Prop
  | below bound, n => n < max bound 1
  | between low high, n =>
    Width.fitsSigned 64 low → Width.fitsSigned 64 high → low ≤ high →
      low ≤ signedOf n ∧ signedOf n ≤ high
  | chance _, n => n ≤ 1
  | unit, _ => True
  | weighted weights, n => n < max weights.length 1

theorem nextNat32_lt (s : KeyStream) : (nextNat32 s).1 < Width.values 32 :=
  s.nextWord.1.toNat_lt

theorem nextNat64_lt (s : KeyStream) : (nextNat64 s).1 < Width.values 64 :=
  s.nextDouble.1.toNat_lt

/-- The high half of a product with a random word is below the other factor, also after a carry
from a second word. -/
theorem scaled_lt {range half : ℕ} {next : KeyStream → ℕ × KeyStream}
    (hnext : ∀ s, (next s).1 < half) (hrange : 0 < range) (s : KeyStream) :
    (scaled range half next s).1 < range := by
  have hx := hnext s
  have hhalf : 0 < half := by omega
  have hhigh : (next s).1 * range / half < range := by
    rw [Nat.div_lt_iff_lt_mul hhalf, Nat.mul_comm range]
    exact Nat.mul_lt_mul_of_pos_right hx hrange
  unfold scaled
  dsimp only
  split_ifs with hlow hcarry
  · set x := (next s).1
    set y := (next (next s).2).1
    have hy : y < half := hnext _
    have hproduct := Nat.div_add_mod (x * range) half
    set high := x * range / half
    set low := x * range % half
    have hsecond : y * range / half * half ≤ y * range := Nat.div_mul_le_self _ _
    by_contra hle
    have heq : high + 1 = range := by omega
    have h1 : half * half ≤ (low + y * range / half) * half := Nat.mul_le_mul_right half hcarry
    have h2 : (high + 1) * (half * half) ≤ (x * half + y) * range := by
      calc (high + 1) * (half * half) = high * half * half + half * half := by ring
        _ ≤ high * half * half + (low + y * range / half) * half := by omega
        _ = (half * high + low) * half + y * range / half * half := by ring
        _ ≤ x * range * half + y * range := by
          rw [hproduct]
          omega
        _ = (x * half + y) * range := by ring
    have h3 : x * half + y < half * half := by
      calc x * half + y < x * half + half := by omega
        _ = (x + 1) * half := by ring
        _ ≤ half * half := Nat.mul_le_mul_right half hx
    rw [heq, Nat.mul_comm range] at h2
    exact absurd (Nat.mul_lt_mul_of_pos_right h3 hrange) (by omega)
  · exact hhigh
  · exact hhigh

theorem answerBelow_lt (bound : ℕ) (s : KeyStream) : (answerBelow bound s).1 < max bound 1 := by
  unfold answerBelow
  split_ifs with hone hsmall
  · exact lt_max_of_lt_right Nat.one_pos
  · exact lt_max_of_lt_left (scaled_lt nextNat32_lt (by omega) s)
  · exact lt_max_of_lt_left (scaled_lt nextNat64_lt (by omega) s)

theorem values_eq : Width.values 64 = 18446744073709551616 := by
  norm_num [Width.values]

theorem fitsSigned_iff (n : ℤ) :
    Width.fitsSigned 64 n ↔ -9223372036854775808 ≤ n ∧ n < 9223372036854775808 := by
  have hvalues : ((Width.values (64 - 1) : ℕ) : ℤ) = 9223372036854775808 := by
    norm_num [Width.values]
  unfold Width.fitsSigned
  rw [hvalues, Bool.and_eq_true, decide_eq_true_iff, decide_eq_true_iff]

theorem signedOf_wordOf {n : ℤ} (h : Width.fitsSigned 64 n) : signedOf (wordOf n) = n := by
  rw [fitsSigned_iff] at h
  unfold signedOf wordOf
  rw [values_eq, Int.toNat_of_nonneg (by omega)]
  unfold Int.bmod
  simp only [Nat.cast_ofNat]
  omega

theorem signedOf_bounds (n : ℕ) :
    -9223372036854775808 ≤ signedOf n ∧ signedOf n ≤ 9223372036854775807 := by
  unfold signedOf
  rw [values_eq]
  unfold Int.bmod
  simp only [Nat.cast_ofNat]
  omega

theorem answerBetween_admits (low high : ℤ) (s : KeyStream) :
    (Question.between low high).Admits (answerBetween low high s).1 := by
  intro hlow hhigh hle
  rw [fitsSigned_iff] at hlow hhigh
  unfold answerBetween
  dsimp only
  split_ifs with hrange
  · rw [values_eq] at hrange
    have hbounds := signedOf_bounds (nextNat64 s).1
    omega
  · have hoffset := scaled_lt nextNat64_lt (show 0 < (high - low + 1).toNat by omega) s
    set offset := (scaled (high - low + 1).toNat (Width.values 64) nextNat64 s).1
    have hfits : Width.fitsSigned 64 (low + offset) := by
      rw [fitsSigned_iff]
      omega
    rw [signedOf_wordOf hfits]
    omega

theorem pickWeighted_lt (target : Float) {weights : List Float} {sum : Float}
    {index chosen bound : ℕ} (hchosen : chosen < bound) (hindex : index + weights.length ≤ bound) :
    pickWeighted target sum index chosen weights < bound := by
  induction weights generalizing sum index chosen with
  | nil => exact hchosen
  | cons w rest ih =>
    rw [List.length_cons] at hindex
    unfold pickWeighted
    dsimp only
    split_ifs
    · exact ih hchosen (by omega)
    · omega
    · exact ih (by omega) (by omega)

/-- The key stream answers every question within its range. -/
theorem Question.answer_admits (q : Question) (s : KeyStream) : q.Admits (q.answer s).1 := by
  cases q with
  | below bound => exact answerBelow_lt bound s
  | between low high => exact answerBetween_admits low high s
  | chance p =>
    show (answerChance p s).1 ≤ 1
    unfold answerChance
    dsimp only
    split_ifs <;> simp
  | unit => trivial
  | weighted weights =>
    show (answerWeighted weights s).1 < max weights.length 1
    unfold answerWeighted
    exact pickWeighted_lt _ (lt_max_of_lt_right Nat.one_pos) (by simp)

namespace Sampling

variable {α β : Type} {P : α → Prop} {Q : β → Prop}

/-! ## Properties of every value -/

/-- Whatever the answers are, the value has the property. -/
def Yields (P : α → Prop) : Sampling α → Prop
  | done a => P a
  | ask _ q next => ∀ n, q.Admits n → (next n).Yields P

theorem Yields.run {p : Sampling α} (h : p.Yields P) (s : KeyStream) : P (p.run s).value := by
  induction p generalizing s with
  | done a => exact h
  | ask label q next ih => exact ih _ (h _ (q.answer_admits s)) _

theorem Yields.mono {P' : α → Prop} {p : Sampling α} (h : p.Yields P) (himp : ∀ a, P a → P' a) :
    p.Yields P' := by
  induction p with
  | done a => exact himp a h
  | ask label q next ih => exact fun n hn => ih n (h n hn)

theorem yields_pure {a : α} (h : P a) : (pure a : Sampling α).Yields P :=
  h

theorem Yields.bind {p : Sampling α} {f : α → Sampling β} (h : p.Yields P)
    (hf : ∀ a, P a → (f a).Yields Q) : (p >>= f).Yields Q := by
  show (Sampling.bind p f).Yields Q
  induction p with
  | done a => exact hf a h
  | ask label q next ih => exact fun n hn => ih n (h n hn)

theorem yields_true (p : Sampling α) : p.Yields fun _ => True := by
  induction p with
  | done a => trivial
  | ask label q next ih => exact fun n _ => ih n

theorem Yields.map {p : Sampling α} {f : α → β} (h : p.Yields fun a => Q (f a)) :
    (f <$> p).Yields Q := by
  show (p >>= fun a => pure (f a)).Yields Q
  exact h.bind fun a ha => ha

theorem yields_index (label : String) (bound : ℕ) :
    (index label bound).Yields (· < max bound 1) :=
  fun _ hn => hn

theorem yields_between {low high : ℤ} (label : String) (hlow : Width.fitsSigned 64 low)
    (hhigh : Width.fitsSigned 64 high) (hle : low ≤ high) :
    (between label low high).Yields fun n => low ≤ n ∧ n ≤ high := by
  intro n hn
  rw [if_pos hle] at hn
  exact hn hlow hhigh hle

/-- One of the items is chosen, if there is one. -/
theorem yields_choose (label : String) (items : List α) :
    (choose label items).Yields fun a =>
      (∃ x ∈ items, a = some x) ∨ (items = [] ∧ a = none) := by
  unfold choose
  split_ifs with hempty
  · exact .inr ⟨List.isEmpty_iff.1 hempty, rfl⟩
  · intro n hn
    have hlength : n < items.length := by
      have hpos := List.length_pos_iff.2 (List.isEmpty_eq_false_iff.1 (by simpa using hempty))
      have : n < max items.length 1 := hn
      omega
    exact .inl ⟨items[n], List.getElem_mem hlength, List.getElem?_eq_getElem hlength⟩

/-- An index of one of the weights; the first one where nothing is asked. -/
theorem yields_weighted (label : String) (weights : List Float) :
    (weighted label weights).Yields fun i => i.getD 0 < max weights.length 1 := by
  unfold weighted
  split_ifs
  · exact lt_max_of_lt_right Nat.one_pos
  · exact fun n hn => hn

attribute [irreducible] Yields

/-! ## Runs of composed programs -/

/-- A program that goes on with another one hands over its key stream. -/
theorem run_bind (p : Sampling α) (f : α → Sampling β) (s : KeyStream) :
    ((p >>= f).run s).value = ((f (p.run s).value).run (p.run s).rest).value ∧
      ((p >>= f).run s).rest = ((f (p.run s).value).run (p.run s).rest).rest := by
  show ((Sampling.bind p f).run s).value = _ ∧ ((Sampling.bind p f).run s).rest = _
  induction p generalizing s with
  | done a => exact ⟨rfl, rfl⟩
  | ask label q next ih => exact ih _ _

/-! ## Both answers to a chance -/

/-- Does every outcome on a key stream pass, whichever answer each chance gets? A certain chance
takes nothing from the stream. -/
def everyOutcome (pass : α → Bool) (s : KeyStream) : Sampling α → Bool
  | done a => pass a
  | ask _ (.chance _) next =>
    everyOutcome pass s (next 1) && everyOutcome pass s.nextDouble.2 (next 1) &&
      everyOutcome pass s.nextDouble.2 (next 0)
  | ask _ q next => everyOutcome pass (q.answer s).2 (next (q.answer s).1)

theorem answerChance_cases (probability : Float) (s : KeyStream) :
    answerChance probability s = (1, s) ∨ answerChance probability s = (1, s.nextDouble.2) ∨
      answerChance probability s = (0, s.nextDouble.2) := by
  unfold answerChance
  dsimp only
  split_ifs
  · exact .inl rfl
  · exact .inr (.inl rfl)
  · exact .inr (.inr rfl)

/-- Probabilities are compared as floating-point numbers, so a run with a chance is told from its
possible outcomes. -/
theorem pass_of_everyOutcome {pass : α → Bool} {p : Sampling α} {s : KeyStream}
    (h : everyOutcome pass s p) : pass (p.run s).value := by
  induction p generalizing s with
  | done a => exact h
  | ask label q next ih =>
    show pass ((next (q.answer s).1).run (q.answer s).2).value
    cases q with
    | chance probability =>
      obtain ⟨hcases, hno⟩ := Bool.and_eq_true_iff.1 h
      obtain ⟨hcertain, hyes⟩ := Bool.and_eq_true_iff.1 hcases
      rw [Question.answer]
      rcases answerChance_cases probability s with heq | heq | heq <;> rw [heq]
      · exact ih 1 hcertain
      · exact ih 1 hyes
      · exact ih 0 hno
    | _ => exact ih _ h

end Sampling
end Draw
end QueryFuzz
