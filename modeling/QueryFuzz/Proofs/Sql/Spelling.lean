import Mathlib.Data.List.TakeWhile
import Mathlib.Tactic.IntervalCases
import QueryFuzz.Sql.Lexer

/-!
# The parts of a lexeme

Runs of characters, texts between marks, numbers and operators, each stated without the scanner.
For every part there are two facts: what the scanner measures is such a part, and the scanner
measures the whole part where a character follows that cannot continue it.
-/

namespace QueryFuzz
namespace Sql

/-! ## Runs of characters -/

theorem runLength_append {p : Char → Bool} {run after : List Char} (h : ∀ c ∈ run, p c)
    (hafter : ∀ c ∈ after.head?, p c = false) : runLength p (run ++ after) = run.length := by
  have hstop : after.takeWhile p = [] := by
    cases after with
    | nil => rfl
    | cons c rest => simp [hafter c rfl]
  rw [runLength, List.takeWhile_append_of_pos h, hstop, List.append_nil]

theorem take_runLength (p : Char → Bool) (cs : List Char) :
    cs.take (runLength p cs) = cs.takeWhile p :=
  (List.prefix_iff_eq_take.1 (List.takeWhile_prefix p)).symm

theorem mem_take_runLength {p : Char → Bool} {cs : List Char} {c : Char}
    (h : c ∈ cs.take (runLength p cs)) : p c := by
  rw [take_runLength] at h
  exact List.mem_takeWhile_imp h

theorem runLength_ne_zero {p : Char → Bool} {cs : List Char} (h : cs.head?.any p) :
    runLength p cs ≠ 0 := by
  cases cs with
  | nil => simp at h
  | cons c rest => simp [runLength, show p c from by simpa using h]

theorem take_runLength_ne_nil {p : Char → Bool} {cs : List Char} (h : runLength p cs ≠ 0) :
    cs.take (runLength p cs) ≠ [] := by
  rw [take_runLength]
  intro hnil
  exact h (by rw [runLength, hnil, List.length_nil])

/-! ## Characters that end a lexeme -/

/-- Blanks and marks that belong to no other lexeme; only a point can continue a number. -/
def isStop (c : Char) : Bool :=
  [' ', ',', ')', '.', ';', '('].contains c

theorem stop_cases {c : Char} (h : isStop c) :
    c = ' ' ∨ c = ',' ∨ c = ')' ∨ c = '.' ∨ c = ';' ∨ c = '(' := by
  simpa [isStop] using h

theorem isWordChar_of_isStop {c : Char} (h : isStop c) : isWordChar c = false := by
  rcases stop_cases h with rfl | rfl | rfl | rfl | rfl | rfl <;> decide

theorem isDigit_of_isStop {c : Char} (h : isStop c) : c.isDigit = false := by
  rcases stop_cases h with rfl | rfl | rfl | rfl | rfl | rfl <;> decide

theorem ne_of_isStop {c d : Char} (h : isStop c) (hd : isStop d = false) : c ≠ d := by
  rintro rfl
  simp [h] at hd

theorem digit_cases {c : Char} (h : c.isDigit) :
    c ∈ ['0', '1', '2', '3', '4', '5', '6', '7', '8', '9'] := by
  have hval : 48 ≤ c.toNat ∧ c.toNat ≤ 57 := by simpa [Char.isDigit, UInt32.le_iff_toNat_le] using h
  have hc : c = Char.ofNat c.toNat := (Char.ofNat_toNat c).symm
  generalize c.toNat = n at hval hc
  subst hc
  obtain ⟨h1, h2⟩ := hval
  interval_cases n <;> decide

/-! ## Characters that continue a number -/

theorem isAlphanumeric_of_isDigit {c : Char} (h : c.isDigit) : Text.isAlphanumeric c := by
  have hall : ['0', '1', '2', '3', '4', '5', '6', '7', '8', '9'].all Text.isAlphanumeric := by
    decide
  exact List.all_eq_true.1 hall c (digit_cases h)

theorem isAlphanumeric_of_isHexDigit {c : Char} (h : Text.isHexDigit c) :
    Text.isAlphanumeric c := by
  have hcases : c.isDigit ∨ ('a' ≤ c ∧ c ≤ 'f') ∨ ('A' ≤ c ∧ c ≤ 'F') := by
    simpa [Text.isHexDigit, or_assoc] using h
  rcases hcases with hdigit | hletter
  · exact isAlphanumeric_of_isDigit hdigit
  · have hbounds : (97 ≤ c.toNat ∧ c.toNat ≤ 102) ∨ (65 ≤ c.toNat ∧ c.toNat ≤ 70) := by
      simpa [Char.le_def, UInt32.le_iff_toNat_le] using hletter
    rw [← Char.ofNat_toNat c]
    rcases hbounds with ⟨hlow, hhigh⟩ | ⟨hlow, hhigh⟩ <;> interval_cases c.toNat <;> decide

theorem isDigit_eq_false {c : Char} (h : Text.isAlphanumeric c = false) : c.isDigit = false := by
  by_contra hdigit
  simp [isAlphanumeric_of_isDigit (by simpa using hdigit)] at h

theorem isHexDigit_eq_false {c : Char} (h : Text.isAlphanumeric c = false) :
    Text.isHexDigit c = false := by
  by_contra hdigit
  simp [isAlphanumeric_of_isHexDigit (by simpa using hdigit)] at h

theorem ne_of_isAlphanumeric {c d : Char} (h : Text.isAlphanumeric c = false)
    (hd : Text.isAlphanumeric d) : c ≠ d := by
  rintro rfl
  simp [hd] at h

theorem isAlphanumeric_of_isStop {c : Char} (h : isStop c) : Text.isAlphanumeric c = false := by
  rcases stop_cases h with rfl | rfl | rfl | rfl | rfl | rfl <;> decide

/-! ## Texts between marks -/

/-- The characters between two marks: the closing one only occurs doubled, a bracket never. -/
inductive Enclosable (close : Char) : List Char → Prop
  | nil : Enclosable close []
  | char {c cs} : c ≠ close → Enclosable close cs → Enclosable close (c :: cs)
  | pair {cs} : close ≠ ']' → Enclosable close cs → Enclosable close (close :: close :: cs)

theorem quotedLength_of_ne {close c : Char} (h : c ≠ close) (cs : List Char) :
    quotedLength close (c :: cs) = (quotedLength close cs).map (· + 1) := by
  rw [quotedLength.eq_def]
  simp [h]

theorem quotedLength_append {close : Char} {body after : List Char} (h : Enclosable close body)
    (hafter : ∀ c ∈ after.head?, c ≠ close) :
    quotedLength close (body ++ close :: after) = some (body.length + 1) := by
  induction h with
  | nil =>
    cases after with
    | nil => simp [quotedLength]
    | cons c rest => simp [quotedLength, hafter c rfl]
  | char hne _ ih =>
    rw [List.cons_append, quotedLength_of_ne hne, ih]
    rfl
  | pair hclose _ ih => simp [quotedLength, hclose, ih]

theorem exists_enclosable_of_quotedLength {close : Char} {cs : List Char} {n : ℕ}
    (h : quotedLength close cs = some n) :
    ∃ body after, cs = body ++ close :: after ∧ n = body.length + 1 ∧ Enclosable close body := by
  fun_induction quotedLength close cs generalizing n with
  | case1 => simp at h
  | case2 d rest hd ih =>
    obtain ⟨m, hm, rfl⟩ := Option.map_eq_some_iff.1 h
    obtain ⟨body, after, rfl, rfl, hbody⟩ := ih hm
    obtain ⟨rfl, hclose⟩ := hd
    exact ⟨d :: d :: body, after, rfl, rfl, .pair hclose hbody⟩
  | case3 d rest =>
    obtain rfl := Option.some.inj h
    exact ⟨[], d :: rest, rfl, rfl, .nil⟩
  | case4 =>
    obtain rfl := Option.some.inj h
    exact ⟨[], [], rfl, rfl, .nil⟩
  | case5 c rest hc ih =>
    obtain ⟨m, hm, rfl⟩ := Option.map_eq_some_iff.1 h
    obtain ⟨body, after, rfl, rfl, hbody⟩ := ih hm
    exact ⟨c :: body, after, rfl, rfl, .char hc hbody⟩

theorem quotedLength_take {close : Char} {cs : List Char} {n : ℕ}
    (h : quotedLength close cs = some n) :
    ∃ body, cs.take n = body ++ [close] ∧ n = body.length + 1 ∧ Enclosable close body := by
  obtain ⟨body, after, rfl, rfl, hbody⟩ := exists_enclosable_of_quotedLength h
  exact ⟨body, by simp [List.take_append, List.take_of_length_le], rfl, hbody⟩

/-! ## Numbers -/

/-- A decimal point and the digits behind it, or nothing. -/
inductive Fraction : List Char → Prop
  | none : Fraction []
  | point {ds} : (∀ d ∈ ds, d.isDigit) → Fraction ('.' :: ds)

/-- An exponent with at least one digit, or nothing. -/
inductive Exponent : List Char → Prop
  | none : Exponent []
  | some {e sign ds} : e = 'e' ∨ e = 'E' → sign = [] ∨ sign = ['+'] ∨ sign = ['-'] → ds ≠ [] →
      (∀ d ∈ ds, d.isDigit) → Exponent (e :: (sign ++ ds))

/-- Does the text begin like a number: with a digit, or with a point in front of a digit? -/
def startsNumber : List Char → Bool
  | [] => false
  | c :: rest => c.isDigit || (c == '.' && rest.head?.any Char.isDigit)

/-- The spellings of numbers. -/
inductive Numeral : TokenKind → List Char → Prop
  | hex {x ds} : x = 'x' ∨ x = 'X' → ds ≠ [] → (∀ d ∈ ds, Text.isHexDigit d) →
      Numeral .integer ('0' :: x :: ds)
  | decimal {ds} : ds ≠ [] → (∀ d ∈ ds, d.isDigit) → Numeral .integer ds
  | float {whole fraction exponent} : (∀ d ∈ whole, d.isDigit) → Fraction fraction →
      Exponent exponent → fraction ≠ [] ∨ exponent ≠ [] →
      startsNumber (whole ++ fraction ++ exponent) → Numeral .float (whole ++ fraction ++ exponent)

/-- Is a number written with the mark of hexadecimal digits? -/
def hexMarked : List Char → Bool
  | '0' :: x :: _ => x == 'x' || x == 'X'
  | _ => false

theorem fraction_take (cs : List Char) : Fraction (cs.take (fractionLength cs)) := by
  unfold fractionLength
  split
  · rw [Nat.add_comm, List.take_succ_cons]
    exact .point fun d hd => mem_take_runLength hd
  · rw [List.take_zero]
    exact .none

theorem exponentLength_cons (e : Char) (rest : List Char) :
    ∃ sign, (rest.take sign = [] ∨ rest.take sign = ['+'] ∨ rest.take sign = ['-']) ∧
      exponentLength (e :: rest) =
        if (e = 'e' ∨ e = 'E') ∧ runLength Char.isDigit (rest.drop sign) ≠ 0 then
          1 + sign + runLength Char.isDigit (rest.drop sign)
        else 0 := by
  cases rest with
  | nil => exact ⟨0, .inl rfl, rfl⟩
  | cons s rest =>
    by_cases h : s = '+' ∨ s = '-'
    · exact ⟨1, .inr (by simpa using h), by simp [exponentLength, h]⟩
    · exact ⟨0, .inl rfl, by simp [exponentLength, h]⟩

theorem exponent_take (cs : List Char) : Exponent (cs.take (exponentLength cs)) := by
  cases cs with
  | nil => exact .none
  | cons e rest =>
    obtain ⟨sign, hsign, hlength⟩ := exponentLength_cons e rest
    rw [hlength]
    split_ifs with h
    · obtain ⟨he, hdigits⟩ := h
      rw [Nat.add_assoc, Nat.add_comm 1, List.take_succ_cons, List.take_add]
      exact .some he hsign (take_runLength_ne_nil hdigits) fun d hd => mem_take_runLength hd
    · exact .none

theorem hexLength_take {cs : List Char} {n : ℕ} (h : hexLength cs = some n) :
    n ≠ 0 ∧ Numeral .integer (cs.take n) := by
  unfold hexLength at h
  split at h
  · rename_i x rest
    split_ifs at h with hx
    obtain ⟨hx, hrun⟩ := hx
    obtain rfl := Option.some.inj h
    refine ⟨by omega, ?_⟩
    rw [Nat.add_comm, List.take_succ_cons, List.take_succ_cons]
    exact .hex hx (take_runLength_ne_nil hrun) fun d hd => mem_take_runLength hd
  · simp at h

theorem startsNumber_take {cs : List Char} (h : startsNumber cs) :
    startsNumber (cs.take (runLength Char.isDigit cs) ++
      (cs.drop (runLength Char.isDigit cs)).take
        (fractionLength (cs.drop (runLength Char.isDigit cs)))) := by
  cases cs with
  | nil => simp [startsNumber] at h
  | cons c rest =>
    by_cases hc : c.isDigit
    · simp [runLength, hc, startsNumber]
    · obtain ⟨rfl, hrest⟩ : c = '.' ∧ rest.head?.any Char.isDigit := by
        simpa [startsNumber, hc] using h
      cases rest with
      | nil => simp at hrest
      | cons d rest =>
        have hd : d.isDigit := by simpa using hrest
        simp [runLength, fractionLength, startsNumber, hd, Nat.add_comm 1]

theorem startsNumber_append {cs : List Char} (h : startsNumber cs) (after : List Char) :
    startsNumber (cs ++ after) := by
  match cs with
  | [] => simp [startsNumber] at h
  | [c] =>
    have hc : c.isDigit := by simpa [startsNumber] using h
    simp [startsNumber, hc]
  | c :: d :: rest => exact h

theorem fraction_take_ne_nil {cs : List Char} (h : fractionLength cs ≠ 0) :
    cs.take (fractionLength cs) ≠ [] := by
  cases cs with
  | nil => simp [fractionLength] at h
  | cons c rest => simpa using h

theorem exponent_take_ne_nil {cs : List Char} (h : exponentLength cs ≠ 0) :
    cs.take (exponentLength cs) ≠ [] := by
  cases cs with
  | nil => simp [exponentLength] at h
  | cons c rest => simpa using h

/-- What the scanner takes for a number is one. -/
theorem numeral_take {cs : List Char} (h : startsNumber cs) :
    (numberShape cs).2 ≠ 0 ∧ Numeral (numberShape cs).1 (cs.take (numberShape cs).2) := by
  unfold numberShape
  split
  · rename_i n hn
    exact hexLength_take hn
  · dsimp only
    have hstart := startsNumber_take h
    have hwhole : ∀ d ∈ cs.take (runLength Char.isDigit cs), d.isDigit :=
      fun d hd => mem_take_runLength hd
    generalize runLength Char.isDigit cs = w at *
    have hfraction := fraction_take (cs.drop w)
    have hfraction_ne := @fraction_take_ne_nil (cs.drop w)
    generalize fractionLength (cs.drop w) = f at *
    have hexponent := exponent_take (cs.drop (w + f))
    have hexponent_ne := @exponent_take_ne_nil (cs.drop (w + f))
    generalize exponentLength (cs.drop (w + f)) = e at *
    have hpos : w + f ≠ 0 := by
      intro h0
      obtain ⟨rfl, rfl⟩ : w = 0 ∧ f = 0 := by omega
      simp [startsNumber] at hstart
    refine ⟨by omega, ?_⟩
    rw [List.take_add, List.take_add]
    split_ifs with hint
    · obtain ⟨rfl, rfl⟩ := hint
      simp only [List.take_zero, List.append_nil] at hstart ⊢
      refine .decimal ?_ hwhole
      intro hnil
      rw [hnil] at hstart
      simp [startsNumber] at hstart
    · refine .float hwhole hfraction hexponent ?_ (startsNumber_append hstart _)
      by_cases hf : f = 0
      · exact .inr (hexponent_ne fun he => hint ⟨hf, he⟩)
      · exact .inl (hfraction_ne hf)

theorem fractionLength_append {fraction after : List Char} (h : Fraction fraction)
    (hafter : ∀ c ∈ after.head?, c.isDigit = false ∧ (fraction = [] → c ≠ '.')) :
    fractionLength (fraction ++ after) = fraction.length := by
  cases h with
  | none =>
    cases after with
    | nil => rfl
    | cons c rest =>
      have hc : c ≠ '.' := (hafter c rfl).2 rfl
      simp [fractionLength, hc]
  | point hds =>
    simp only [List.cons_append, fractionLength, List.length_cons]
    rw [runLength_append hds (fun c hc => (hafter c hc).1), Nat.add_comm]

/-- A character that begins no exponent. -/
theorem exponentLength_eq_zero {after : List Char} (h : ∀ c ∈ after.head?, c ≠ 'e' ∧ c ≠ 'E') :
    exponentLength after = 0 := by
  cases after with
  | nil => rfl
  | cons c rest => simp [exponentLength, h c rfl]

theorem exponentLength_of_isAlphanumeric {after : List Char}
    (h : ∀ c ∈ after.head?, Text.isAlphanumeric c = false) : exponentLength after = 0 :=
  exponentLength_eq_zero fun c hc =>
    ⟨ne_of_isAlphanumeric (h c hc) (by decide), ne_of_isAlphanumeric (h c hc) (by decide)⟩

theorem exponentLength_append {exponent after : List Char} (h : Exponent exponent)
    (hdigit : ∀ c ∈ after.head?, c.isDigit = false)
    (hnone : exponent = [] → exponentLength after = 0) :
    exponentLength (exponent ++ after) = exponent.length := by
  cases h with
  | none => exact hnone rfl
  | @some e sign ds he hsign hne hds =>
    have hrun : runLength Char.isDigit (ds ++ after) = ds.length := runLength_append hds hdigit
    rcases hsign with rfl | rfl | rfl
    · obtain ⟨d, ds, rfl⟩ := List.exists_cons_of_ne_nil hne
      have hd : d ≠ '+' ∧ d ≠ '-' := by
        have := hds d (by simp)
        constructor <;> (rintro rfl; revert this; decide)
      simp only [List.cons_append] at hrun
      simp [exponentLength, he, hd, hrun, Nat.add_comm]
    · simp [exponentLength, he, hrun, hne]
      omega
    · simp [exponentLength, he, hrun, hne]
      omega

theorem hexLength_eq_none {cs : List Char} (h : hexMarked cs = false) : hexLength cs = none := by
  unfold hexLength
  split
  · rename_i x rest
    have hx : ¬(x = 'x' ∨ x = 'X') := by simpa [hexMarked] using h
    simp [hx]
  · rfl

/-- Without the mark among its characters a number is not hexadecimal, whatever ends it. -/
theorem hexMarked_append {cs after : List Char} (hne : cs ≠ [])
    (hcs : ∀ c ∈ cs, c ≠ 'x' ∧ c ≠ 'X')
    (hafter : ∀ c ∈ after.head?, Text.isAlphanumeric c = false) :
    hexMarked (cs ++ after) = false := by
  have hstop : ∀ c ∈ after.head?, c ≠ 'x' ∧ c ≠ 'X' := fun c hc =>
    ⟨ne_of_isAlphanumeric (hafter c hc) (by decide), ne_of_isAlphanumeric (hafter c hc) (by decide)⟩
  unfold hexMarked
  split
  · rename_i x rest heq
    match cs, hne with
    | [c], _ =>
      cases after with
      | nil => simp at heq
      | cons d after =>
        obtain ⟨-, rfl, -⟩ : c = '0' ∧ d = x ∧ after = rest := by simpa using heq
        simpa using hstop d rfl
    | c :: d :: cs, _ =>
      obtain ⟨-, rfl, -⟩ : c = '0' ∧ d = x ∧ cs ++ after = rest := by simpa using heq
      simpa using hcs d (by simp)
  · rfl

theorem ne_mark_of_isDigit {c : Char} (h : c.isDigit) : c ≠ 'x' ∧ c ≠ 'X' := by
  constructor <;> (rintro rfl; revert h; decide)

theorem Fraction.ne_mark {cs : List Char} (h : Fraction cs) : ∀ c ∈ cs, c ≠ 'x' ∧ c ≠ 'X' := by
  cases h with
  | none => simp
  | point hds =>
    intro c hc
    rcases List.mem_cons.1 hc with rfl | hc
    · decide
    · exact ne_mark_of_isDigit (hds c hc)

theorem Exponent.ne_mark {cs : List Char} (h : Exponent cs) : ∀ c ∈ cs, c ≠ 'x' ∧ c ≠ 'X' := by
  cases h with
  | none => simp
  | some he hsign hne hds =>
    intro c hc
    rcases List.mem_cons.1 hc with rfl | hc
    · rcases he with rfl | rfl <;> decide
    · rcases List.mem_append.1 hc with hc | hc
      · rcases hsign with rfl | rfl | rfl
        · simp at hc
        · obtain rfl := List.mem_singleton.1 hc
          decide
        · obtain rfl := List.mem_singleton.1 hc
          decide
      · exact ne_mark_of_isDigit (hds c hc)

theorem Exponent.head_append {exponent after : List Char} (h : Exponent exponent)
    (hafter : ∀ c ∈ after.head?, Text.isAlphanumeric c = false) :
    ∀ c ∈ (exponent ++ after).head?, c.isDigit = false ∧ (exponent ≠ [] → c ≠ '.') := by
  intro c hc
  cases h with
  | none => exact ⟨isDigit_eq_false (hafter c hc), fun hne => absurd rfl hne⟩
  | some he =>
    obtain rfl := Option.some.inj hc
    rcases he with rfl | rfl <;> exact ⟨by decide, fun _ => by decide⟩

theorem Fraction.head_append {fraction after : List Char} (h : Fraction fraction)
    (hafter : ∀ c ∈ after.head?, c.isDigit = false) :
    ∀ c ∈ (fraction ++ after).head?, c.isDigit = false := by
  intro c hc
  cases h with
  | none => exact hafter c hc
  | point =>
    obtain rfl := Option.some.inj hc
    decide

/-- A number is measured whole if what follows it ends it; a point continues whole numbers in
decimal digits. -/
theorem numberShape_append {kind : TokenKind} {cs after : List Char} (h : Numeral kind cs)
    (hafter : ∀ c ∈ after.head?, Text.isAlphanumeric c = false)
    (hpoint : kind = .integer → hexMarked cs = false → after.head? ≠ some '.') :
    numberShape (cs ++ after) = (kind, cs.length) := by
  cases h with
  | @hex x ds hx hne hds =>
    have hrun : runLength Text.isHexDigit (ds ++ after) = ds.length :=
      runLength_append hds fun c hc => isHexDigit_eq_false (hafter c hc)
    have hlength : hexLength ('0' :: x :: (ds ++ after)) = some (ds.length + 2) := by
      simp [hexLength, hx, hrun, hne, Nat.add_comm]
    simp [numberShape, hlength]
  | decimal hne hds =>
    have hmark : ∀ c ∈ cs, c ≠ 'x' ∧ c ≠ 'X' := fun c hc => ne_mark_of_isDigit (hds c hc)
    have hhex := hexLength_eq_none (hexMarked_append hne hmark hafter)
    have hplain : hexMarked cs = false := by
      simpa using @hexMarked_append cs [] hne hmark (by simp)
    have hrun : runLength Char.isDigit (cs ++ after) = cs.length :=
      runLength_append hds fun c hc => isDigit_eq_false (hafter c hc)
    have hfraction : fractionLength after = 0 := by
      refine fractionLength_append .none fun c hc => ⟨isDigit_eq_false (hafter c hc), ?_⟩
      rintro - rfl
      exact hpoint rfl hplain hc
    have hexponent := exponentLength_of_isAlphanumeric hafter
    simp [numberShape, hhex, hrun, hfraction, hexponent]
  | @float whole fraction exponent hwhole hfraction hexponent hsome hstart =>
    have hne : whole ++ fraction ++ exponent ≠ [] := by
      intro hnil
      rw [hnil] at hstart
      simp [startsNumber] at hstart
    have hmark : ∀ c ∈ whole ++ fraction ++ exponent, c ≠ 'x' ∧ c ≠ 'X' := by
      intro c hc
      simp only [List.mem_append] at hc
      rcases hc with (hc | hc) | hc
      · exact ne_mark_of_isDigit (hwhole c hc)
      · exact hfraction.ne_mark c hc
      · exact hexponent.ne_mark c hc
    have hhex := hexLength_eq_none (hexMarked_append hne hmark hafter)
    have hexp_head : ∀ c ∈ (exponent ++ after).head?,
        c.isDigit = false ∧ (fraction = [] → c ≠ '.') := by
      intro c hc
      obtain ⟨hdigit, hpoint⟩ := hexponent.head_append hafter c hc
      exact ⟨hdigit, fun hnone => hpoint (hsome.resolve_left (absurd hnone))⟩
    have hfrac_head := hfraction.head_append fun c hc => (hexp_head c hc).1
    have hrun := runLength_append hwhole hfrac_head
    have hflen := fractionLength_append hfraction hexp_head
    have helen := exponentLength_append hexponent (fun c hc => isDigit_eq_false (hafter c hc))
      fun _ => exponentLength_of_isAlphanumeric hafter
    have hdrop : (whole ++ (fraction ++ (exponent ++ after))).drop
        (whole.length + fraction.length) = exponent ++ after := by
      rw [← List.append_assoc, ← List.length_append, List.drop_left]
    simp only [List.append_assoc] at hhex
    simp [numberShape, hhex, hrun, hflen, hdrop, helen, Nat.add_assoc]
    exact fun h1 h2 => hsome.elim (absurd h1) (absurd h2)

/-! ## Operators -/

def operators : List (List Char) :=
  ["->>", "->", "||", "<=", "<>", "<<", ">=", ">>", "!=", "==", "+", "-", "*", "/", "%", "<",
    ">", "=", "&", "|", "~"].map String.toList

theorem mem_operators_of_operatorTail {c : Char} {rest : List Char} {n : ℕ}
    (h : operatorTail c rest = some n) : c :: rest.take n ∈ operators := by
  unfold operatorTail at h
  split at h
  all_goals first
    | (obtain rfl := Option.some.inj h; simp [operators])
    | skip
  split_ifs at h with hc
  obtain rfl := Option.some.inj h
  simp at hc
  simp [operators]
  tauto

theorem ne_of_isStop_or_isDigit {c d : Char} (h : isStop c ∨ c.isDigit) (hstop : isStop d = false)
    (hdigit : d.isDigit = false) : c ≠ d := by
  rintro rfl
  simp [hstop, hdigit] at h

/-- The characters that an operator can go on with. -/
def operatorTails : List Char := ['>', '|', '=', '<']

theorem notMem_operatorTails {c : Char} (h : isStop c ∨ c.isDigit) : c ∉ operatorTails := by
  simp only [operatorTails, List.mem_cons, List.not_mem_nil, or_false, not_or]
  refine ⟨?_, ?_, ?_, ?_⟩ <;> exact ne_of_isStop_or_isDigit h (by decide) (by decide)

theorem operatorTail_append {c : Char} {cs after : List Char} (h : c :: cs ∈ operators)
    (hafter : ∀ d ∈ after.head?, d ∉ operatorTails) :
    operatorTail c (cs ++ after) = some cs.length := by
  simp [operators] at h
  cases after with
  | nil =>
    casesm* _ ∨ _ <;>
    obtain ⟨rfl, rfl⟩ := h <;> rfl
  | cons d rest =>
    have hd : d ≠ '>' ∧ d ≠ '|' ∧ d ≠ '=' ∧ d ≠ '<' := by
      simpa [operatorTails] using hafter d rfl
    casesm* _ ∨ _ <;>
    obtain ⟨rfl, rfl⟩ := h <;> simp [operatorTail, hd]

end Sql
end QueryFuzz
