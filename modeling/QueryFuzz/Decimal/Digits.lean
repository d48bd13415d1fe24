import QueryFuzz.Decimal.Binary64

/-!
# Decimal digits of a binary number

Two ways to choose digits. `exact` rounds the exact value to a fixed number of significant
digits, a tie going to the even digit. `shortest` finds the fewest digits that read back as the
same number, and of those the closest; it tries one digit, two digits and so on, looking only at
the two decimal numbers next to the value.
-/

namespace QueryFuzz
namespace Decimal

/-- Number of decimal digits; zero has none. -/
def decimalLength (n : Nat) : Nat :=
  if n = 0 then 0 else 1 + decimalLength (n / 10)

/-- The exponent of ten below a positive quotient. -/
def decimalOrder (num den : Nat) : Int :=
  if den ≤ num then (decimalLength (num / den) : Int) - 1
  else -(decimalLength ((den + num - 1) / num - 1) : Int)

/-- The quotient `num / den * 10 ^ -exponent` as a numerator and a denominator. -/
def scaledByTen (exponent : Int) (num den : Nat) : Nat × Nat :=
  if exponent < 0 then (num * Nat.pow 10 exponent.natAbs, den)
  else (num, den * Nat.pow 10 exponent.natAbs)

/-- Digits and their exponent: the value is `digits * 10 ^ exponent`. -/
structure Figures where
  digits : Nat
  exponent : Int
  deriving DecidableEq, Repr

namespace Figures

/-- A positive quotient to `count` significant digits. -/
def exact (count : Nat) (num den : Nat) : Figures :=
  let exponent := decimalOrder num den - ((count : Int) - 1)
  let (n, d) := scaledByTen exponent num den
  let digits := roundHalfEven n d
  if digits = Nat.pow 10 count then ⟨Nat.pow 10 (count - 1), exponent + 1⟩ else ⟨digits, exponent⟩

/-- Moves trailing zeros into the exponent. -/
def trimmed (fuel : Nat) (f : Figures) : Figures :=
  match fuel with
  | 0 => f
  | fuel + 1 =>
    if f.digits ≠ 0 ∧ f.digits % 10 = 0 then trimmed fuel ⟨f.digits / 10, f.exponent + 1⟩ else f

/-- The reals that round to a number, by their ends in units of `2 ^ scale`; the ends belong to
it exactly when the significand is even. -/
structure Neighbourhood where
  low : Nat
  value : Nat
  high : Nat
  scale : Int
  closed : Bool

def neighbourhood (significand : Nat) (exponent : Int) : Neighbourhood :=
  let closed := significand % 2 == 0
  if significand = Binary64.hiddenBit then
    ⟨4 * significand - 1, 4 * significand, 4 * significand + 2, exponent - 2, closed⟩
  else ⟨2 * significand - 1, 2 * significand, 2 * significand + 1, exponent - 1, closed⟩

/-- Does `digits * 10 ^ exponent` round to the number? -/
def Neighbourhood.holds (b : Neighbourhood) (f : Figures) : Bool :=
  let (tens, tensDen) := if f.exponent < 0 then (1, Nat.pow 10 f.exponent.natAbs)
    else (Nat.pow 10 f.exponent.natAbs, 1)
  let (twos, twosDen) := if b.scale < 0 then (1, Nat.pow 2 b.scale.natAbs)
    else (Nat.pow 2 b.scale.natAbs, 1)
  let point := f.digits * tens * twosDen
  let unit := twos * tensDen
  if b.closed then b.low * unit ≤ point && point ≤ b.high * unit
  else b.low * unit < point && point < b.high * unit

/-- The choice among the two neighbours with `count` digits, if one of them reads back. -/
def shortestAt? (b : Neighbourhood) (num den : Nat) (count : Nat) : Option Figures :=
  let exponent := decimalOrder num den - ((count : Int) - 1)
  let (n, d) := scaledByTen exponent num den
  let below : Figures := ⟨n / d, exponent⟩
  let above : Figures := ⟨n / d + 1, exponent⟩
  match b.holds below, b.holds above with
  | true, true => if 2 * (n % d) < d then some below else some above
  | true, false => some below
  | false, true => some above
  | false, false => none

/-- The fewest digits, from `count` up, that read back. -/
def shortestFrom (b : Neighbourhood) (num den : Nat) (count : Nat) : Nat → Figures
  | 0 => exact 17 num den
  | fuel + 1 =>
    match shortestAt? b num den count with
    | some f => f
    | none => shortestFrom b num den (count + 1) fuel

/-- The shortest digits of a positive number. -/
def shortest (significand : Nat) (exponent : Int) : Figures :=
  let (num, den) := Binary64.magnitude significand exponent
  trimmed 20 (shortestFrom (neighbourhood significand exponent) num den 1 17)

def text (f : Figures) : List Char :=
  Nat.toDigits 10 f.digits

/-- The exponent of the first digit. -/
def order (f : Figures) : Int :=
  f.exponent + f.text.length - 1

/-- All digits in their places, without an exponent. -/
def positional (f : Figures) : String :=
  let cs := f.text
  let places := f.order + 1
  if places ≤ 0 then
    "0." ++ String.ofList (List.replicate places.natAbs '0' ++ cs)
  else if f.exponent < 0 then
    String.ofList (cs.take places.toNat ++ '.' :: cs.drop places.toNat)
  else String.ofList (cs ++ List.replicate f.exponent.toNat '0')

/-- One digit before the point, the others behind it, and an exponent behind the mark. A plus
sign is written before an exponent that is not negative if asked for. -/
def scientific (plus : Bool) (f : Figures) : String :=
  let lead := match f.text with
    | [] => []
    | [c] => [c]
    | c :: rest => c :: '.' :: rest
  let exponent := toString f.order
  String.ofList lead ++ "e" ++ (if plus && 0 ≤ f.order then "+" ++ exponent else exponent)

end Figures

def signText (negative : Bool) : String := if negative then "-" else ""

/-- A finite number with `count` significant digits and an exponent. -/
def scientificText (count : Nat) (negative : Bool) (significand : Nat) (exponent : Int) :
    String :=
  if significand = 0 then
    signText negative ++ "0" ++
      (if count ≤ 1 then "" else "." ++ String.ofList (List.replicate (count - 1) '0')) ++ "e0"
  else
    let (num, den) := Binary64.magnitude significand exponent
    signText negative ++ (Figures.exact count num den).scientific false

/-- A number with so many places behind the point, a tie going to the even digit. -/
def fixedText (places : Nat) : Binary64 → String
  | .nan => "NaN"
  | .infinite negative => signText negative ++ "inf"
  | .finite negative significand exponent =>
    let (num, den) := Binary64.magnitude significand exponent
    let digits := Nat.toDigits 10 (roundHalfEven (num * Nat.pow 10 places) den)
    let digits := List.replicate (places + 1 - digits.length) '0' ++ digits
    let (whole, fraction) := digits.splitAt (digits.length - places)
    signText negative ++ String.ofList (if places = 0 then whole else whole ++ '.' :: fraction)

/-- The shortest digits without an exponent, whatever the size of the number. -/
def plainText : Binary64 → String
  | .nan => "NaN"
  | .infinite negative => signText negative ++ "inf"
  | .finite negative 0 _ => signText negative ++ "0"
  | .finite negative significand exponent =>
    signText negative ++ (Figures.shortest significand exponent).positional

end Decimal
end QueryFuzz
