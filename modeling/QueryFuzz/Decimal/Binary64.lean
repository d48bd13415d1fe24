/-!
# Binary numbers of double precision

A finite number is a sign, a significand and an exponent of two. Everything that depends on a
number's exact value, such as its decimal digits, is computed on these in whole numbers; the
machine's own arithmetic is reached through the bits. `nearest` rounds a quotient to the closest
number of the format, the even significand winning a tie.
-/

namespace QueryFuzz
namespace Decimal

inductive Binary64 where
  /-- The number `significand * 2 ^ exponent`, negative or not. -/
  | finite (negative : Bool) (significand : Nat) (exponent : Int)
  | infinite (negative : Bool)
  | nan
  deriving DecidableEq, Repr

/-- The nearest whole number to a quotient; a tie goes to the even one. -/
def roundHalfEven (num den : Nat) : Nat :=
  let q := num / den
  let r := num % den
  if 2 * r < den then q
  else if den < 2 * r then q + 1
  else if q % 2 = 0 then q else q + 1

/-- The quotient `num / den * 2 ^ -exponent` as a numerator and a denominator. -/
def scaledBy (exponent : Int) (num den : Nat) : Nat × Nat :=
  if exponent < 0 then (num * Nat.pow 2 exponent.natAbs, den)
  else (num, den * Nat.pow 2 exponent.natAbs)

/-- The exponent of two below a positive quotient. -/
def binaryOrder (num den : Nat) : Int :=
  let estimate : Int := (Nat.log2 num : Int) - Nat.log2 den
  let (n, d) := scaledBy estimate num den
  if d ≤ n then estimate else estimate - 1

namespace Binary64

/-- Least exponent of the format. -/
def leastExponent : Int := -1074

/-- The significand of a normal number is at least this and less than its double. -/
def hiddenBit : Nat := 0x10000000000000

/-- The number of the format that is closest to a quotient. -/
def nearest (negative : Bool) (num den : Nat) : Binary64 :=
  if num = 0 then .finite negative 0 leastExponent
  else
    let exponent := max (binaryOrder num den - 52) leastExponent
    let (n, d) := scaledBy exponent num den
    let significand := roundHalfEven n d
    let (significand, exponent) :=
      if significand = 2 * hiddenBit then (hiddenBit, exponent + 1) else (significand, exponent)
    if 971 < exponent then .infinite negative else .finite negative significand exponent

def ofBits (bits : UInt64) : Binary64 :=
  let negative := bits >>> 63 == 1
  let field := ((bits >>> 52) % 2048).toNat
  let fraction := (bits % 0x10000000000000).toNat
  if field = 2047 then if fraction = 0 then .infinite negative else .nan
  else if field = 0 then .finite negative fraction leastExponent
  else .finite negative (hiddenBit + fraction) ((field : Int) - 1075)

def toBits : Binary64 → UInt64
  | .nan => 0x7ff8000000000000
  | .infinite negative => (if negative then 0xfff0000000000000 else 0x7ff0000000000000)
  | .finite negative significand exponent =>
    let sign : UInt64 := if negative then 0x8000000000000000 else 0
    if significand < hiddenBit then sign + UInt64.ofNat significand
    else sign + UInt64.ofNat ((exponent + 1075).toNat * hiddenBit + (significand - hiddenBit))

def ofFloat (x : Float) : Binary64 := ofBits x.toBits

def toFloat (x : Binary64) : Float := Float.ofBits x.toBits

/-- The magnitude of a finite number as a quotient of whole numbers. -/
def magnitude (significand : Nat) (exponent : Int) : Nat × Nat :=
  if exponent < 0 then (significand, Nat.pow 2 exponent.natAbs)
  else (significand * Nat.pow 2 exponent.natAbs, 1)

end Binary64
end Decimal
end QueryFuzz
