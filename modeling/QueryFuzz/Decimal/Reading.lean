import QueryFuzz.Decimal.Binary64

/-!
# Reading numbers

A decimal number is an optional sign, digits with at most one point among them, and an optional
exponent; the words for infinity and for no number are accepted in any letter case. The value is
the closest number of double precision.
-/

namespace QueryFuzz
namespace Decimal

def digitsValue (cs : List Char) : Nat :=
  cs.foldl (fun n c => 10 * n + (c.toNat - 48)) 0

/-- A sign in front and what follows it; true for minus. -/
def splitSign : List Char → Bool × List Char
  | '-' :: rest => (true, rest)
  | '+' :: rest => (false, rest)
  | cs => (false, cs)

/-- A whole number in decimal digits with an optional sign. -/
def readInteger? (cs : List Char) : Option Int :=
  let (negative, digits) := splitSign cs
  if digits.isEmpty || !digits.all Char.isDigit then none
  else some (if negative then -(digitsValue digits : Int) else digitsValue digits)

/-- The closest number to `n * 10 ^ exponent`. Far beyond both ends of the format the power of ten
is not computed. -/
def ofScientific (negative : Bool) (n : Nat) (exponent : Int) : Binary64 :=
  if n = 0 then .nearest negative 0 1
  else
    let order : Int := (Nat.toDigits 10 n).length + exponent
    if 310 < order then .infinite negative
    else if order < -326 then .nearest negative 0 1
    else if exponent < 0 then .nearest negative n (Nat.pow 10 exponent.natAbs)
    else .nearest negative (n * Nat.pow 10 exponent.natAbs) 1

/-- The exponent behind the digits; an absent one is zero. -/
def readExponent? : List Char → Option Int
  | [] => some 0
  | e :: rest => if e = 'e' ∨ e = 'E' then readInteger? rest else none

def readUnsigned? (negative : Bool) (cs : List Char) : Option Binary64 :=
  let whole := cs.takeWhile Char.isDigit
  let rest := cs.drop whole.length
  let fraction := match rest with
    | '.' :: r => r.takeWhile Char.isDigit
    | _ => []
  let rest := match rest with
    | '.' :: r => r.drop fraction.length
    | r => r
  if whole.isEmpty && fraction.isEmpty then none
  else match readExponent? rest with
    | some exponent =>
      some (ofScientific negative (digitsValue (whole ++ fraction)) (exponent - fraction.length))
    | none => none

def read? (text : String) : Option Binary64 :=
  let (negative, rest) := splitSign text.toList
  let word := String.ofList (rest.map Char.toLower)
  if word = "inf" ∨ word = "infinity" then some (.infinite negative)
  else if word = "nan" then some .nan
  else readUnsigned? negative rest

def readFloat? (text : String) : Option Float :=
  (read? text).map Binary64.toFloat

end Decimal
end QueryFuzz
