import QueryFuzz.Decimal.Digits
import QueryFuzz.Decimal.Reading
import QueryFuzz.Width

/-!
# Canonical values

Engines print every column as text. Before two results are compared, each text is read back: what
reads as a whole number is an integer, however it was written; other numbers are rounded to a
fixed number of digits; an empty text is null, because the printed form does not tell them apart.
-/

namespace QueryFuzz
namespace Oracle

inductive Value where
  | null
  | integer (n : Int)
  /-- A number with its digits and exponent. -/
  | real (digits : String)
  | text (s : String)
  deriving DecidableEq, Repr

namespace Value

def display : Value → String
  | null => "NULL"
  | integer n => toString n
  | real digits => digits
  | text s => "'" ++ s ++ "'"

/-- Null first, then integers, reals and texts. -/
def rank : Value → Nat
  | null => 0
  | integer _ => 1
  | real _ => 2
  | text _ => 3

protected def le (v w : Value) : Bool :=
  match v, w with
  | integer m, integer n => m ≤ n
  | real s, real t => s ≤ t
  | text s, text t => s ≤ t
  | v, w => v.rank ≤ w.rank

end Value

/-- Does a text begin like a number? -/
def looksNumeric (raw : String) : Bool :=
  raw.toList.head?.any fun c => c.isDigit || c == '-' || c == '+' || c == '.'

/-- The whole number that a finite number is, if it is one of less than `2 ^ 63`. -/
def wholeNumber? (negative : Bool) (significand : Nat) (exponent : Int) : Option Int :=
  let (num, den) := Decimal.Binary64.magnitude significand exponent
  if num % den = 0 ∧ num / den < Width.values 63 then
    some (if negative then -(num / den : Nat) else (num / den : Nat))
  else none

def ofNumber (negative : Bool) (significand : Nat) (exponent : Int) (digits : Nat) : Value :=
  match wholeNumber? negative significand exponent with
  | some n => .integer n
  | none => .real (Decimal.scientificText (max digits 1) negative significand exponent)

/-- A text that is no whole number of 128 bits. -/
def ofDecimal (raw : String) (digits : Nat) : Value :=
  match Decimal.read? raw with
  | some (.finite negative significand exponent) =>
    if looksNumeric raw then ofNumber negative significand exponent digits else .text raw
  | _ => .text raw

/-- The value that a printed text stands for, reals with so many digits. -/
def canonical (raw : String) (digits : Nat) : Value :=
  if raw = "" then .null
  else match Decimal.readInteger? raw.toList with
    | some n => if Width.fitsSigned 128 n then .integer n else ofDecimal raw digits
    | none => ofDecimal raw digits

end Oracle
end QueryFuzz
