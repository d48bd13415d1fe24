/-!
# Timestamps

A moment of universal time down to the nanosecond. Nanoseconds from one thousand million up stand
for a leap second, which is written as the sixtieth second. There are two written forms: a compact
one for names and a standard one for texts.
-/

namespace QueryFuzz
namespace Report

structure Timestamp where
  year : Int
  month : Nat
  day : Nat
  hour : Nat
  minute : Nat
  second : Nat
  nanosecond : Nat
  deriving DecidableEq, Repr

/-- A number with at least so many digits. -/
def zeroPadded (width n : Nat) : String :=
  let digits := Nat.toDigits 10 n
  String.ofList (List.replicate (width - digits.length) '0' ++ digits)

namespace Timestamp

/-- Four digits; a year outside of them has a sign. -/
def yearText (t : Timestamp) : String :=
  if t.year < 0 then "-" ++ zeroPadded 4 t.year.natAbs
  else if 9999 < t.year then "+" ++ zeroPadded 4 t.year.natAbs
  else zeroPadded 4 t.year.natAbs

def shownSecond (t : Timestamp) : Nat := t.second + t.nanosecond / 1000000000

def fraction (t : Timestamp) : Nat := t.nanosecond % 1000000000

/-- For names: date, time and microseconds with underscores between them. -/
def compact (t : Timestamp) : String :=
  t.yearText ++ zeroPadded 2 t.month ++ zeroPadded 2 t.day ++ "_" ++
    zeroPadded 2 t.hour ++ zeroPadded 2 t.minute ++ zeroPadded 2 t.shownSecond ++ "_" ++
    zeroPadded 6 (t.fraction / 1000)

/-- The fraction of a second in three, six or nine digits, or none if it is zero. -/
def fractionText (t : Timestamp) : String :=
  let n := t.fraction
  if n = 0 then ""
  else if n % 1000000 = 0 then "." ++ zeroPadded 3 (n / 1000000)
  else if n % 1000 = 0 then "." ++ zeroPadded 6 (n / 1000)
  else "." ++ zeroPadded 9 n

def standard (t : Timestamp) : String :=
  t.yearText ++ "-" ++ zeroPadded 2 t.month ++ "-" ++ zeroPadded 2 t.day ++ "T" ++
    zeroPadded 2 t.hour ++ ":" ++ zeroPadded 2 t.minute ++ ":" ++ zeroPadded 2 t.shownSecond ++
    t.fractionText ++ "+00:00"

end Timestamp
end Report
end QueryFuzz
