import QueryFuzz.Width

/-!
# Numbers in scripts

A script spells a number with an optional sign in base ten, or in base eight or sixteen behind a
zero. What is beyond the signed words of 64 bits counts as the nearest of them where this is not
an error.
-/

namespace QueryFuzz
namespace Shell

def largest : Int := Width.values 63 - 1

def smallest : Int := -(Width.values 63 : Int)

def isSpace (c : Char) : Bool := c = ' ' || (9 ≤ c.toNat && c.toNat ≤ 13)

def digitValue? (base : Nat) (c : Char) : Option Nat :=
  let v? :=
    if c.isDigit then some (c.toNat - 48)
    else if 'a' ≤ c && c ≤ 'z' then some (c.toNat - 87)
    else if 'A' ≤ c && c ≤ 'Z' then some (c.toNat - 55)
    else none
  v?.filter (· < base)

/-- A number without limits. -/
structure Spelling where
  value : Int
  /-- What follows the number. -/
  rest : List Char
  /-- Is there a number at all? -/
  found : Bool

def digitsFrom (base : Nat) (cs : List Char) : Nat × List Char :=
  let digits := cs.takeWhile fun c => (digitValue? base c).isSome
  (digits.foldl (fun n c => n * base + (digitValue? base c).getD 0) 0, cs.drop digits.length)

/-- Digits in the base that their first ones tell, if no base is fixed. -/
def unsignedSpelling (base : Option Nat) (cs : List Char) : Spelling :=
  let plain := fun b (cs : List Char) =>
    let (n, rest) := digitsFrom b cs
    ⟨n, rest, rest.length < cs.length⟩
  match base, cs with
  | none, '0' :: x :: d :: rest =>
    if (x = 'x' || x = 'X') && (digitValue? 16 d).isSome then plain 16 (d :: rest)
    else plain 8 cs
  | none, '0' :: _ => plain 8 cs
  | b, cs => plain (b.getD 10) cs

/-- The number at the front, behind blanks and a sign. -/
def spelling (base : Option Nat) (cs : List Char) : Spelling :=
  let behind := cs.dropWhile isSpace
  let (negative, unsigned) := match behind with
    | '-' :: rest => (true, rest)
    | '+' :: rest => (false, rest)
    | rest => (false, rest)
  let s := unsignedSpelling base unsigned
  if s.found then { s with value := if negative then -s.value else s.value } else ⟨0, cs, false⟩

/-- The nearest signed word. -/
def clamp (n : Int) : Int := max smallest (min largest n)

/-- The signed word with the same last 64 bits. -/
def wrap (n : Int) : Int := Int.bmod n (Width.values 64)

/-- A whole text as a number. Where the base is open the text may be blank. -/
def number? (base : Option Nat) (s : String) : Option Int :=
  let n := spelling base s.toList
  let fits := smallest ≤ n.value && n.value ≤ largest
  if fits && (n.found || base.isNone) && n.rest.all isSpace then some n.value else none

/-- A count or a code: a number that is not negative and fits into 32 bits. -/
def count? (s : String) : Option Nat :=
  (number? (some 10) s).bind fun n => if 0 ≤ n && n < Width.values 31 then some n.toNat else none

end Shell
end QueryFuzz
