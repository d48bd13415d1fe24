import QueryFuzz.Draw.Sampling
import QueryFuzz.Schema

/-!
# Literals

Two kinds of literals of each type: boundary values such as zero, extremes, the empty text and
`NULL`, and unremarkable ones. An order over all output columns is chosen here as well.
-/

namespace QueryFuzz
namespace Grammar

open Draw

def boundaryLiterals : ColumnType → List String
  | .integer =>
    ["0", "-1", "1", "2147483647", "-2147483648", "9223372036854775807",
      "-9223372036854775808", "NULL"]
  | .real =>
    ["0.0", "-0.0", "1.7976931348623157e308", "2.2250738585072014e-308", "-1e308", "1e-10",
      "NULL"]
  | .text => ["''", "' '", "'%'", "'_'", "'NULL'", "'O''Brien'", "'ünïcödé ✓'", "NULL"]
  | .blob => ["x''", "x'00'", "x'FF'", "x'DEADBEEF'", "NULL"]

def sampleWords : List String :=
  ["alice", "bob", "carol", "widget", "gadget", "books", "electronics", "2023-01-15",
    "great product", "a"]

def boundaryLiteral (type : ColumnType) : Sampling String := do
  return (← Sampling.choose "literal.boundary" (boundaryLiterals type)).getD "NULL"

/-- A number of hundredths with two places behind the point. -/
def hundredths (n : Int) : String :=
  let places := toString (n.natAbs % 100)
  (if n < 0 then "-" else "") ++ toString (n.natAbs / 100) ++ "." ++
    (if n.natAbs % 100 < 10 then "0" ++ places else places)

/-- A byte as two hexadecimal digits in capitals. -/
def byteText (n : Nat) : String :=
  let digits := (Nat.toDigits 16 n).map Char.toUpper
  String.ofList (if n < 16 then '0' :: digits else digits)

/-- Runs a random program so many times and joins the texts. -/
def repeatedText (program : Sampling String) : Nat → Sampling String
  | 0 => return ""
  | n + 1 => do
    let first ← program
    return first ++ (← repeatedText program n)

def ordinaryLiteral : ColumnType → Sampling String
  | .integer => do return toString (← Sampling.between "literal.integer" (-100) 1000)
  | .real => do return hundredths (← Sampling.between "literal.real" (-10000) 100000)
  | .text => do return "'" ++ (← Sampling.choose "literal.text" sampleWords).getD "a" ++ "'"
  | .blob => do
    let length ← Sampling.between "literal.blob-len" 1 4
    let byte := byteText <$> Sampling.index "literal.blob-byte" 256
    return "x'" ++ (← repeatedText byte length.toNat) ++ "'"

/-- A direction for each position of an order: true where it descends. -/
def directions : Nat → Sampling (List Bool)
  | 0 => return []
  | n + 1 => do
    let first ← Sampling.chance "order.desc" 0.3
    return first :: (← directions n)

/-- One term of an order for each direction, from position `position` on. -/
def orderTerms (position : Nat) : List Bool → List String
  | [] => []
  | descending :: rest =>
    (if descending then s!"{position} DESC" else toString position) ::
      orderTerms (position + 1) rest

/-- An order by every output column. It leaves no two different rows tied, so ordered results can
be compared row by row. -/
def orderByText (directions : List Bool) : String :=
  "ORDER BY " ++ ", ".intercalate (orderTerms 1 directions)

def totalOrder (width : Nat) : Sampling String := do
  return orderByText (← directions (max width 1))

end Grammar
end QueryFuzz
