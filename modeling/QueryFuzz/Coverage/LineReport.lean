import QueryFuzz.Decimal.Reading
import QueryFuzz.Text.Words
import QueryFuzz.Width

/-!
# Line coverage reports

A report has one line for each line of source code: how often it ran, its number and its text,
with colons between them. Lines that cannot run are marked by a dash, lines that never did by
hash or equals signs, and a star behind the count marks a line that ran in part.
-/

namespace QueryFuzz
namespace Coverage

/-- A count below `2 ^ 64` in decimal digits. -/
def readCount? (cs : List Char) : Option Nat :=
  match cs with
  | '-' :: _ => none
  | cs =>
    match Decimal.readInteger? cs with
    | some n => if Width.fitsUnsigned 64 n then some n.toNat else none
    | none => none

def trimBlanks (cs : List Char) : List Char :=
  Text.trimEndChars Text.isBlank (cs.dropWhile Text.isBlank)

/-- The number of the source line that a report line shows as executed. -/
def executedLine? (line : List Char) : Option Nat :=
  match Text.splitOn ':' line with
  | count :: number :: _ =>
    let count := Text.trimEndChars (· == '*') (trimBlanks count)
    match readCount? count, readCount? (trimBlanks number) with
    | some count, some number => if 0 < count ∧ 0 < number then some number else none
    | _, _ => none
  | _ => none

/-- The executed lines of a report as units of the form `file:line`. -/
def executedLines (file report : String) : List String :=
  (Text.linesOf report.toList).filterMap fun line =>
    (executedLine? line).map fun n => file ++ ":" ++ toString n

end Coverage
end QueryFuzz
