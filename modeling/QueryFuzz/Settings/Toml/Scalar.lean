import QueryFuzz.Decimal.Reading
import QueryFuzz.Settings.Document
import QueryFuzz.Width

/-!
# Texts, numbers and dates of a TOML document

Texts come in four forms: between one or three quotation marks with escapes, and between one or
three apostrophes without. A number, a truth value or a date is one run of characters, which is
taken as a whole and then recognised.
-/

namespace QueryFuzz
namespace Settings
namespace Toml

/-- A character that may stand in a text or a comment as it is: a tab, or one that is no control
character. -/
def isPlain (c : Char) : Bool :=
  c = '\t' || (' ' ≤ c && c ≠ '\x7f')

def hexValue (c : Char) : Nat :=
  if c.isDigit then c.toNat - 48
  else if 'a' ≤ c then c.toNat - 87
  else c.toNat - 55

def isHexDigit (c : Char) : Bool :=
  c.isDigit || ('a' ≤ c && c ≤ 'f') || ('A' ≤ c && c ≤ 'F')

/-- The number that digits spell in a base. -/
def spelled (base : Nat) (digits : List Char) : Nat :=
  digits.foldl (fun n c => n * base + hexValue c) 0

/-- The character with the number that hexadecimal digits spell. -/
def numberedChar? (digits : List Char) : Option Char :=
  let n := spelled 16 digits
  if digits.all isHexDigit && n.isValidChar then some (.ofNat n) else none

/-- An escape behind the backslash: its character and what follows it. -/
def escape? : List Char → Option (Char × List Char)
  | 'b' :: rest => some ('\x08', rest)
  | 't' :: rest => some ('\t', rest)
  | 'n' :: rest => some ('\n', rest)
  | 'f' :: rest => some ('\x0c', rest)
  | 'r' :: rest => some ('\r', rest)
  | '"' :: rest => some ('"', rest)
  | '\\' :: rest => some ('\\', rest)
  | 'u' :: rest =>
    if rest.length < 4 then none else (numberedChar? (rest.take 4)).map (·, rest.drop 4)
  | 'U' :: rest =>
    if rest.length < 8 then none else (numberedChar? (rest.take 8)).map (·, rest.drop 8)
  | _ => none

/-- A line break and what follows it. -/
def lineBreak? : List Char → Option (List Char)
  | '\n' :: rest => some rest
  | '\r' :: '\n' :: rest => some rest
  | _ => none

/-- The text up to the closing mark, and what follows the mark. -/
def shortText (mark : Char) (escapes : Bool) : Nat → List Char → Option (List Char × List Char)
  | 0, _ => none
  | fuel + 1, cs =>
    match cs with
    | [] => none
    | c :: rest =>
      if c = mark then some ([], rest)
      else if escapes && c = '\\' then do
        let (e, rest) ← escape? rest
        let (text, rest) ← shortText mark escapes fuel rest
        return (e :: text, rest)
      else if isPlain c then do
        let (text, rest) ← shortText mark escapes fuel rest
        return (c :: text, rest)
      else none

/-- Blanks and line breaks from the front. -/
def dropSpace : List Char → List Char
  | ' ' :: rest => dropSpace rest
  | '\t' :: rest => dropSpace rest
  | '\n' :: rest => dropSpace rest
  | '\r' :: '\n' :: rest => dropSpace rest
  | cs => cs

/-- What follows a backslash at the end of a line: the blanks up to the next character count for
nothing. -/
def continuedLine? (cs : List Char) : Option (List Char) :=
  (lineBreak? (cs.dropWhile fun c => c = ' ' || c = '\t')).map dropSpace

/-- The text up to three marks, over several lines. Up to two marks before the closing ones belong
to the text. -/
def longText (mark : Char) (escapes : Bool) : Nat → List Char → Option (List Char × List Char)
  | 0, _ => none
  | fuel + 1, cs =>
    let marks := (cs.takeWhile (· = mark)).length
    if 3 ≤ marks then
      let inside := min (marks - 3) 2
      some (List.replicate inside mark, cs.drop (inside + 3))
    else match cs with
      | [] => none
      | c :: rest =>
        if escapes && c = '\\' then
          match continuedLine? rest with
          | some rest => longText mark escapes fuel rest
          | none => do
            let (e, rest) ← escape? rest
            let (text, rest) ← longText mark escapes fuel rest
            return (e :: text, rest)
        else match lineBreak? cs with
          | some rest => do
            let (text, rest) ← longText mark escapes fuel rest
            return ('\n' :: text, rest)
          | none =>
            if isPlain c then do
              let (text, rest) ← longText mark escapes fuel rest
              return (c :: text, rest)
            else none

/-- A text on one line, with its marks. -/
def lineText? : List Char → Option (List Char × List Char)
  | '"' :: rest => shortText '"' true (rest.length + 1) rest
  | '\'' :: rest => shortText '\'' false (rest.length + 1) rest
  | _ => none

/-- A line break right behind three opening marks does not belong to the text. -/
def afterMarks (cs : List Char) : List Char := (lineBreak? cs).getD cs

/-- A text in any form, with its marks. -/
def text? : List Char → Option (List Char × List Char)
  | '"' :: '"' :: '"' :: rest => longText '"' true (rest.length + 1) (afterMarks rest)
  | '\'' :: '\'' :: '\'' :: rest => longText '\'' false (rest.length + 1) (afterMarks rest)
  | cs => lineText? cs

/-- Digits without the underscores between them; an underscore must stand between digits. -/
def ungrouped? (isDigit : Char → Bool) : List Char → Option (List Char)
  | [] => none
  | [c] => if isDigit c then some [c] else none
  | c :: '_' :: rest => if isDigit c then (ungrouped? isDigit rest).map (c :: ·) else none
  | c :: rest => if isDigit c then (ungrouped? isDigit rest).map (c :: ·) else none

/-- Decimal digits of a whole number; only zero itself starts with a zero. -/
def wholeDigits? (cs : List Char) : Option (List Char) := do
  let digits ← ungrouped? Char.isDigit cs
  if 1 < digits.length && digits.head? == some '0' then none else some digits

def integer? (cs : List Char) : Option Int := do
  let n ← match cs with
    | '0' :: 'x' :: rest => (ungrouped? isHexDigit rest).map fun ds => (spelled 16 ds : Int)
    | '0' :: 'o' :: rest =>
      (ungrouped? (fun c => '0' ≤ c && c ≤ '7') rest).map fun ds => (spelled 8 ds : Int)
    | '0' :: 'b' :: rest =>
      (ungrouped? (fun c => c = '0' || c = '1') rest).map fun ds => (spelled 2 ds : Int)
    | cs =>
      let (negative, rest) := Decimal.splitSign cs
      (wholeDigits? rest).map fun ds =>
        if negative then -(Decimal.digitsValue ds : Int) else Decimal.digitsValue ds
  if Width.fitsSigned 64 n then some n else none

/-- The exponent with its letter, without underscores. -/
def exponent? : List Char → Option (List Char)
  | [] => some []
  | e :: rest =>
    if e = 'e' || e = 'E' then
      let (negative, digits) := Decimal.splitSign rest
      (ungrouped? Char.isDigit digits).map fun ds => (if negative then ['e', '-'] else ['e']) ++ ds
    else none

/-- A number with a fraction or an exponent. Too large a positive number is refused. -/
def decimal? (cs : List Char) : Option Float := do
  let (negative, rest) := Decimal.splitSign cs
  let isPart := fun c : Char => c.isDigit || c = '_'
  let whole ← wholeDigits? (rest.takeWhile isPart)
  let fraction ← match rest.dropWhile isPart with
    | '.' :: r => (ungrouped? Char.isDigit (r.takeWhile isPart)).map ('.' :: ·)
    | r => if r.isEmpty then none else some []
  let exponent ← exponent? (match rest.dropWhile isPart with
    | '.' :: r => r.dropWhile isPart
    | r => r)
  let x ← Decimal.read? (String.ofList (whole ++ fraction ++ exponent))
  match x, negative with
  | .infinite _, false => none
  | x, false => some x.toFloat
  | x, true => some (-x.toFloat)

/-- The words for what is no ordinary number. -/
def special? (cs : List Char) : Option Float :=
  let (negative, rest) := Decimal.splitSign cs
  match rest with
  | ['i', 'n', 'f'] => some (Decimal.Binary64.infinite negative).toFloat
  | ['n', 'a', 'n'] => some Decimal.Binary64.nan.toFloat
  | _ => none

/-- So many digits that spell a number between two bounds, and what follows them. -/
def field? (width low high : Nat) (cs : List Char) : Option (Nat × List Char) :=
  let n := Decimal.digitsValue (cs.take width)
  if cs.length < width || !(cs.take width).all Char.isDigit || n < low || high < n then none
  else some (n, cs.drop width)

def expect? (c : Char) : List Char → Option (List Char)
  | d :: rest => if c = d then some rest else none
  | [] => none

/-- How many days a month has. -/
def daysIn (year month : Nat) : Nat :=
  if month = 2 then
    if year % 4 = 0 && (year % 100 ≠ 0 || year % 400 = 0) then 29 else 28
  else if month = 4 || month = 6 || month = 9 || month = 11 then 30
  else 31

def date? (cs : List Char) : Option (List Char) := do
  let (year, cs) ← field? 4 0 9999 cs
  let (month, cs) ← field? 2 1 12 (← expect? '-' cs)
  let (_, cs) ← field? 2 1 (daysIn year month) (← expect? '-' cs)
  return cs

def time? (cs : List Char) : Option (List Char) := do
  let (_, cs) ← field? 2 0 23 cs
  let (_, cs) ← field? 2 0 59 (← expect? ':' cs)
  let (_, cs) ← field? 2 0 60 (← expect? ':' cs)
  match cs with
  | '.' :: rest =>
    let digits := rest.takeWhile Char.isDigit
    if digits.isEmpty then none else some (rest.drop digits.length)
  | cs => some cs

/-- Is this the distance to universal time? -/
def isOffset : List Char → Bool
  | [] => true
  | [z] => z = 'Z' || z = 'z'
  | sign :: rest =>
    (sign = '+' || sign = '-') &&
      match field? 2 0 23 rest with
      | some (_, ':' :: rest) => (field? 2 0 59 rest).any (·.2.isEmpty)
      | _ => false

/-- Is this a date, a time, or both? -/
def isMoment (cs : List Char) : Bool :=
  match date? cs with
  | some [] => true
  | some (t :: rest) => (t = 'T' || t = 't' || t = ' ') && (time? rest).any isOffset
  | none => (time? cs).any (·.isEmpty)

/-- A run of characters that can belong to a number, a truth value or a date. -/
def isRunChar (c : Char) : Bool :=
  c.isAlphanum || c = '_' || c = '+' || c = '-' || c = '.' || c = ':'

/-- The run at the front. A date may be followed by a blank and a time. -/
def run (cs : List Char) : List Char :=
  let first := cs.takeWhile isRunChar
  match cs.drop first.length with
  | ' ' :: c :: rest =>
    if (date? first).any (·.isEmpty) && c.isDigit then
      first ++ ' ' :: (c :: rest).takeWhile isRunChar
    else first
  | _ => first

def scalarOf? (cs : List Char) : Option Document :=
  match cs with
  | ['t', 'r', 'u', 'e'] => some (.boolean true)
  | ['f', 'a', 'l', 's', 'e'] => some (.boolean false)
  | cs =>
    if isMoment cs then some .moment
    else ((integer? cs).map Document.integer).or
      (((decimal? cs).or (special? cs)).map Document.real)

/-- A value that is neither a list nor a table, and what follows it. -/
def scalar? (cs : List Char) : Option (Document × List Char) :=
  match cs with
  | '"' :: _ | '\'' :: _ => (text? cs).map fun (t, rest) => (.text (String.ofList t), rest)
  | cs => (scalarOf? (run cs)).map (·, cs.drop (run cs).length)

end Toml
end Settings
end QueryFuzz
