import QueryFuzz.Decimal.Digits
import QueryFuzz.Decimal.Reading
import QueryFuzz.Shell.Number

/-!
# Printing from scripts

Escapes and formats in what scripts print. A format is used again until all arguments are printed;
an argument that is no number is reported and printed as far as it is one.
-/

namespace QueryFuzz
namespace Shell

def isOctal (c : Char) : Bool := '0' ≤ c && c ≤ '7'

/-- The character of an octal number, which counts modulo 256. -/
def octalChar (digits : List Char) : Char :=
  Char.ofNat ((digitsFrom 8 digits).1 % 256)

/-- The character that a letter behind a backslash stands for. -/
def escapeLetter? : Char → Option Char
  | 'a' => some '\x07'
  | 'b' => some '\x08'
  | 'f' => some '\x0c'
  | 'n' => some '\n'
  | 'r' => some '\r'
  | 't' => some '\t'
  | 'v' => some '\x0b'
  | '\\' => some '\\'
  | _ => none

/-- The character of an escape behind its backslash, and how many characters spell it. What is no
escape leaves the backslash as it is. -/
def escape (cs : List Char) : Char × Nat :=
  let digits := (cs.takeWhile isOctal).take 3
  if !digits.isEmpty then (octalChar digits, digits.length)
  else match cs.head?.bind escapeLetter?, cs.head? with
    | some c, _ => (c, 1)
    | none, some 'e' => ('\x1b', 1)
    | none, _ => ('\\', 0)

/-- An argument with its escapes, in which octal numbers may have a zero in front; the flag tells
that an escape ends the output. -/
def unescaped : Nat → List Char → List Char × Bool
  | 0, _ => ([], false)
  | fuel + 1, cs =>
    match cs with
    | [] => ([], false)
    | '\\' :: 'c' :: _ => ([], true)
    | '\\' :: rest =>
      let (c, n) := match rest with
        | '0' :: digits =>
          let digits := (digits.takeWhile isOctal).take 3
          (octalChar digits, digits.length + 1)
        | rest => escape rest
      let (more, ended) := unescaped fuel (rest.drop n)
      (c :: more, ended)
    | c :: rest =>
      let (more, ended) := unescaped fuel rest
      (c :: more, ended)

def unescape (s : String) : String × Bool :=
  let (cs, ended) := unescaped (s.length + 1) s.toList
  (String.ofList cs, ended)

/-- What `echo` prints. -/
def echoed (arguments : List String) : String :=
  let (lineBreak, words) := match arguments with
    | "-n" :: rest => ("", rest)
    | words => ("\n", words)
  let (text, ended) := unescape (" ".intercalate words)
  if ended then text else text ++ lineBreak

/-! ### Conversions -/

/-- How a conversion is laid out. -/
structure Layout where
  flags : List Char
  width : Nat
  precision : Option Nat

def Layout.has (l : Layout) (c : Char) : Bool := l.flags.contains c

/-- Fills a text, which has a sign or a mark of its base in front, up to the width. -/
def Layout.fill (l : Layout) (zeros : Bool) (lead body : String) : String :=
  let missing := l.width - (lead.length + body.length)
  let fill := fun c => String.ofList (List.replicate missing c)
  if l.has '-' then lead ++ body ++ fill ' '
  else if zeros && l.has '0' then lead ++ fill '0' ++ body
  else fill ' ' ++ lead ++ body

def Layout.sign (l : Layout) (negative : Bool) : String :=
  if negative then "-" else if l.has '+' then "+" else if l.has ' ' then " " else ""

/-- A whole number in a base under the letter of its conversion. -/
def Layout.integer (l : Layout) (letter : Char) (n : Int) : String :=
  let isSigned := letter = 'd' || letter = 'i'
  let base := if letter = 'o' then 8 else if letter = 'x' || letter = 'X' then 16 else 10
  let size := if isSigned then n.natAbs else (n % Width.values 64).toNat
  let digits := if size = 0 && l.precision = some 0 then [] else Nat.toDigits base size
  let digits := List.replicate (l.precision.getD 1 - digits.length) '0' ++ digits
  let digits := if letter = 'X' then digits.map Char.toUpper else digits
  let digits := if letter = 'o' && l.has '#' && digits.head? ≠ some '0' then '0' :: digits
    else digits
  let lead := if isSigned then l.sign (n < 0)
    else if base = 16 && l.has '#' && size ≠ 0 then String.ofList ['0', letter] else ""
  l.fill l.precision.isNone lead (String.ofList digits)

/-- Digits with an exponent of at least two digits. -/
def exponentText (places : Nat) (significand : Nat) (exponent : Int) : String :=
  let f : Decimal.Figures :=
    if significand = 0 then ⟨0, 0⟩
    else
      let (num, den) := Decimal.Binary64.magnitude significand exponent
      Decimal.Figures.exact (places + 1) num den
  let digits := if significand = 0 then List.replicate (places + 1) '0' else f.text
  let order := if significand = 0 then 0 else f.order
  let size := toString order.natAbs
  String.ofList (digits.take 1) ++
    (if places = 0 then "" else "." ++ String.ofList (digits.drop 1)) ++
    (if order < 0 then "e-" else "e+") ++ (if size.length < 2 then "0" ++ size else size)

/-- The shorter of the two forms to a number of significant digits, without zeros at the end. -/
def generalText (keepsZeros : Bool) (count : Nat) (significand : Nat) (exponent : Int) : String :=
  let count := max count 1
  let scientific := exponentText (count - 1) significand exponent
  let order := (Decimal.readInteger?
    ((scientific.toList.dropWhile (· ≠ 'e')).drop 1)).getD 0
  let withoutZeros := fun (s : String) =>
    if keepsZeros || !s.toList.contains '.' then s
    else String.ofList ((s.toList.reverse.dropWhile (· = '0')).dropWhile (· = '.')).reverse
  if order < -4 || (count : Int) ≤ order then
    let mantissa := String.ofList (scientific.toList.takeWhile (· ≠ 'e'))
    withoutZeros mantissa ++ String.ofList (scientific.toList.dropWhile (· ≠ 'e'))
  else
    withoutZeros
      (Decimal.fixedText ((count : Int) - 1 - order).toNat (.finite false significand exponent))

/-- A number with a fraction under the letter of its conversion. -/
def Layout.real (l : Layout) (letter : Char) (x : Decimal.Binary64) : String :=
  let places := l.precision.getD 6
  let small := letter.toLower
  let spell := fun (s : String) => if letter.isUpper then s.toUpper else s
  match x with
  | .nan => l.fill false "" (spell "nan")
  | .infinite negative => l.fill false (l.sign negative) (spell "inf")
  | .finite negative significand exponent =>
    let body :=
      if small = 'e' then exponentText places significand exponent
      else if small = 'g' then generalText (l.has '#') places significand exponent
      else Decimal.fixedText places (.finite false significand exponent)
    l.fill true (l.sign negative) (spell body)

/-! ### Arguments -/

/-- What came of printing: the text, the complaints about arguments, and the error that ended
it. -/
structure Printout where
  text : String
  complaints : List String
  error : Option String

/-- The complaint about an argument of which something is not part of a number. -/
def conversionProblem (argument : String) (rest : List Char) (fits : Bool) : List String :=
  if !rest.isEmpty then
    if rest.length = argument.length then [argument ++ ": expected numeric value"]
    else [argument ++ ": not completely converted"]
  else if fits then [] else [argument ++ ": Numerical result out of range"]

/-- The number of the character behind a quotation mark. -/
def quotedNumber? (argument : String) : Option Nat :=
  match argument.toList with
  | '"' :: rest | '\'' :: rest => some ((rest.head?.map Char.toNat).getD 0)
  | _ => none

def integerArgument (signed : Bool) (argument : String) : Int × List String :=
  match quotedNumber? argument with
  | some n => (n, [])
  | none =>
    let s := spelling none argument.toList
    let n := if signed then clamp s.value
      else if (Width.values 64 : Int) ≤ s.value.natAbs then Width.values 64 - 1
      else s.value
    let fits := if signed then n = s.value else s.value.natAbs < Width.values 64
    (n, conversionProblem argument s.rest fits)

/-- The part of a text that spells a number with a fraction. -/
def realSpelling (cs : List Char) : List Char :=
  let sign := cs.takeWhile fun c => c = '+' || c = '-'
  let rest := cs.drop sign.length
  let word := fun (w : String) => (String.ofList (rest.take w.length)).toLower = w
  if 1 < sign.length then []
  else if word "infinity" then cs.take (sign.length + 8)
  else if word "inf" || word "nan" then cs.take (sign.length + 3)
  else
    let whole := rest.takeWhile Char.isDigit
    let fraction := match rest.drop whole.length with
      | '.' :: r => '.' :: r.takeWhile Char.isDigit
      | _ => []
    if whole.isEmpty && fraction.length < 2 then []
    else
      let behind := rest.drop (whole.length + fraction.length)
      let exponent := match behind with
        | e :: s :: d :: _ =>
          let signed := s = '+' || s = '-'
          if (e = 'e' || e = 'E') && (s.isDigit || (signed && d.isDigit)) then
            e :: s :: (behind.drop 2).takeWhile Char.isDigit
          else []
        | [e, d] => if (e = 'e' || e = 'E') && d.isDigit then [e, d] else []
        | _ => []
      sign ++ whole ++ fraction ++ exponent

def realArgument (argument : String) : Decimal.Binary64 × List String :=
  match quotedNumber? argument with
  | some n => (.nearest false n 1, [])
  | none =>
    let cs := argument.toList.dropWhile isSpace
    let spelled := realSpelling cs
    let rest := if spelled.isEmpty then argument.toList else cs.drop spelled.length
    ((Decimal.read? (String.ofList spelled)).getD (.finite false 0 0),
      conversionProblem argument rest true)

/-! ### Formats -/

/-- Printing as far as it has come. -/
structure Press where
  printed : List String
  arguments : List String
  complaints : List String

/-- The next argument, or nothing. -/
def Press.take (p : Press) : String × Press :=
  (p.arguments.head?.getD "", { p with arguments := p.arguments.drop 1 })

def Press.put (p : Press) (s : String) : Press := { p with printed := s :: p.printed }

def Press.complain (p : Press) (problems : List String) : Press :=
  { p with complaints := p.complaints ++ problems }

/-- A width or a precision, which may be an argument. -/
def layoutNumber (cs : List Char) (p : Press) : Option Int × List Char × Press :=
  match cs with
  | '*' :: rest =>
    let (argument, p) := p.take
    let (n, problems) := integerArgument true argument
    (some n, rest, p.complain problems)
  | cs =>
    let digits := cs.takeWhile fun c => c.isDigit || c = '*'
    (if digits.isEmpty then none else some (digitsFrom 10 digits).1, cs.drop digits.length, p)

/-- What to do after a conversion. -/
inductive Next where
  | proceed
  /-- An escape has ended the output. -/
  | stop
  | fail (error : String)

/-- Prints one argument under a conversion. -/
def convert (l : Layout) (directive : String) (letter : Char) (p : Press) : Press × Next :=
  let (argument, q) := p.take
  let cut := fun (s : String) => match l.precision with
    | some n => String.ofList (s.toList.take n)
    | none => s
  match letter with
  | 's' => (q.put (l.fill false "" (cut argument)), .proceed)
  | 'c' => (q.put (l.fill false "" (String.ofList
      (if argument = "" then ['\x00'] else argument.toList.take 1))), .proceed)
  | 'b' =>
    let (s, ended) := unescape argument
    (q.put (l.fill false "" (cut s)), if ended then .stop else .proceed)
  | 'd' | 'i' | 'o' | 'u' | 'x' | 'X' =>
    let (n, problems) := integerArgument (letter = 'd' || letter = 'i') argument
    ((q.complain problems).put (l.integer letter n), .proceed)
  | 'e' | 'E' | 'f' | 'F' | 'g' | 'G' =>
    let (x, problems) := realArgument argument
    ((q.complain problems).put (l.real letter x), .proceed)
  | _ => (p, .fail (directive ++ ": invalid directive"))

/-- Prints a format once. -/
def pressFormat : Nat → List Char → Press → Press × Next
  | 0, _, p => (p, .proceed)
  | fuel + 1, cs, p =>
    match cs with
    | [] => (p, .proceed)
    | '\\' :: rest =>
      let (c, n) := escape rest
      pressFormat fuel (rest.drop n) (p.put c.toString)
    | '%' :: '%' :: rest => pressFormat fuel rest (p.put "%")
    | '%' :: rest =>
      let flags := rest.takeWhile ['#', '-', '+', ' ', '0'].contains
      let (width, behind, q) := layoutNumber (rest.drop flags.length) p
      let (precision, behind, q) := match behind with
        | '.' :: r =>
          let (n, r, q) := layoutNumber r q
          (some (n.getD 0), r, q)
        | r => (none, r, q)
      match behind with
      | [] => (q, .fail "missing format character")
      | letter :: behind =>
        let width := width.getD 0
        let l : Layout :=
          ⟨if width < 0 then '-' :: flags else flags, width.natAbs,
            (precision.filter (0 ≤ ·)).map Int.toNat⟩
        let directive := String.ofList ('%' :: rest.take (rest.length - behind.length))
        match convert l directive letter q with
        | (q, .proceed) => pressFormat fuel behind q
        | stopped => stopped
    | c :: rest => pressFormat fuel rest (p.put c.toString)

/-- Prints a format until no arguments are left. -/
def pressAll (format : String) : Nat → Press → Press × Next
  | 0, p => (p, .proceed)
  | fuel + 1, p =>
    match pressFormat (format.length + 1) format.toList p with
    | (q, .proceed) =>
      if q.arguments.isEmpty || q.arguments.length = p.arguments.length then (q, .proceed)
      else pressAll format fuel q
    | stopped => stopped

/-- What `printf` prints. -/
def printed (format : String) (arguments : List String) : Printout :=
  let (p, next) := pressAll format (arguments.length + 1) ⟨[], arguments, []⟩
  ⟨String.join p.printed.reverse, p.complaints, match next with
    | .fail e => some e
    | _ => none⟩

end Shell
end QueryFuzz
