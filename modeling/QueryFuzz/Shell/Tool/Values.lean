import QueryFuzz.Shell.Expression
import QueryFuzz.Shell.Printing
import QueryFuzz.Shell.Tool.Basic

/-!
# Tools for values

Tools that compute with their arguments: numbers, texts and paths. They do not look at the input.
-/

namespace QueryFuzz
namespace Shell
namespace Tool

/-! ### Sequences -/

/-- A decimal number as a whole number of its last place, and how many places it has. -/
structure Scaled where
  value : Int
  places : Nat

def scaled? (s : String) : Option Scaled :=
  let (negative, cs) := match s.toList with
    | '-' :: rest => (true, rest)
    | '+' :: rest => (false, rest)
    | cs => (false, cs)
  let whole := cs.takeWhile Char.isDigit
  let fraction? := match cs.drop whole.length with
    | [] => some []
    | '.' :: rest => if rest.all Char.isDigit then some rest else none
    | _ => none
  match fraction? with
  | none => none
  | some fraction =>
    match natural? (String.ofList (whole ++ fraction)) with
    | some n => some ⟨if negative then -(n : Int) else n, fraction.length⟩
    | none => none

/-- The same number with more places. -/
def Scaled.atPlaces (x : Scaled) (places : Nat) : Int :=
  x.value * (Nat.pow 10 (places - x.places) : Nat)

def placesText (places : Nat) (n : Int) : String :=
  let digits := Nat.toDigits 10 n.natAbs
  let digits := List.replicate (places + 1 - digits.length) '0' ++ digits
  let cut := digits.length - places
  (if n < 0 then "-" else "") ++ String.ofList (digits.take cut) ++
    (if places = 0 then "" else "." ++ String.ofList (digits.drop cut))

def seq : Tool := fun arguments =>
  let m : Manual := ⟨"seq", "w", "sf", [("separator", 's'), ("equal-width", 'w')], 1⟩
  let (front, numbers) := split arguments
  ofManual m (fun g => do
    let bad := numbers.find? fun a => (scaled? a).isNone
    match bad, numbers.filterMap scaled? with
    | some a, _ =>
      misused m ("invalid floating point argument: " ++ quoted a)
    | none, [] => misused m "missing operand"
    | none, [last] => print g ⟨1, 0⟩ ⟨1, 0⟩ last
    | none, [first, last] => print g first ⟨1, 0⟩ last
    | none, [first, step, last] =>
      if step.value = 0 then
        misused m ("invalid Zero increment value: " ++ quoted ((numbers[1]?).getD ""))
      else print g first step last
    | none, _ => misused m ("extra operand " ++ quoted ((numbers[3]?).getD ""))) front
where
  /-- Options stand in front; what looks like a negative number is none. -/
  split : List String → List String × List String
    | "--" :: rest => ([], rest)
    | "-s" :: value :: rest =>
      let (options, numbers) := split rest
      ("-s" :: value :: options, numbers)
    | "-f" :: value :: rest =>
      let (options, numbers) := split rest
      ("-f" :: value :: options, numbers)
    | a :: rest =>
      let isOption := match a.toList with
        | '-' :: c :: _ => !(c.isDigit || c = '.')
        | _ => false
      if isOption then
        let (options, numbers) := split rest
        (a :: options, numbers)
      else ([], a :: rest)
    | [] => ([], [])
  print (g : Given) (first step last : Scaled) : Step Nat := do
    let places := max first.places step.places
    let all := max places last.places
    let (low, by_, high) := (first.atPlaces all, step.atPlaces all, last.atPlaces all)
    let inRange := if 0 < by_ then low ≤ high else high ≤ low
    if inRange then
      let count := ((high - low).tdiv by_ + 1).toNat
      let values := (List.range (min count 1000000)).map fun i : Nat =>
        placesText places ((low + by_ * (i : Int)).tdiv (Nat.pow 10 (all - places) : Nat))
      let width := if g.has 'w' then (values.map String.length).foldl max 0 else 0
      let fill := fun (s : String) =>
        let zeros := String.ofList (List.replicate (width - s.length) '0')
        if s.startsWith "-" then "-" ++ zeros ++ (s.drop 1).toString else zeros ++ s
      let shown := values.map fun s =>
        match g.value? 'f' with
        | some format => (printed format [s]).text
        | none => fill s
      Step.print (((g.value? 's').getD "\n").intercalate shown ++ "\n")
    return 0

/-! ### Expressions -/

/-- What an expression stands for is a text, which may be a number. -/
abbrev Value := String

def isTrue (v : Value) : Bool :=
  v ≠ "" && v ≠ "0" && v ≠ "-0"

def integer? (v : Value) : Option Int :=
  match v.toList with
  | '-' :: rest => (natural? (String.ofList rest)).map fun n => -(n : Int)
  | _ => (natural? v).map Int.ofNat

def truth (b : Bool) : Value := if b then "1" else "0"

/-- Operators by how loosely they bind. -/
def operators : List (List String) :=
  [["|"], ["&"], ["<", "<=", "=", "==", "!=", ">=", ">"], ["+", "-"], ["*", "/", "%"], [":"]]

/-- A text matched from its beginning: the first group, or the length of the match. -/
def matched (s pattern : String) : Except String Value := do
  let e ← Expression.read false pattern
  let text := s.toList.toArray
  let hasGroup := pattern.toList.zip (pattern.toList.drop 1) |>.contains ('\\', '(')
  match e.matchAt? text false 0 with
  | none => return if hasGroup then "" else "0"
  | some m =>
    if hasGroup then
      match m.groups.lookup 1 with
      | some (i, j) => return String.ofList (text.extract i j).toList
      | none => return ""
    else return toString m.stop

def apply (op : String) (a b : Value) : Except String Value := do
  let numbers : Except String (Int × Int) :=
    match integer? a, integer? b with
    | some m, some n => .ok (m, n)
    | _, _ => .error "non-integer argument"
  match op with
  | "|" => return if isTrue a then a else if isTrue b then b else "0"
  | "&" => return if isTrue a && isTrue b then a else "0"
  | "+" =>
    let (m, n) ← numbers
    return toString (m + n)
  | "-" =>
    let (m, n) ← numbers
    return toString (m - n)
  | "*" =>
    let (m, n) ← numbers
    return toString (m * n)
  | "/" =>
    let (m, n) ← numbers
    if n = 0 then throw "division by zero"
    return toString (m.tdiv n)
  | "%" =>
    let (m, n) ← numbers
    if n = 0 then throw "division by zero"
    return toString (m.tmod n)
  | ":" => matched a b
  | op =>
    let order := match integer? a, integer? b with
      | some m, some n => compareNumbers m n
      | _, _ => compareTexts a.toList b.toList
    return truth (match op with
      | "<" => order = .lt
      | "<=" => order ≠ .gt
      | ">" => order = .gt
      | ">=" => order ≠ .lt
      | "!=" => order ≠ .eq
      | _ => order = .eq)

/-- The value of words from a level of operators on, and the words behind it. -/
def level : Nat → Nat → List String → Except String (Value × List String)
  | 0, _, _ => .error "syntax error"
  | fuel + 1, n, ws =>
    match operators[n]? with
    | none => operand fuel ws
    | some ops => do
      let (a, rest) ← level fuel (n + 1) ws
      chain fuel n ops a rest
where
  chain : Nat → Nat → List String → Value → List String → Except String (Value × List String)
    | 0, _, _, _, _ => .error "syntax error"
    | fuel + 1, n, ops, a, rest =>
      match rest with
      | op :: more =>
        if ops.contains op then do
          if more.isEmpty then throw ("syntax error: missing argument after " ++ quoted op)
          let (b, rest) ← level fuel (n + 1) more
          chain fuel n ops (← apply op a b) rest
        else .ok (a, rest)
      | [] => .ok (a, [])
  operand : Nat → List String → Except String (Value × List String)
    | 0, _ => .error "syntax error"
    | fuel + 1, ws =>
      match ws with
      | [] => .error "syntax error: missing argument"
      | "(" :: rest => do
        let (a, rest) ← level fuel 0 rest
        match rest with
        | ")" :: rest => return (a, rest)
        | s :: _ => throw ("syntax error: expecting ')' instead of " ++ quoted s)
        | [] => throw ("syntax error: expecting ')' after " ++ quoted ((ws.getLast?).getD ""))
      | "length" :: s :: rest => .ok (toString s.length, rest)
      | "match" :: s :: p :: rest => do return (← matched s p, rest)
      | "substr" :: s :: p :: n :: rest =>
        let part := match integer? p, integer? n with
          | some p, some n =>
            if p ≤ 0 || n ≤ 0 then [] else (s.toList.drop (p.toNat - 1)).take n.toNat
          | _, _ => []
        .ok (String.ofList part, rest)
      | "index" :: s :: cs :: rest =>
        let i := s.toList.findIdx cs.toList.contains
        .ok (toString (if i < s.length then i + 1 else 0), rest)
      | "+" :: s :: rest => .ok (s, rest)
      | s :: rest => .ok (s, rest)

def expr : Tool := fun arguments => do
  let ws := if arguments.head? = some "--" then arguments.drop 1 else arguments
  if ws.isEmpty then return ← misused ⟨"expr", "", "", [], 2⟩ "missing operand"
  match level (32 * (ws.length + 2)) 0 ws with
  | .ok (v, []) =>
    Step.print (v ++ "\n")
    return if isTrue v then 0 else 1
  | .ok (_, s :: _) =>
    complain "expr" ("syntax error: unexpected argument " ++ quoted s)
    return 2
  | .error e =>
    complain "expr" e
    return 2

/-! ### Paths -/

def withoutSlashes (path : String) : String :=
  let cs := (path.toList.reverse.dropWhile (· = '/')).reverse
  if cs.isEmpty && path ≠ "" then "/" else String.ofList cs

def lastName (path : String) : String :=
  let path := withoutSlashes path
  if path = "/" then "/"
  else String.ofList ((path.toList.reverse.takeWhile (· ≠ '/')).reverse)

def basename : Tool :=
  let m : Manual := ⟨"basename", "az", "s", [("suffix", 's'), ("multiple", 'a')], 1⟩
  ofManual m fun g => do
    let strip := fun (ending name : String) =>
      if ending ≠ "" && name ≠ ending && name.endsWith ending then
        String.ofList (name.toList.take (name.length - ending.length))
      else name
    match g.operands with
    | [] => misused m "missing operand"
    | operands =>
      if g.has 'a' || g.has 's' then
        Step.print (joinLines (operands.map fun p => strip ((g.value? 's').getD "") (lastName p)))
        return 0
      else match operands with
        | [path] =>
          Step.print (lastName path ++ "\n")
          return 0
        | [path, ending] =>
          Step.print (strip ending (lastName path) ++ "\n")
          return 0
        | _ :: _ :: extra :: _ => misused m ("extra operand " ++ quoted extra)
        | [] => return 1

def directoryName (path : String) : String :=
  let path := withoutSlashes path
  if path = "/" then "/"
  else
    let front := (path.toList.reverse.dropWhile (· ≠ '/')).reverse
    if front.isEmpty then "." else withoutSlashes (String.ofList front)

def dirname : Tool :=
  let m : Manual := ⟨"dirname", "z", "", [], 1⟩
  ofManual m fun g => do
    if g.operands.isEmpty then return ← misused m "missing operand"
    Step.print (joinLines (g.operands.map directoryName))
    return 0

/-! ### Texts -/

/-- `echo` as a program: escapes count only if asked for. -/
def echo : Tool := fun arguments => do
  let isOption := fun (a : String) =>
    match a.toList with
    | '-' :: c :: rest => (c :: rest).all ['n', 'e', 'E'].contains
    | _ => false
  let options := (arguments.takeWhile isOption).flatMap String.toList
  let words := " ".intercalate (arguments.dropWhile isOption)
  let interprets := (options.reverse.find? fun c => c = 'e' || c = 'E') = some 'e'
  let (text, ended) := if interprets then unescape words else (words, false)
  Step.print (text ++ if ended || options.contains 'n' then "" else "\n")
  return 0

/-- Prints a line more often than anyone reads it. -/
def yes : Tool := fun arguments => do
  let line := (if arguments.isEmpty then "y" else " ".intercalate arguments) ++ "\n"
  Step.print (String.join (List.replicate (131072 / line.length + 1) line))
  throw .overran

/-- The name of the system. -/
def uname : Tool := fun _ => do
  Step.print "Linux\n"
  return 0

/-- The time, which stands still at its beginning. -/
def date : Tool := fun _ => do
  Step.print "Thu Jan  1 00:00:00 UTC 1970\n"
  return 0

/-- The exported variables, or some of them. -/
def printenv : Tool := fun arguments => do
  let exported := (← get).bindings.filterMap fun (name, b) =>
    if b.exported then b.value.map (name, ·) else none
  match arguments with
  | [] =>
    Step.print (joinLines (exported.reverse.map fun (name, value) => name ++ "=" ++ value))
    return 0
  | names =>
    let found := names.filterMap fun name => exported.lookup name
    Step.print (joinLines found)
    return if found.length = names.length then 0 else 1

/-- A duration in milliseconds, rounded up. -/
def duration? (s : String) : Option Nat :=
  let cs := s.toList
  let (body, unit) := match cs.getLast? with
    | some 's' => (cs.dropLast, 1)
    | some 'm' => (cs.dropLast, 60)
    | some 'h' => (cs.dropLast, 3600)
    | some 'd' => (cs.dropLast, 86400)
    | _ => (cs, 1)
  match scaled? (String.ofList body) with
  | some x =>
    if x.value < 0 then none
    else
      let scale := Nat.pow 10 x.places
      some ((x.value.toNat * unit * 1000 + scale - 1) / scale)
  | none => if String.ofList body = "infinity" then some (Nat.pow 10 12) else none

def sleep : Tool :=
  let m : Manual := ⟨"sleep", "", "", [], 1⟩
  fun arguments => do
    let arguments := arguments.filter (· ≠ "--")
    if arguments.isEmpty then return ← misused m "missing operand"
    match arguments.find? fun a => (duration? a).isNone with
    | some a => misused m ("invalid time interval " ++ quoted a)
    | none =>
      Step.pass ((arguments.filterMap duration?).foldl (· + ·) 0)
      return 0

end Tool
end Shell
end QueryFuzz
