import QueryFuzz.Shell.Pattern
import QueryFuzz.Text.Words

/-!
# Regular expressions

Expressions as `grep` and `sed` take them, in the basic and the extended form. A match is the
leftmost one, and of those the longest. Matching goes from a position to all positions that can be
reached, so it ends however an expression repeats itself.
-/

namespace QueryFuzz
namespace Shell

inductive Expression where
  | empty
  | char (c : Char)
  | any
  | set (inside : Bool) (members : List Member)
  /-- The beginning of a line, or its end. -/
  | start
  | finish
  /-- The beginning or the end of a word, a place that is either, or one that is neither. -/
  | wordStart
  | wordEnd
  | wordEdge (isEdge : Bool)
  | group (number : Nat) (e : Expression)
  /-- What a group has matched. -/
  | again (number : Nat)
  | both (first second : Expression)
  | either (first second : Expression)
  | repeated (e : Expression) (least : Nat) (most : Option Nat)

namespace Expression

/-! ### Matching -/

/-- A position and what the groups have matched so far. -/
structure Reach where
  position : Nat
  groups : List (Nat × Nat × Nat)

/-- Reaches without those that stand where an earlier one stands. -/
def distinct (rs : List Reach) : List Reach :=
  (rs.foldl (fun (kept : List Reach) r =>
    if kept.any (·.position = r.position) then kept else r :: kept) []).reverse

variable (text : Array Char) (foldsCase : Bool)

def sameChar (a b : Char) : Bool := a = b || (foldsCase && a.toLower = b.toLower)

def inSet (ms : List Member) (c : Char) : Bool :=
  let has := fun c => ms.any (·.holds c)
  has c || (foldsCase && (has c.toLower || has c.toUpper))

def isWord (i : Nat) : Bool := (text[i]?).any fun c => c.isAlphanum || c = '_'

/-- Is there a word character before a position? -/
def isBehindWord (i : Nat) : Bool := 0 < i && isWord text (i - 1)

/-- One character further if it passes a test. -/
def step (p : Char → Bool) (r : Reach) : List Reach :=
  if (text[r.position]?).any p then [{ r with position := r.position + 1 }] else []

def stay (condition : Bool) (r : Reach) : List Reach := if condition then [r] else []

/-- Repeats a step between two numbers of times, from some reaches on; those of more turns come
first. Turns that lead nowhere new are not repeated. -/
def turns (next : Reach → List Reach) : Nat → Nat → Option Nat → List Reach → List Reach →
    List Reach
  | 0, _, _, _, found => found
  | fuel + 1, least, most, frontier, found =>
    let found := if least = 0 then frontier ++ found else found
    if frontier.isEmpty || most = some 0 then found
    else
      let reached := distinct (frontier.map next).flatten
      let new := if least = 0 then
          reached.filter fun r => !found.any (·.position = r.position)
        else reached
      turns next fuel (least - 1) (most.map (· - 1)) new found

/-- The test that an expression makes if it stands for single characters. -/
def single? : Expression → Option (Char → Bool)
  | char c => some (sameChar foldsCase c)
  | any => some fun _ => true
  | set inside ms => some fun c => inSet foldsCase ms c == inside
  | _ => none

/-- How many characters from a position on pass a test, up to a number. -/
def runLength (p : Char → Bool) (i : Nat) : Nat → Nat
  | 0 => 0
  | n + 1 => if (text[i]?).any p then runLength p (i + 1) n + 1 else 0

/-- All reaches of an expression from one on, the preferred ones first. -/
def reaches : Expression → Reach → List Reach
  | empty, r => [r]
  | char c, r => step text (sameChar foldsCase c) r
  | any, r => step text (fun _ => true) r
  | set inside ms, r => step text (fun c => inSet foldsCase ms c == inside) r
  | start, r => stay (r.position = 0) r
  | finish, r => stay (r.position = text.size) r
  | wordStart, r => stay (!isBehindWord text r.position && isWord text r.position) r
  | wordEnd, r => stay (isBehindWord text r.position && !isWord text r.position) r
  | wordEdge isEdge, r =>
    stay ((isBehindWord text r.position != isWord text r.position) == isEdge) r
  | group n e, r =>
    (reaches e r).map fun t =>
      { t with groups := (n, r.position, t.position) :: t.groups.filter (·.1 ≠ n) }
  | again n, r =>
    match r.groups.lookup n with
    | some (i, j) =>
      let part := text.extract i j
      let here := text.extract r.position (r.position + part.size)
      stay (here.size = part.size && (part.zip here).all fun (a, b) => sameChar foldsCase a b)
        { r with position := r.position + part.size }
    | none => []
  | both a b, r => distinct ((reaches a r).map (reaches b)).flatten
  | either a b, r => distinct (reaches a r ++ reaches b r)
  | repeated e least most, r =>
    match e.single? foldsCase with
    | some p =>
      let n := runLength text p r.position (match most with
        | some m => min m (text.size - r.position)
        | none => text.size - r.position)
      ((List.range (n + 1 - least)).map fun k => { r with position := r.position + n - k })
    | none => turns (reaches e) (text.size + least + 2) least most [r] []

/-- A match: where it starts, where it ends, and the groups in it. -/
structure Match where
  start : Nat
  stop : Nat
  groups : List (Nat × Nat × Nat)

/-- The longest match that starts at a position. -/
def matchAt? (e : Expression) (i : Nat) : Option Match :=
  let found := e.reaches text foldsCase ⟨i, []⟩
  let longest := found.foldl (fun n r => max n r.position) 0
  (found.find? (·.position = longest)).map fun r => ⟨i, r.position, r.groups⟩

/-- The first match from a position on. -/
def match? (e : Expression) (i : Nat) : Option Match :=
  (List.range (text.size + 1 - i)).findSome? fun k => e.matchAt? text foldsCase (i + k)

/-! ### Reading -/

/-- A reader of expressions. -/
structure Draft where
  rest : List Char
  /-- How many groups were opened. -/
  groups : Nat
  isExtended : Bool

abbrev Drafting := StateT Draft (Except String)

namespace Drafting

def peek (n : Nat) : Drafting (List Char) := return (← get).rest.take n

def skip (n : Nat) : Drafting Unit := modify fun d => { d with rest := d.rest.drop n }

/-- Takes an operator, which stands behind a backslash in the basic form. -/
def accept (op : Char) : Drafting Bool := do
  let mark := if (← get).isExtended then [op] else ['\\', op]
  if (← peek mark.length) = mark then
    skip mark.length
    return true
  else return false

/-- Is an operator next? -/
def isNext (op : Char) : Drafting Bool := do
  let mark := if (← get).isExtended then [op] else ['\\', op]
  return (← peek mark.length) = mark

/-- The members of a set up to its closing bracket. -/
def members : Nat → Bool → List Char → Except String (List Member × List Char)
  | 0, _, _ => .error "Unmatched [, [^, [:, [., or [="
  | fuel + 1, isFirst, cs =>
    let more := fun (m : Member) (rest : List Char) =>
      (members fuel false rest).map fun (ms, rest) => (m :: ms, rest)
    match cs with
    | [] => .error "Unmatched [, [^, [:, [., or [="
    | ']' :: rest => if isFirst then range more ']' rest else .ok ([], rest)
    | '[' :: ':' :: rest =>
      let name := rest.takeWhile Char.isAlpha
      match rest.drop name.length with
      | ':' :: ']' :: behind => more (.named (String.ofList name)) behind
      | _ => .error "Unmatched [, [^, [:, [., or [="
    | '[' :: '.' :: c :: '.' :: ']' :: rest | '[' :: '=' :: c :: '=' :: ']' :: rest =>
      more (.range c c) rest
    | c :: rest => range more c rest
where
  /-- A character that may start a range. -/
  range {α : Type} (more : Member → List Char → Except String α) (low : Char)
      (rest : List Char) : Except String α :=
    match rest with
    | '-' :: ']' :: _ => more (.range low low) rest
    | '-' :: high :: behind =>
      if high < low then .error "Invalid range end" else more (.range low high) behind
    | _ => more (.range low low) rest

/-- What a letter behind a backslash means. -/
def escaped (c : Char) : Drafting Expression := do
  let word : List Member := [.named "alnum", .range '_' '_']
  match c with
  | 'w' => return .set true word
  | 'W' => return .set false word
  | 's' => return .set true [.named "space"]
  | 'S' => return .set false [.named "space"]
  | '<' => return .wordStart
  | '>' => return .wordEnd
  | 'b' => return .wordEdge true
  | 'B' => return .wordEdge false
  | '\x60' => return .start
  | '\'' => return .finish
  | 'n' => return .char '\n'
  | 't' => return .char '\t'
  | c =>
    if c.isDigit && c ≠ '0' then
      let n := c.toNat - 48
      if (← get).groups < n then throw "Invalid back reference"
      return .again n
    else return .char c

/-- Bounds of a repetition in braces. -/
def bounds : Drafting (Nat × Option Nat) := do
  let d ← get
  let inside := d.rest.takeWhile fun c => c.isDigit || c = ','
  let close := if d.isExtended then ['\x7d'] else ['\\', '\x7d']
  let rest := d.rest.drop inside.length
  if rest.take close.length ≠ close then throw "Unmatched \\\x7b"
  modify fun d => { d with rest := rest.drop close.length }
  let number := fun (cs : List Char) => (String.ofList cs).toNat?
  match Text.splitOn ',' inside with
  | [n] =>
    match number n with
    | some n => return (n, some n)
    | none => throw "Invalid content of \\\x7b\\\x7d"
  | [low, high] =>
    let n := (number low).getD 0
    if high.isEmpty then return (n, none)
    else match number high with
      | some m => if m < n then throw "Invalid content of \\\x7b\\\x7d" else return (n, some m)
      | none => throw "Invalid content of \\\x7b\\\x7d"
  | _ => throw "Invalid content of \\\x7b\\\x7d"

/-- An expression with the repetitions behind it. -/
def repetitions : Nat → Expression → Drafting Expression
  | 0, e => return e
  | fuel + 1, e => do
    if (← peek 1) = ['*'] then
      skip 1
      repetitions fuel (.repeated e 0 none)
    else if ← accept '+' then repetitions fuel (.repeated e 1 none)
    else if ← accept '?' then repetitions fuel (.repeated e 0 (some 1))
    else if ← accept '\x7b' then
      let (n, m) ← bounds
      repetitions fuel (.repeated e n m)
    else return e

/-- Does an anchor stand in front of what follows? -/
def endsHere : Drafting Bool := do
  let d ← get
  return d.rest.isEmpty || (← isNext ')') || (← isNext '|')

mutual

/-- Alternatives up to the end, or to a closing parenthesis. -/
def alternatives : Nat → Bool → Drafting Expression
  | 0, _ => throw "Regular expression too big"
  | fuel + 1, isInside => do
    let first ← branch fuel isInside true
    if ← accept '|' then return .either first (← alternatives fuel isInside)
    else return first

/-- Expressions one after the other. -/
def branch : Nat → Bool → Bool → Drafting Expression
  | 0, _, _ => throw "Regular expression too big"
  | fuel + 1, isInside, isFirst => do
    let d ← get
    if d.rest.isEmpty || (← isNext '|') then return .empty
    else if isInside && (← isNext ')') then return .empty
    else
      let (e, anchors) ← atom fuel isFirst
      let e ← if anchors then pure e else repetitions (d.rest.length + 1) e
      let rest ← branch fuel isInside (isFirst && anchors)
      return match rest with
        | .empty => e
        | rest => .both e rest

/-- One expression; the flag tells that it is an anchor, behind which a star is a character. -/
def atom : Nat → Bool → Drafting (Expression × Bool)
  | 0, _ => throw "Regular expression too big"
  | fuel + 1, isFirst => do
    let isExtended := (← get).isExtended
    if ← accept '(' then
      let n := (← get).groups + 1
      modify fun d => { d with groups := n }
      let e ← alternatives fuel true
      if !(← accept ')') then throw "Unmatched ( or \\("
      return (.group n e, false)
    else
      match (← get).rest with
      | '.' :: _ =>
        skip 1
        return (.any, false)
      | '[' :: '^' :: rest =>
        let (ms, rest) ← members (rest.length + 1) true rest
        modify fun d => { d with rest := rest }
        return (.set false ms, false)
      | '[' :: rest =>
        let (ms, rest) ← members (rest.length + 1) true rest
        modify fun d => { d with rest := rest }
        return (.set true ms, false)
      | '^' :: _ =>
        skip 1
        return if isExtended || isFirst then (.start, true) else (.char '^', false)
      | '$' :: _ =>
        skip 1
        return if isExtended || (← endsHere) then (.finish, isExtended) else (.char '$', false)
      | '\\' :: c :: _ =>
        if !isExtended && c = ')' then throw "Unmatched ) or \\)"
        skip 2
        return (← escaped c, false)
      | ['\\'] => throw "Trailing backslash"
      | c :: _ =>
        skip 1
        return (.char c, false)
      | [] => return (.empty, false)

end

end Drafting

/-- The expression that a text spells. -/
def read (isExtended : Bool) (s : String) : Except String Expression := do
  let (e, d) ← (Drafting.alternatives (8 * (s.length + 2)) false).run ⟨s.toList, 0, isExtended⟩
  if d.rest.isEmpty then return e else throw "Unmatched ) or \\)"

end Expression
end Shell
end QueryFuzz
