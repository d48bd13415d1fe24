import QueryFuzz.Shell.Command
import QueryFuzz.Shell.Number

/-!
# Sums

Expressions over signed words of 64 bits: the operators of whole numbers and bits, comparisons,
choices and assignments to variables. What is not chosen is read but not evaluated, so it can
neither fail nor assign.
-/

namespace QueryFuzz
namespace Shell
namespace Arithmetic

/-- Why an expression has no value. -/
inductive Problem where
  | malformed (reason : String)
  /-- A variable holds no number. -/
  | noNumber (text : String)
  deriving DecidableEq, Repr

inductive Symbol where
  | number (n : Int)
  | name (s : String)
  | operator (s : String)
  deriving DecidableEq, Repr

/-- Operators, the longer ones first. -/
def operators : List String :=
  ["<<=", ">>=", "==", ">=", ">>", "<=", "<<", "||", "|=", "&&", "&=", "!=", "*=", "/=", "%=",
    "+=", "-=", "^=", "=", ">", "<", "|", "&", "!", "(", ")", "*", "/", "%", "+", "-", "~", "^",
    "?", ":"]

def symbols : Nat → List Char → List Symbol
  | 0, _ => []
  | fuel + 1, cs =>
    match cs.dropWhile fun c => c = ' ' || c = '\t' || c = '\n' with
    | [] => []
    | c :: rest =>
      if c.isDigit then
        let n := unsignedSpelling none (c :: rest)
        .number (clamp n.value) :: symbols fuel n.rest
      else if isNameStart c then
        let name := c :: rest.takeWhile isNameChar
        .name (String.ofList name) :: symbols fuel (rest.drop (name.length - 1))
      else match operators.find? fun op => op.toList.isPrefixOf (c :: rest) with
        | some op => .operator op :: symbols fuel ((c :: rest).drop op.length)
        | none => .operator c.toString :: symbols fuel rest

/-- What is left of an expression, and the variables it has assigned so far. -/
structure Progress where
  rest : List Symbol
  assigned : List (String × Int)

abbrev Evaluating := StateT Progress (Except Problem)

def peek : Evaluating (Option Symbol) := return (← get).rest.head?

def advance : Evaluating Unit := modify fun p => { p with rest := p.rest.drop 1 }

def fail {α : Type} (reason : String) : Evaluating α := throw (.malformed reason)

/-- The variables that an expression can see. -/
abbrev Lookup := String → Option String

def valueOf (lookup : Lookup) (name : String) : Evaluating Int := do
  match (← get).assigned.lookup name with
  | some n => return n
  | none =>
    let text := (lookup name).getD ""
    match number? none text with
    | some n => return n
    | none => throw (.noNumber text)

def truth (b : Bool) : Int := if b then 1 else 0

/-- The place of an operator with two operands; those that bind more have lower ones. -/
def rank? (op : String) : Option Nat :=
  match op with
  | "*" | "/" | "%" => some 0
  | "+" | "-" => some 1
  | "<<" | ">>" => some 2
  | "<" | "<=" | ">" | ">=" => some 3
  | "==" | "!=" => some 4
  | "&" => some 5
  | "^" => some 6
  | "|" => some 7
  | _ => none

/-- The bits of a number as an unsigned one. -/
def bitsOf (n : Int) : Nat := (n % Width.values 64).toNat

def bitwise (f : Nat → Nat → Nat) (a b : Int) : Int := wrap (f (bitsOf a) (bitsOf b))

def apply (op : String) (a b : Int) : Evaluating Int := do
  let distance := bitsOf b % 64
  match op with
  | "*" => return wrap (a * b)
  | "/" => if b = 0 then fail "division by zero" else return wrap (a.tdiv b)
  | "%" => if b = 0 then fail "division by zero" else return wrap (a.tmod b)
  | "+" => return wrap (a + b)
  | "-" => return wrap (a - b)
  | "<<" => return wrap (a * Width.values distance)
  | ">>" => return a.fdiv (Width.values distance)
  | "<" => return truth (a < b)
  | "<=" => return truth (a ≤ b)
  | ">" => return truth (b < a)
  | ">=" => return truth (b ≤ a)
  | "==" => return truth (a = b)
  | "!=" => return truth (a ≠ b)
  | "&" => return bitwise (· &&& ·) a b
  | "^" => return bitwise (· ^^^ ·) a b
  | "|" => return bitwise (· ||| ·) a b
  | _ => fail "expecting primary"

/-- The operator that an assignment combines with the old value. -/
def assignmentOperator? (op : String) : Option String :=
  if op = "=" then some ""
  else
    let front := String.ofList op.toList.dropLast
    if op.endsWith "=" && (rank? front).isSome && (rank? op).isNone then some front else none

mutual

/-- A value that may be assigned; `live` tells whether it is evaluated. -/
def assignment (lookup : Lookup) : Nat → Bool → Evaluating Int
  | 0, _ => fail "expecting primary"
  | fuel + 1, live => do
    match (← get).rest with
    | .name x :: .operator op :: rest =>
      match assignmentOperator? op with
      | none => choice lookup fuel live
      | some front =>
        modify fun p => { p with rest := rest }
        let n ← assignment lookup fuel live
        if !live then return n
        let n ← if front = "" then pure n else apply front (← valueOf lookup x) n
        modify fun p => { p with assigned := (x, n) :: p.assigned }
        return n
    | _ => choice lookup fuel live

def choice (lookup : Lookup) : Nat → Bool → Evaluating Int
  | 0, _ => fail "expecting primary"
  | fuel + 1, live => do
    let a ← disjunction lookup fuel live
    if (← peek) = some (.operator "?") then
      advance
      let b ← assignment lookup fuel (live && a ≠ 0)
      if (← peek) ≠ some (.operator ":") then fail "expecting ':'"
      advance
      let c ← choice lookup fuel (live && a = 0)
      return if a ≠ 0 then b else c
    else return a

def disjunction (lookup : Lookup) : Nat → Bool → Evaluating Int
  | 0, _ => fail "expecting primary"
  | fuel + 1, live => do
    let a ← conjunction lookup fuel live
    if (← peek) = some (.operator "||") then
      advance
      let b ← disjunction lookup fuel (live && a = 0)
      return truth (a ≠ 0 || b ≠ 0)
    else return a

def conjunction (lookup : Lookup) : Nat → Bool → Evaluating Int
  | 0, _ => fail "expecting primary"
  | fuel + 1, live => do
    let a ← binary lookup fuel live 8
    if (← peek) = some (.operator "&&") then
      advance
      let b ← conjunction lookup fuel (live && a ≠ 0)
      return truth (a ≠ 0 && b ≠ 0)
    else return a

/-- Operands joined by operators of ranks below a limit. -/
def binary (lookup : Lookup) : Nat → Bool → Nat → Evaluating Int
  | 0, _, _ => fail "expecting primary"
  | fuel + 1, live, limit => do
    binaryFrom lookup fuel live limit (← primary lookup fuel live)

def binaryFrom (lookup : Lookup) : Nat → Bool → Nat → Int → Evaluating Int
  | 0, _, _, _ => fail "expecting primary"
  | fuel + 1, live, limit, a => do
    match ← peek with
    | some (.operator op) =>
      match (rank? op).filter (· < limit) with
      | some rank =>
        advance
        let b ← binary lookup fuel live rank
        binaryFrom lookup fuel live limit (← if live then apply op a b else pure b)
      | none => return a
    | _ => return a

def primary (lookup : Lookup) : Nat → Bool → Evaluating Int
  | 0, _ => fail "expecting primary"
  | fuel + 1, live => do
    let s ← peek
    advance
    match s with
    | some (.number n) => return n
    | some (.name x) => if live then valueOf lookup x else return 0
    | some (.operator "(") =>
      let n ← assignment lookup fuel live
      if (← peek) ≠ some (.operator ")") then fail "expecting ')'"
      advance
      return n
    | some (.operator "+") => primary lookup fuel live
    | some (.operator "-") => return wrap (-(← primary lookup fuel live))
    | some (.operator "!") => return truth ((← primary lookup fuel live) = 0)
    | some (.operator "~") => return wrap (-(← primary lookup fuel live) - 1)
    | _ => fail "expecting primary"

end

/-- The value of an expression and the variables that it assigns, the latest first. -/
def evaluate (lookup : Lookup) (expression : String) :
    Except Problem (Int × List (String × Int)) := do
  let ss := symbols (expression.length + 1) expression.toList
  let (n, p) ← (assignment lookup (16 * (ss.length + 2)) true).run ⟨ss, []⟩
  if p.rest.isEmpty then return (n, p.assigned) else throw (.malformed "expecting EOF")

end Arithmetic
end Shell
end QueryFuzz
