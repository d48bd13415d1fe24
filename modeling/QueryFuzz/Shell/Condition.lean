import QueryFuzz.Shell.Number

/-!
# Conditions

The language of `test`: questions about files, comparisons of texts and numbers, and their
combinations. With few words their number decides what they mean, so a word that looks like an
operator can still be an operand.
-/

namespace QueryFuzz
namespace Shell
namespace Condition

/-- What a path leads to. -/
inductive Target where
  | missing
  | directory
  | file (size : Nat) (executable : Bool)
  | device
  deriving DecidableEq, Repr

def Target.isExecutable : Target → Bool
  | .directory => true
  | .file _ executable => executable
  | _ => false

def Target.isFile : Target → Bool
  | .file .. => true
  | _ => false

/-- A directory always has something in it. -/
def Target.isFilled : Target → Bool
  | .directory => true
  | .file size _ => size ≠ 0
  | _ => false

def unaryOperators : List String :=
  ["-r", "-w", "-x", "-e", "-f", "-d", "-c", "-b", "-p", "-u", "-g", "-k", "-s", "-t", "-z", "-n",
    "-h", "-O", "-G", "-L", "-S"]

def binaryOperators : List String :=
  ["=", "!=", "<", ">", "-eq", "-ne", "-ge", "-gt", "-le", "-lt", "-nt", "-ot", "-ef"]

/-- What a word is where it stands. -/
inductive Role where
  | operand
  | unary
  | binary
  | negation
  | conjunction
  | disjunction
  | opening
  | closing
  | finish
  deriving DecidableEq, Repr

/-- The role of the first of some words. An operator of one operand is an operand itself if nothing
or an operator of two operands follows. -/
def role : List String → Role
  | [] => .finish
  | s :: rest =>
    if unaryOperators.contains s then
      match rest with
      | [] => .operand
      | [_] => .unary
      | next :: _ => if binaryOperators.contains next then .operand else .unary
    else if binaryOperators.contains s then .binary
    else match s with
      | "!" => .negation
      | "-a" => .conjunction
      | "-o" => .disjunction
      | "(" => if rest.isEmpty then .operand else .opening
      | ")" => .closing
      | _ => .operand

/-- A result and the words from the last one that was used on, or the text of an error. -/
abbrev Answer := Except String (Bool × List String)

def number (s : String) : Except String Int :=
  match number? (some 10) s with
  | some n => .ok n
  | none => .error ("Illegal number: " ++ s)

variable (inspect : String → Target)

def holdsOf (op operand : String) : Except String Bool := do
  let target := inspect operand
  match op with
  | "-z" => return operand = ""
  | "-n" => return operand ≠ ""
  | "-t" =>
    let _ ← number operand
    return false
  | "-e" | "-r" | "-w" | "-O" | "-G" => return target ≠ .missing
  | "-x" => return target.isExecutable
  | "-f" => return target.isFile
  | "-d" => return target = .directory
  | "-c" => return target = .device
  | "-s" => return target.isFilled
  | _ => return false

def holdsBetween (op left right : String) : Except String Bool := do
  let compare := fun (f : Int → Int → Bool) => do
    let m ← number left
    return f m (← number right)
  match op with
  | "=" => return left = right
  | "!=" => return left ≠ right
  | "<" => return left < right
  | ">" => return right < left
  | "-eq" => compare fun m n => m = n
  | "-ne" => compare fun m n => m ≠ n
  | "-ge" => compare fun m n => n ≤ m
  | "-gt" => compare fun m n => n < m
  | "-le" => compare fun m n => m ≤ n
  | "-lt" => compare fun m n => m < n
  | "-ef" => return left = right && inspect left ≠ .missing
  | _ => return false

mutual

def disjunction : Nat → List String → Answer
  | 0, _ => .error "closing paren expected"
  | fuel + 1, ws => do
    let (a, ws) ← conjunction fuel ws
    if role (ws.drop 1) = .disjunction then
      let (b, ws) ← disjunction fuel (ws.drop 2)
      return (a || b, ws)
    else return (a, ws)

def conjunction : Nat → List String → Answer
  | 0, _ => .error "closing paren expected"
  | fuel + 1, ws => do
    let (a, ws) ← negation fuel ws
    if role (ws.drop 1) = .conjunction then
      let (b, ws) ← conjunction fuel (ws.drop 2)
      return (a && b, ws)
    else return (a, ws)

def negation : Nat → List String → Answer
  | 0, _ => .error "closing paren expected"
  | fuel + 1, ws => do
    if role ws = .negation then
      let (a, ws) ← negation fuel (if ws.length = 1 then [] else ws.drop 1)
      return (!a, ws)
    else primary fuel ws

def primary : Nat → List String → Answer
  | 0, _ => .error "closing paren expected"
  | fuel + 1, ws =>
    match role ws, ws with
    | .finish, ws => .ok (false, ws)
    | .opening, _ :: inside => do
      if role inside = .closing then return (false, inside)
      let (a, ws) ← disjunction fuel inside
      if role (ws.drop 1) = .closing then return (a, ws.drop 1)
      else throw "closing paren expected"
    | .unary, op :: operand :: rest => do
      return (← holdsOf inspect op operand, operand :: rest)
    | _, left :: rest =>
      if role rest = .binary then
        match rest with
        | op :: right :: rest => do
          return (← holdsBetween inspect op left right, right :: rest)
        | op :: _ => .error (op ++ ": argument expected")
        | [] => .ok (false, [])
      else .ok (left ≠ "", left :: rest)
    | _, [] => .ok (false, [])

end

/-- The value of a whole condition. -/
def evaluate : Nat → List String → Except String Bool
  | 0, _ => .error "closing paren expected"
  | fuel + 1, ws =>
    let general := fun (ws : List String) => do
      let (a, left) ← disjunction inspect (8 * (ws.length + 2)) ws
      match left with
      | s :: _ :: _ => throw (s ++ ": unexpected operator")
      | _ => return a
    let inside := fun (ws : List String) => (ws.drop 1).dropLast
    let isEnclosed := ws.head? = some "(" && ws.getLast? = some ")"
    match ws with
    | [] => .ok false
    | [left, op, right] =>
      if binaryOperators.contains op then holdsBetween inspect op left right
      else if isEnclosed then general (inside ws)
      else if left = "!" then (evaluate fuel (ws.drop 1)).map (!·)
      else general ws
    | [first, _, _, _] =>
      if isEnclosed then general (inside ws)
      else if first = "!" then (evaluate fuel (ws.drop 1)).map (!·)
      else general ws
    | ws => general ws

end Condition
end Shell
end QueryFuzz
