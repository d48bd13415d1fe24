/-!
# Patterns of names

In a pattern a star stands for any text, a question mark for any character, and brackets for one
of a set. Characters that were quoted stand for themselves, and so does one behind a backslash.
-/

namespace QueryFuzz
namespace Shell

/-- A character and whether it was quoted. -/
abbrev Mark := Char × Bool

/-- Text of which each character is quoted or not. -/
abbrev Field := List Mark

def Field.text (f : Field) : String := String.ofList (f.map (·.1))

/-- Classes of characters by name; only the first 128 characters belong to any. -/
def isInClass (name : String) (c : Char) : Bool :=
  let n := c.toNat
  let isPunctuation := 32 < n && n < 127 && !c.isAlphanum
  match name with
  | "alpha" => c.isAlpha
  | "digit" => c.isDigit
  | "alnum" => c.isAlphanum
  | "upper" => c.isUpper
  | "lower" => c.isLower
  | "space" => c = ' ' || (9 ≤ n && n ≤ 13)
  | "blank" => c = ' ' || c = '\t'
  | "punct" => isPunctuation
  | "print" => 32 ≤ n && n < 127
  | "graph" => 32 < n && n < 127
  | "cntrl" => n < 32 || n = 127
  | "xdigit" => c.isDigit || ('a' ≤ c && c ≤ 'f') || ('A' ≤ c && c ≤ 'F')
  | _ => false

inductive Member where
  | range (low high : Char)
  | named (name : String)
  deriving DecidableEq, Repr

def Member.holds (c : Char) : Member → Bool
  | range low high => low ≤ c && c ≤ high
  | named name => isInClass name c

/-- What stands for one character. -/
inductive Atom where
  | any
  | only (c : Char)
  /-- One of the members, or none of them. -/
  | set (inside : Bool) (members : List Member)
  deriving DecidableEq, Repr

def Atom.accepts : Atom → Char → Bool
  | any, _ => true
  | only d, c => c = d
  | set inside members, c => members.any (·.holds c) = inside

/-- The name of a class at the front, up to its closing mark. -/
def className? (f : Field) : Option (String × Field) :=
  match f with
  | (':', false) :: rest =>
    let name := rest.takeWhile fun (c, _) => c.isAlpha
    match rest.drop name.length with
    | (':', _) :: (']', _) :: behind => some (String.ofList (name.map (·.1)), behind)
    | _ => none
  | _ => none

/-- The members up to a closing bracket, which counts as a member at the very front. -/
def members? (first : Bool) : Nat → Field → Option (List Member × Field)
  | 0, _ => none
  | fuel + 1, f =>
    let continueWith := fun (m : Member) (rest : Field) =>
      (members? false fuel rest).map fun (ms, rest) => (m :: ms, rest)
    match f with
    | [] => none
    | (c, quoted) :: rest =>
      if c = ']' && !quoted && !first then some ([], rest)
      else match if c = '[' && !quoted then className? rest else none with
        | some (name, rest) => continueWith (.named name) rest
        | none =>
          let (c, rest) := match c, quoted, rest with
            | '\\', false, (d, _) :: rest => (d, rest)
            | c, _, rest => (c, rest)
          match rest with
          | ('-', false) :: ('\\', false) :: (high, _) :: rest => continueWith (.range c high) rest
          | ('-', false) :: (high, isQuoted) :: behind =>
            if high = ']' && !isQuoted then continueWith (.range c c) rest
            else continueWith (.range c high) behind
          | rest => continueWith (.range c c) rest

/-- The set behind an opening bracket. -/
def bracket? (f : Field) : Option (Atom × Field) :=
  let (inside, f) := match f with
    | ('!', false) :: rest | ('^', false) :: rest => (false, rest)
    | f => (true, f)
  (members? true (f.length + 1) f).map fun (ms, rest) => (.set inside ms, rest)

/-- Atoms, each to be matched once or any number of times. -/
abbrev Pattern := List (Atom × Bool)

/-- The pattern that a field spells. -/
def Field.pattern : Nat → Field → Pattern
  | 0, _ => []
  | fuel + 1, f =>
    match f with
    | [] => []
    | ('*', false) :: rest => (.any, true) :: Field.pattern fuel rest
    | ('?', false) :: rest => (.any, false) :: Field.pattern fuel rest
    | ('\\', false) :: (c, _) :: rest => (.only c, false) :: Field.pattern fuel rest
    | ('[', false) :: rest =>
      match bracket? rest with
      | some (a, behind) => (a, false) :: Field.pattern fuel behind
      | none => (.only '[', false) :: Field.pattern fuel rest
    | (c, _) :: rest => (.only c, false) :: Field.pattern fuel rest

def Field.toPattern (f : Field) : Pattern := f.pattern (f.length + 1)

namespace Pattern

/-- What may be left of a pattern before the next character: stars at its front may be over. -/
def closure : Pattern → List Pattern
  | (a, true) :: p => ((a, true) :: p) :: closure p
  | p => [p]

/-- What may be left of a pattern behind a character. -/
def advance (c : Char) : Pattern → List Pattern
  | [] => []
  | (a, again) :: p =>
    if a.accepts c then closure (if again then (a, again) :: p else p) else []

/-- Patterns of which no two have the same length; what is left of one pattern is known by it. -/
def distinct (ps : List Pattern) : List Pattern :=
  ps.foldr (fun p kept => if kept.any (·.length = p.length) then kept else p :: kept) []

/-- What may be left of patterns behind a character. -/
def step (ps : List Pattern) (c : Char) : List Pattern := distinct (ps.flatMap (advance c))

/-- Does a pattern match all of a text? -/
def matchesAll (p : Pattern) (cs : List Char) : Bool :=
  (cs.foldl step (closure p)).any List.isEmpty

/-- The lengths of the beginnings of a text that are matched, the longest first, on top of those
that are known. -/
def lengthsFrom (ps : List Pattern) (n : Nat) (known : List Nat) : List Char → List Nat
  | [] => if ps.any List.isEmpty then n :: known else known
  | c :: rest =>
    let known := if ps.any List.isEmpty then n :: known else known
    if ps.isEmpty then known else lengthsFrom (step ps c) (n + 1) known rest

end Pattern

/-- Can the field match more than one name? -/
def Field.isPattern (f : Field) : Bool :=
  match f with
  | ('\\', false) :: _ :: rest => Field.isPattern rest
  | (c, quoted) :: rest => (!quoted && ['*', '?', '['].contains c) || Field.isPattern rest
  | [] => false

/-- A text without the shortest or the longest match of a pattern at its front. -/
def Pattern.trimStart (p : Pattern) (longest : Bool) (cs : List Char) : List Char :=
  let lengths := lengthsFrom (closure p) 0 [] cs
  match if longest then lengths.head? else lengths.getLast? with
  | some n => cs.drop n
  | none => cs

/-- A text without the shortest or the longest match of a pattern at one end. -/
def Pattern.trim (p : Pattern) (fromEnd longest : Bool) (cs : List Char) : List Char :=
  if fromEnd then (trimStart p.reverse longest cs.reverse).reverse else p.trimStart longest cs

end Shell
end QueryFuzz
