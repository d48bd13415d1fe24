import QueryFuzz.Oracle.Verdict

/-!
# Reducing failing queries

A failing query is made smaller step by step. Each step is one simplification: a statement, an
optional clause, a conjunct or a select item dropped, a call or a pair of parentheses removed, a
literal replaced by the least of its kind. The first smaller text that still shows the same kind
of failure takes the place of the query, and the search starts again, until nothing smaller does
or the attempts are spent.
-/

namespace QueryFuzz
namespace Reduction

open Sql
open Oracle (VerdictKind)

/-- The position of the parenthesis that closes the one at the front. -/
def closingParen? (index depth : Nat) : List Token → Option Nat
  | [] => none
  | t :: rest =>
    match t.kind with
    | .leftParen => closingParen? (index + 1) (depth + 1) rest
    | .rightParen =>
      if depth = 0 then none
      else if depth = 1 then some index
      else closingParen? (index + 1) (depth - 1) rest
    | _ => closingParen? (index + 1) depth rest

/-- A run of tokens and what replaces it. -/
abbrev Edit := Span × List Token

/-- The edit that removes the parentheses opened at a position of a region, and the function in
front of them. Subqueries, lists behind `IN` and calls with several arguments stay. -/
def unwrapAt? (tokens : List Token) (region : Span) (i : Nat) : Option Edit :=
  if !tokens[i]?.any (·.kind == .leftParen) then none
  else match closingParen? i 0 (tokens.drop i) with
    | none => none
    | some close =>
      let content := (⟨i + 1, close⟩ : Span).slice tokens
      let before := if i = 0 then none else tokens[i - 1]?
      let single := !content.any (·.kind == .comma)
      if region.stop ≤ close || content.isEmpty || content.head?.any (·.isWord "SELECT") ||
          before.any (·.isAnyOf ["IN", "EXISTS"]) then none
      else if before.any (·.kind == .identifier) then
        if single && !(content.length == 1 && content.all (·.isOperator "*")) then
          some (⟨i - 1, close + 1⟩, content)
        else none
      else if single then some (⟨i, close + 1⟩, content)
      else none

def unwrappings (s : Statement) : List Edit :=
  (s.selectItems ++ s.wherePredicate?.toList).flatMap fun region =>
    (List.range' region.start region.length).filterMap (unwrapAt? s.tokens region)

/-- The least literal of the kind of a token, unless the token is small already. -/
def lesser? (t : Token) : Option Token :=
  match t.kind with
  | .integer => if t.text = "0" ∨ t.text = "1" then none else some ⟨.integer, "0"⟩
  | .float => some ⟨.integer, "0"⟩
  | .string => if t.text = "''" then none else some ⟨.string, "''"⟩
  | .blob => if 3 < t.text.utf8ByteSize then some ⟨.blob, "x''"⟩ else none
  | _ => none

def literalShrinks (s : Statement) : List Edit :=
  s.tokens.zipIdx.filterMap fun (t, i) => (lesser? t).map fun t' => (⟨i, i + 1⟩, [t'])

def clauseDrops (s : Statement) : List Span :=
  s.clauses.flatMap fun c =>
    (if c.kind.isOptional then [c.span] else []) ++
    match c.kind, s.clause? .having with
    | .groupBy, some having => [⟨c.span.start, having.span.stop⟩]
    | _, _ => []

/-- For each of several neighbouring parts, the part with the gap before it; the first goes with
the gap behind it. -/
def partDrops : List Span → List Span
  | first :: second :: rest =>
    ⟨first.start, second.start⟩ ::
      (((first :: second :: rest).zip (second :: rest)).map fun (before, part) =>
        ⟨before.stop, part.stop⟩)
  | _ => []

/-- The conjuncts of the `WHERE` predicate. -/
def conjunctsOf (s : Statement) : List Span :=
  match s.wherePredicate? with
  | some p => s.conjuncts p
  | none => []

def edits (s : Statement) : List Edit :=
  ((clauseDrops s ++ partDrops (conjunctsOf s) ++ partDrops s.selectItems).map (·, [])) ++
    unwrappings s ++ literalShrinks s

/-- The result of an edit, if it is a statement of the same kind. -/
def applyEdit? (s : Statement) (e : Edit) : Option Statement :=
  match s.splice e.1 e.2 with
  | .ok s' => if s'.kind = s.kind ∨ s.kind = .other then some s' else none
  | .error _ => none

def statementSimplifications (s : Statement) : List Statement :=
  (edits s).filterMap (applyEdit? s)

/-- For a text that does not parse: every text with one token less, the last token first. -/
def tokenDeletions (sql : String) : List String :=
  match significantTokens sql with
  | .error _ => []
  | .ok tokens =>
    if tokens.length < 2 then []
    else (List.range tokens.length).reverse.map fun i => render (tokens.eraseIdx i)

/-- All single simplifications of a text, the largest cuts first. -/
def simplifications (sql : String) : List String :=
  match parseScript sql with
  | .error _ => tokenDeletions sql
  | .ok statements =>
    (if 1 < statements.length then
      (List.range statements.length).map fun i => renderScript (statements.eraseIdx i)
    else []) ++
    statements.zipIdx.flatMap fun (s, i) =>
      (statementSimplifications s).map fun s' => renderScript (statements.set i s')

/-- Fewer tokens, or as many tokens in fewer bytes. -/
def isSmaller (a b : Nat × Nat) : Bool :=
  a.1 < b.1 || (a.1 == b.1 && a.2 < b.2)

/-- The simplifications that are smaller than the text itself. -/
def smallerVariants (sql : String) : List String :=
  let limit := size sql
  (simplifications sql).filter fun v => isSmaller (size v) limit

structure Result where
  sql : String
  /-- Texts that were tried. -/
  attempts : Nat
  /-- Texts that took the place of the query. -/
  accepted : Nat
  /-- The attempts ran out before the search came to its end. -/
  exhausted : Bool
  deriving DecidableEq, Repr

def Result.madeProgress (r : Result) : Bool := 0 < r.accepted

/-- Tries the pending variants of the current text, `left` attempts being left of `total`. -/
def search {m : Type → Type} [Monad m] (reproduce : String → m (Option VerdictKind))
    (kind : VerdictKind) (total : Nat) (current : String) (accepted : Nat) (left : Nat)
    (pending : List String) : m Result :=
  match left, pending with
  | left, [] => return ⟨current, total - left, accepted, false⟩
  | 0, _ :: _ => return ⟨current, total, accepted, true⟩
  | left + 1, v :: rest => do
    if (← reproduce v) = some kind then
      search reproduce kind total v (accepted + 1) left (smallerVariants v)
    else search reproduce kind total current accepted left rest

/-- Reduces a text that shows a kind of failure. `reproduce` runs a text and answers with the
kind it shows, or none if it could not be run. -/
def reduce {m : Type → Type} [Monad m] (maxAttempts : Nat) (sql : String) (kind : VerdictKind)
    (reproduce : String → m (Option VerdictKind)) : m Result :=
  search reproduce kind maxAttempts sql 0 maxAttempts (smallerVariants sql)

end Reduction
end QueryFuzz
