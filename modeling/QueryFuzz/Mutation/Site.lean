import QueryFuzz.Mutation.Reference

/-!
# Where a statement can be changed

For each way to change a statement, the list of places where it can be done. An operator applies
to a statement exactly if its list is not empty.
-/

namespace QueryFuzz
namespace Mutation

open Sql

/-- The positions of the tokens that satisfy a test. -/
def positionsWhere (p : Token → Bool) (tokens : List Token) : List Nat :=
  (tokens.zipIdx.filter fun (t, _) => p t).map (·.2)

def literalSites (s : Statement) : List Nat :=
  positionsWhere (·.isLiteral) s.tokens

/-- The positions of the `AND`s that belong to a `BETWEEN` of the same depth; the stack holds the
depths of those that still wait. -/
def betweenAndsFrom (index : Nat) (waiting : List Nat) : List (Nat × Token) → List Nat
  | [] => []
  | (depth, t) :: rest =>
    if t.isWord "BETWEEN" then betweenAndsFrom (index + 1) (depth :: waiting) rest
    else if t.isWord "AND" && waiting.head? == some depth then
      index :: betweenAndsFrom (index + 1) waiting.tail rest
    else betweenAndsFrom (index + 1) waiting rest

def betweenAnds (s : Statement) : List Nat :=
  betweenAndsFrom 0 [] s.tokensAtDepth

/-- Do the tokens behind a `LIKE` of some depth bring an `ESCAPE` that belongs to it? -/
def escapeFollows (depth : Nat) : List (Nat × Token) → Bool
  | [] => false
  | (d, t) :: rest =>
    if depth < d then escapeFollows depth rest
    else if d < depth || [.rightParen, .comma, .semicolon].contains t.kind ||
        t.isAnyOf ["LIKE", "GLOB"] then false
    else if t.isWord "ESCAPE" then true
    else escapeFollows depth rest

def comparisonOperators : List String := ["=", "==", "<>", "!=", "<", "<=", ">", ">="]

def arithmeticOperators : List String := ["+", "-", "*", "/", "%"]

/-- The operators that could stand at a position, the present one among them. -/
def operatorClass? (s : Statement) (owned : List Nat) (i : Nat) (t : Token) :
    Option (List String) :=
  let binary := decide (0 < i) && s.tokens[i - 1]?.any (·.endsOperand)
  if t.kind == .operator then
    if binary && comparisonOperators.contains t.text then some comparisonOperators
    else if binary && arithmeticOperators.contains t.text then some arithmeticOperators
    else none
  else if t.isWord "AND" && !owned.contains i || t.isWord "OR" then some ["AND", "OR"]
  else if t.isWord "LIKE" then
    let here := s.depths[i]?.getD 0
    if escapeFollows here (s.tokensAtDepth.drop (i + 1)) then none else some ["LIKE", "GLOB"]
  else if t.isWord "GLOB" then some ["LIKE", "GLOB"]
  else none

def operatorSites (s : Statement) : List (Nat × List String) :=
  let owned := betweenAnds s
  s.tokens.zipIdx.filterMap fun (t, i) => (operatorClass? s owned i t).map fun c => (i, c)

/-- The clauses a statement can gain. -/
inductive Addition where
  | filter
  | join
  | order
  | limit
  deriving DecidableEq, Repr

/-- The furthest end of the clauses of these kinds. -/
def endOf? (clauses : List Clause) (kinds : List ClauseKind) : Option Nat :=
  ((clauses.filter fun c => kinds.contains c.kind).map (·.span.stop)).max?

/-- The clauses a `SELECT` lacks, each with the position where it would go. -/
def selectAdditions (schema : Schema) (s : Statement) : List (Addition × Nat) :=
  let tables := referencedTables schema s.tokens
  let clauses := s.clauses
  let lacks := fun kind => !clauses.any (·.kind == kind)
  match endOf? clauses [.source, .join] with
  | none => []
  | some sourceEnd =>
    let orderAt := match clauses.find? (·.kind == .limit) with
      | some c => c.span.start
      | none => s.tokens.length
    (if lacks .filter && !tables.isEmpty then [(.filter, sourceEnd)] else []) ++
    (if lacks .join && lacks .compound && lacks .groupBy && tables.length == 1 &&
      1 < schema.usableTables.length then [(.join, sourceEnd)] else []) ++
    (if lacks .orderBy && (outputWidth? s tables).isSome then [(.order, orderAt)] else []) ++
    (if lacks .limit then [(.limit, s.tokens.length)] else [])

def additions (schema : Schema) (s : Statement) : List (Addition × Nat) :=
  match s.kind with
  | .select => selectAdditions schema s
  | .update | .delete =>
    if s.hasClause .filter || (referencedTables schema s.tokens).isEmpty then []
    else match endOf? s.clauses [.head, .source, .assignment] with
      | some position => [(.filter, position)]
      | none => []
  | _ => []

/-- The runs of optional clauses. A `GROUP BY` takes the `HAVING` behind it along. -/
def optionalRuns : List Clause → List Span
  | [] => []
  | [c] => if c.kind.isOptional && c.kind != .having then [c.span] else []
  | c :: next :: rest =>
    let more := optionalRuns (next :: rest)
    if !c.kind.isOptional || c.kind == .having then more
    else if c.kind == .groupBy && next.kind == .having then
      ⟨c.span.start, next.span.stop⟩ :: more
    else c.span :: more

/-- The runs of tokens that can be dropped; a `HAVING` on its own comes last. -/
def deletableRuns (s : Statement) : List Span :=
  optionalRuns s.clauses ++ ((s.clause? .having).map (·.span)).toList

/-- Is the piece a star or does it have a name of its own? -/
def isStarOrAliased (piece : List Token) : Bool :=
  piece.any fun t => t.isWord "AS" || t.isOperator "*"

/-- The expressions that a function can be applied to: select items, then the columns in the
predicate. -/
def wrapSites (schema : Schema) (s : Statement) : List Span :=
  s.selectItems.filter (fun r => !isStarOrAliased (r.slice s.tokens)) ++
  match s.wherePredicate? with
  | none => []
  | some p =>
    ((columnMentions schema s.tokens).filter fun m =>
        p.start ≤ m.position && m.position < p.stop).map fun m =>
      ⟨if m.qualified then m.position - 2 else m.position, m.position + 1⟩

/-- Each of the targets that differs from a piece, paired with it. -/
def pairings (s : Statement) (targets : List Span) (piece : List Token) :
    List (Span × List Token) :=
  (targets.filter fun r => r.slice s.tokens != piece).map fun r => (r, piece)

/-- The conjuncts of the `WHERE` predicate. -/
def whereConjuncts (s : Statement) : List Span :=
  match s.wherePredicate? with
  | some p => s.conjuncts p
  | none => []

/-- What one statement of a donor offers to another statement: conjuncts for conjuncts, then
select items for select items. -/
def offersFrom (tables : List Table) (s donor : Statement) : List (Span × List Token) :=
  ((whereConjuncts donor).flatMap fun r =>
    let piece := r.slice donor.tokens
    if piece.isEmpty || !resolves tables piece then []
    else pairings s (whereConjuncts s) piece) ++
  donor.selectItems.flatMap fun r =>
    let piece := r.slice donor.tokens
    if isStarOrAliased piece || !resolves tables piece then []
    else pairings s s.selectItems piece

/-- The statements of the donor queries that parse. -/
def donorStatements (donors : List String) : List Statement :=
  donors.flatMap fun sql =>
    match parseScript sql with
    | .ok statements => statements
    | .error _ => []

/-- Every exchange of a piece of a statement for a piece of a donor. -/
def spliceSites (schema : Schema) (donors : List String) (s : Statement) :
    List (Span × List Token) :=
  let tables := referencedTables schema s.tokens
  if tables.isEmpty then []
  else (donorStatements donors).flatMap (offersFrom tables s)

def isQuoted (t : Token) : Bool :=
  t.kind == .string || (t.kind == .quotedIdentifier && t.text.toList.head? == some '"')

def quoteSites (s : Statement) : List Nat :=
  positionsWhere isQuoted s.tokens

end Mutation
end QueryFuzz
