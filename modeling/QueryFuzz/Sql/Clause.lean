import QueryFuzz.Sql.Statement

/-!
# Clauses of a statement

A clause begins at a keyword outside all parentheses and reaches to the next one. What precedes
the first such keyword is the head, so the clauses of a statement cover all of its tokens. The
predicate of `WHERE` is cut into conjuncts and the head of a `SELECT` into items.
-/

namespace QueryFuzz
namespace Sql

inductive ClauseKind where
  | head
  | source
  | join
  | filter
  | groupBy
  | having
  | orderBy
  /-- Includes a trailing offset. -/
  | limit
  /-- A compound operator together with the arm behind it. -/
  | compound
  | assignment
  | values
  | returning
  deriving DecidableEq, Repr

/-- Clauses that can be dropped from a statement without breaking its form. -/
def ClauseKind.isOptional : ClauseKind → Bool
  | join | filter | groupBy | having | orderBy | limit | compound | returning => true
  | head | source | assignment | values => false

structure Clause where
  kind : ClauseKind
  span : Span
  deriving DecidableEq, Repr

def isJoinModifier (t : Token) : Bool :=
  t.isAnyOf ["LEFT", "RIGHT", "INNER", "OUTER", "CROSS", "NATURAL"]

/-- The clause that begins at a token outside all parentheses. Inside a compound arm only a
further compound operator, an order or a limit begins one. -/
def clauseAt? (statement : StatementKind) (inCompound : Bool) (t : Token)
    (after : Option Token) : Option ClauseKind :=
  if t.isAnyOf ["UNION", "INTERSECT", "EXCEPT"] then some .compound
  else if t.isWord "LIMIT" then some .limit
  else if t.isWord "ORDER" && after.any (·.isWord "BY") then some .orderBy
  else if inCompound then none
  else if t.isWord "FROM" then some .source
  else if t.isWord "JOIN" then some .join
  else if t.isWord "WHERE" then some .filter
  else if t.isWord "GROUP" && after.any (·.isWord "BY") then some .groupBy
  else if t.isWord "HAVING" then some .having
  else if t.isWord "SET" && statement == .update then some .assignment
  else if t.isWord "VALUES" then some .values
  else if t.isWord "RETURNING" then some .returning
  else none

/-- Is the text behind this place part of a compound arm? -/
def compoundPast (inCompound : Bool) : Option ClauseKind → Bool
  | some .compound => true
  | some .orderBy | some .limit => false
  | _ => inCompound

/-- Where the clauses of the tokens from position `index` on begin. `modifiers` counts the join
modifiers directly in front of the first token; they belong to the join. -/
def clauseStarts (statement : StatementKind) (index depth modifiers : Nat)
    (inCompound : Bool) : List Token → List (Nat × ClauseKind)
  | [] => []
  | t :: rest =>
    let found := if depth = 0 then clauseAt? statement inCompound t rest.head? else none
    let more := clauseStarts statement (index + 1) (depthPast depth t)
      (if isJoinModifier t then modifiers + 1 else 0) (compoundPast inCompound found) rest
    match found with
    | some .join => (index - modifiers, .join) :: more
    | some kind => (index, kind) :: more
    | none => more

/-- Each clause reaches to the start of the next one, the last one to `stop`. -/
def clausesUpTo (stop : Nat) : List (Nat × ClauseKind) → List Clause
  | [] => []
  | [(start, kind)] => if start < stop then [⟨kind, ⟨start, stop⟩⟩] else []
  | (start, kind) :: (next, kind') :: rest =>
    let more := clausesUpTo stop ((next, kind') :: rest)
    if start < next then ⟨kind, ⟨start, next⟩⟩ :: more else more

/-- Cuts a run of tokens at those that satisfy `cut`, which are told their parenthesis depth and
a state; the cutting tokens belong to no piece. `start` is where the current piece began. -/
def piecesFrom {σ : Type} (cut : σ → Nat → Token → Bool × σ) (start index : Nat) (state : σ) :
    List (Nat × Token) → List Span
  | [] => [⟨start, index⟩]
  | (depth, t) :: rest =>
    match cut state depth t with
    | (true, state') => ⟨start, index⟩ :: piecesFrom cut (index + 1) (index + 1) state' rest
    | (false, state') => piecesFrom cut start (index + 1) state' rest

/-- Cuts at each `AND` outside parentheses that does not belong to a `BETWEEN`; the state counts
the `BETWEEN`s that still wait for theirs. -/
def cutConjuncts (pending depth : Nat) (t : Token) : Bool × Nat :=
  if depth ≠ 0 then (false, pending)
  else if t.isWord "BETWEEN" then (false, pending + 1)
  else if t.isWord "AND" then if pending = 0 then (true, 0) else (false, pending - 1)
  else (false, pending)

def cutItems (state : Unit) (depth : Nat) (t : Token) : Bool × Unit :=
  (depth == 0 && t.kind == .comma, state)

namespace Statement

def clauses (s : Statement) : List Clause :=
  match s.tokens with
  | [] => []
  | t :: rest =>
    clausesUpTo s.tokens.length
      ((0, .head) :: clauseStarts s.kind 1 (depthPast 0 t) 0 false rest)

def clause? (s : Statement) (kind : ClauseKind) : Option Clause :=
  s.clauses.find? (·.kind == kind)

def hasClause (s : Statement) (kind : ClauseKind) : Bool :=
  s.clauses.any (·.kind == kind)

/-- The tokens with their parenthesis depths. -/
def tokensAtDepth (s : Statement) : List (Nat × Token) :=
  s.depths.zip s.tokens

/-- The predicate of the `WHERE` clause, without the keyword. -/
def wherePredicate? (s : Statement) : Option Span :=
  match s.clause? .filter with
  | some c =>
    let predicate : Span := ⟨c.span.start + 1, c.span.stop⟩
    if predicate.isEmpty then none else some predicate
  | none => none

/-- The parts of a predicate that are joined by `AND`. -/
def conjuncts (s : Statement) (predicate : Span) : List Span :=
  piecesFrom cutConjuncts predicate.start predicate.start 0 (predicate.slice s.tokensAtDepth)

/-- The items between `SELECT` and the end of the head; a missing last item is left out. -/
def selectItems (s : Statement) : List Span :=
  if s.kind ≠ .select then []
  else match s.clause? .head with
    | none => []
    | some head =>
      match (head.span.slice s.tokens).findIdx? (·.isWord "SELECT") with
      | none => []
      | some at_ =>
        let first := head.span.start + at_ + 1
        let start := if s.tokens[first]?.any (·.isAnyOf ["DISTINCT", "ALL"]) then first + 1
          else first
        let list : Span := ⟨start, head.span.stop⟩
        let items := piecesFrom cutItems start start () (list.slice s.tokensAtDepth)
        if items.getLast?.all (·.isEmpty) then items.dropLast else items

end Statement
end Sql
end QueryFuzz
