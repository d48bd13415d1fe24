import QueryFuzz.Sql.Error
import QueryFuzz.Sql.Render
import QueryFuzz.Sql.Span

/-!
# Statements

A statement is a flat list of significant tokens that passes two checks: its first word begins a
statement, and its parts fit together. The second check looks at each token between its two
neighbours and counts parentheses. It is not a grammar; it rejects the pieces that careless
editing leaves behind, such as a comma without an item or an operator without an operand.
-/

namespace QueryFuzz
namespace Sql

inductive StatementKind where
  | select
  | insert
  | update
  | delete
  | create
  | drop
  | alter
  | transaction
  | other
  deriving DecidableEq, Repr

/-- The kind of statement that a word in capitals begins. -/
def StatementKind.ofHead? (word : String) : Option StatementKind :=
  if ["SELECT", "VALUES", "WITH"].contains word then some .select
  else if ["INSERT", "REPLACE"].contains word then some .insert
  else if word = "UPDATE" then some .update
  else if word = "DELETE" then some .delete
  else if word = "CREATE" then some .create
  else if word = "DROP" then some .drop
  else if word = "ALTER" then some .alter
  else if ["BEGIN", "COMMIT", "ROLLBACK", "END"].contains word then some .transaction
  else if ["PRAGMA", "ANALYZE", "VACUUM", "REINDEX", "EXPLAIN"].contains word then some .other
  else none

def StatementKind.ofTokens : List Token → Except Error StatementKind
  | [] => .error .empty
  | t :: _ =>
    match StatementKind.ofHead? t.text.toUpper with
    | some kind => .ok kind
    | none => .error (.unknownStatement t.text)

/-- What can be wrong with a token between its neighbours. -/
inductive Misfit where
  | missingOperand
  | emptyParentheses
  deriving DecidableEq, Repr

/-- Keywords that must be followed by an operand. -/
def operandKeywords : List String :=
  ["AND", "OR", "WHERE", "HAVING", "ON", "LIMIT", "OFFSET", "BY", "WHEN", "THEN", "ELSE",
  "BETWEEN", "LIKE", "GLOB"]

/-- Does `NOT` accept this token behind it? -/
def followsNot (t : Token) : Bool :=
  t.startsOperand || t.isAnyOf ["IN", "LIKE", "GLOB", "BETWEEN", "EXISTS", "NULL"]

/-- Parentheses may be empty only after a plain name. -/
def fitsLeftParen (before after : Option Token) : Bool :=
  !after.any (·.kind == .rightParen) || before.any (·.kind == .identifier)

def fitsComma (before after : Option Token) : Bool :=
  before.any (fun p => p.kind != .leftParen && p.kind != .comma) &&
  after.any (fun n => n.startsOperand || n.isOperator "*")

def fitsOperator (before : Option Token) (t : Token) (after : Option Token) : Bool :=
  (t.isSign || before.any (·.endsOperand)) && after.any (·.startsOperand)

def fitsKeyword (before : Option Token) (t : Token) (after : Option Token) : Bool :=
  (!t.isAnyOf ["AND", "OR"] || before.any (·.endsOperand)) &&
  (!t.isAnyOf operandKeywords || after.any (·.startsOperand)) &&
  (!t.isWord "NOT" || after.any followsNot)

def misfit? (before : Option Token) (t : Token) (after : Option Token) : Option Misfit :=
  match t.kind with
  | .leftParen => if fitsLeftParen before after then none else some .emptyParentheses
  | .comma => if fitsComma before after then none else some .missingOperand
  | .operator =>
    if t.text == "*" || fitsOperator before t after then none else some .missingOperand
  | .keyword => if fitsKeyword before t after then none else some .missingOperand
  | _ => none

/-- The parenthesis depth behind a token, or none where nothing is open to be closed. -/
def depthPast? (depth : Nat) (t : Token) : Option Nat :=
  match t.kind with
  | .leftParen => some (depth + 1)
  | .rightParen => if depth = 0 then none else some (depth - 1)
  | _ => some depth

/-- Checks the tokens from position `index` on, `before` being the token in front of them. -/
def checkFrom (index depth : Nat) (before : Option Token) : List Token → Except Error Unit
  | [] => if depth = 0 then .ok () else .error .unbalancedParentheses
  | t :: rest =>
    match misfit? before t rest.head? with
    | some .missingOperand => .error (.missingOperand t.text index)
    | some .emptyParentheses => .error (.emptyParentheses index)
    | none =>
      match depthPast? depth t with
      | none => .error .unbalancedParentheses
      | some depth' => checkFrom (index + 1) depth' (some t) rest

def checkStructure (tokens : List Token) : Except Error Unit :=
  checkFrom 0 0 none tokens

structure Statement where
  kind : StatementKind
  tokens : List Token
  kind_eq : StatementKind.ofTokens tokens = .ok kind
  sound : checkStructure tokens = .ok ()
  deriving DecidableEq

namespace Statement

def ofTokens (tokens : List Token) : Except Error Statement :=
  match hk : StatementKind.ofTokens tokens with
  | .error e => .error e
  | .ok kind =>
    match hs : checkStructure tokens with
    | .error e => .error e
    | .ok () => .ok ⟨kind, tokens, hk, hs⟩

def render (s : Statement) : String :=
  Sql.render s.tokens

/-- The statement with a run of tokens replaced, if the result still fits together. -/
def splice (s : Statement) (span : Span) (replacement : List Token) : Except Error Statement :=
  ofTokens (span.replace s.tokens replacement)

end Statement

/-- The parenthesis depth behind a token, which never falls below zero. -/
def depthPast (depth : Nat) (t : Token) : Nat :=
  match t.kind with
  | .leftParen => depth + 1
  | .rightParen => depth - 1
  | _ => depth

/-- The parenthesis depth in front of each token. -/
def depthsFrom (depth : Nat) : List Token → List Nat
  | [] => []
  | t :: rest => depth :: depthsFrom (depthPast depth t) rest

def Statement.depths (s : Statement) : List Nat :=
  depthsFrom 0 s.tokens

end Sql
end QueryFuzz
