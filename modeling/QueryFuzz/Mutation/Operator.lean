import QueryFuzz.Candidate
import QueryFuzz.Decimal.Reading
import QueryFuzz.Grammar.Literal
import QueryFuzz.Mutation.Site
import QueryFuzz.Width

/-!
# Mutation operators

Eight ways to change a statement. Each chooses one of its sites at random and replaces tokens
there. All but the last promise a statement of the same kind; where the result is none, they
decline. Flipping quotes may leave a text that no engine accepts, which is its purpose.
-/

namespace QueryFuzz
namespace Mutation

open Sql Draw

inductive Operator where
  /-- Exchanges a literal for a boundary value of its type. -/
  | literalValue
  /-- Exchanges a comparison, arithmetic, logical or pattern operator for a like one. -/
  | operatorSubstitution
  /-- Adds a clause that is missing. -/
  | clauseInsertion
  /-- Drops an optional clause. -/
  | clauseDeletion
  /-- Exchanges a column for another one of its table. -/
  | identifierSubstitution
  /-- Applies a function to an expression. -/
  | functionWrap
  /-- Exchanges a conjunct or a select item for one of another query. -/
  | structuralSplice
  /-- Makes a text literal a quoted name or a quoted name a text literal. -/
  | quoteFlip
  deriving DecidableEq, Repr

namespace Operator

def all : List Operator :=
  [literalValue, operatorSubstitution, clauseInsertion, clauseDeletion, identifierSubstitution,
    functionWrap, structuralSplice, quoteFlip]

def name : Operator → String
  | literalValue => "literal-value"
  | operatorSubstitution => "operator-substitution"
  | clauseInsertion => "clause-insertion"
  | clauseDeletion => "clause-deletion"
  | identifierSubstitution => "identifier-substitution"
  | functionWrap => "function-wrap"
  | structuralSplice => "structural-splice"
  | quoteFlip => "quote-flip"

end Operator

/-- What an operator promises of its result. -/
structure Guarantee where
  wellFormed : Bool
  sameKind : Bool
  deriving DecidableEq, Repr

def Operator.guarantee : Operator → Guarantee
  | quoteFlip => ⟨false, true⟩
  | _ => ⟨true, true⟩

/-- What operators may draw on besides the statement. -/
structure Material where
  schema : Schema
  /-- Other queries, for splicing. -/
  donors : List String
  boundaryProbability : Float

/-- A random program that may give up. -/
abbrev Attempt := OptionT Sampling

def chooseSite {α : Type} (label : String) (sites : List α) : Attempt α :=
  OptionT.mk (Sampling.choose label sites)

def lexed (text : String) : Attempt (List Token) :=
  OptionT.mk (pure (significantTokens text).toOption)

/-- The single position as a run. -/
def spanAt (i : Nat) : Span := ⟨i, i + 1⟩

def literalType (t : Token) : Attempt ColumnType :=
  match t.kind with
  | .integer => return .integer
  | .float => return .real
  | .string => return .text
  | .blob => return .blob
  | _ => chooseSite "mutation.literal-type" ColumnType.all

/-- The value of a whole number that fits 64 bits with a sign. -/
def smallInteger? (text : String) : Option Int :=
  match Decimal.readInteger? text.toList with
  | some n => if Width.fitsSigned 64 n then some n else none
  | none => none

/-- The neighbours of a number, its negative and zero; zero stands in for what does not fit. -/
def integerTweaks (n : Int) : List Int :=
  [n + 1, n - 1, -n, 0].map fun m => if Width.fitsSigned 64 m then m else 0

def literalReplacement (m : Material) (t : Token) : Attempt String := do
  let type ← literalType t
  match type, smallInteger? t.text with
  | .integer, some n =>
    if ← Sampling.chance "mutation.boundary" m.boundaryProbability then
      Grammar.boundaryLiteral type
    else return toString (← chooseSite "mutation.integer-tweak" (integerTweaks n))
  | _, _ => Grammar.boundaryLiteral type

def mutateLiteral (m : Material) (s : Statement) : Attempt (List Token) := do
  let i ← chooseSite "mutation.site" (literalSites s)
  let t := s.tokens.getD i ⟨.whitespace, ""⟩
  let text ← literalReplacement m t
  return (spanAt i).replace s.tokens (← lexed text)

def substituteOperator (s : Statement) : Attempt (List Token) := do
  let (i, alike) ← chooseSite "mutation.site" (operatorSites s)
  let current := s.tokens.getD i ⟨.whitespace, ""⟩
  let op ← chooseSite "mutation.operator" (alike.filter fun op => !sameWord op current.text)
  let kind := if current.kind = .keyword then .keyword else .operator
  return (spanAt i).replace s.tokens [⟨kind, op⟩]

def filterText (m : Material) (tables : List Table) : Attempt String := do
  let table ← chooseSite "mutation.table" tables
  let column ← chooseSite "mutation.column" table.columns
  let op ← chooseSite "mutation.operator" comparisonOperators
  let literal ← if ← Sampling.chance "mutation.boundary" m.boundaryProbability then
      Grammar.boundaryLiteral column.type
    else Grammar.ordinaryLiteral column.type
  return "WHERE " ++ columnText tables table column.name ++ " " ++ op ++ " " ++ literal

/-- The column to join with: the first of the same type, else the first. -/
def partner? (other : Table) (type : ColumnType) : Option Column :=
  (other.columns.find? (·.type == type)).or other.columns.head?

def joinText (m : Material) (tables : List Table) : Attempt String := do
  let first ← OptionT.mk (pure tables.head?)
  let other ← chooseSite "mutation.table"
    (m.schema.usableTables.filter (·.name != first.name))
  let left ← chooseSite "mutation.column" first.columns
  let right ← OptionT.mk (pure (partner? other left.type))
  let name := quoteIdentifier other.name
  return "LEFT JOIN " ++ name ++ " ON " ++ quoteIdentifier first.name ++ "." ++
    quoteIdentifier left.name ++ " = " ++ name ++ "." ++ quoteIdentifier right.name

def additionText (m : Material) (s : Statement) (tables : List Table) :
    Addition → Attempt String
  | .filter => filterText m tables
  | .join => joinText m tables
  | .order => do
    let width ← OptionT.mk (pure (outputWidth? s tables))
    Grammar.totalOrder width
  | .limit => do
    let n ← chooseSite "mutation.limit" [(0 : Int), 1, 2, 10, -1]
    return "LIMIT " ++ toString n

def insertClause (m : Material) (s : Statement) : Attempt (List Token) := do
  let (addition, position) ← chooseSite "mutation.site" (additions m.schema s)
  let text ← additionText m s (referencedTables m.schema s.tokens) addition
  return (⟨position, position⟩ : Span).replace s.tokens (← lexed text)

def deleteClause (s : Statement) : Attempt (List Token) := do
  let run ← chooseSite "mutation.site" (deletableRuns s)
  return run.replace s.tokens []

/-- The other columns of a table, only those of the same type if there is one. -/
def exchangeable (table : Table) (current : String) : List String :=
  let typeOf := fun name => (table.column? name).map (·.type)
  let others := (table.columns.map (·.name)).filter fun name => !sameWord name current
  let alike := others.filter fun name => typeOf name == typeOf current
  if alike.isEmpty then others else alike

def substituteIdentifier (m : Material) (s : Statement) : Attempt (List Token) := do
  let mention ← chooseSite "mutation.site" (columnMentions m.schema s.tokens)
  let current := unquote (s.tokens.getD mention.position ⟨.whitespace, ""⟩).text
  let name ← chooseSite "mutation.column" (exchangeable mention.table current)
  return (spanAt mention.position).replace s.tokens (← lexed (quoteIdentifier name))

def wrappingFunctions : List String :=
  ["ABS", "LENGTH", "LOWER", "UPPER", "HEX", "TYPEOF", "ROUND", "QUOTE", "TRIM"]

def wrapInFunction (m : Material) (s : Statement) : Attempt (List Token) := do
  let run ← chooseSite "mutation.site" (wrapSites m.schema s)
  let function ← chooseSite "mutation.function" wrappingFunctions
  return run.replace s.tokens
    (⟨.identifier, function⟩ :: ⟨.leftParen, "("⟩ :: run.slice s.tokens ++ [⟨.rightParen, ")"⟩])

def splicePiece (m : Material) (s : Statement) : Attempt (List Token) := do
  let (run, piece) ← chooseSite "mutation.site" (spliceSites m.schema m.donors s)
  return run.replace s.tokens piece

/-- The text between quotes in the other kind of quotes. -/
def flipped (t : Token) : Token :=
  let body := inner t.text.toList
  if t.kind = .string then
    ⟨.quotedIdentifier, String.ofList ('"' :: doubled '"' (undoubled '\'' body) ++ ['"'])⟩
  else
    ⟨.string, String.ofList ('\'' :: doubled '\'' (undoubled '"' body) ++ ['\''])⟩

def flipQuotes (s : Statement) : Attempt (List Token) := do
  let i ← chooseSite "mutation.site" (quoteSites s)
  return (spanAt i).replace s.tokens [flipped (s.tokens.getD i ⟨.whitespace, ""⟩)]

namespace Operator

/-- Does the operator have a site in the statement? -/
def applies (m : Material) (s : Statement) : Operator → Bool
  | literalValue => !(literalSites s).isEmpty
  | operatorSubstitution => !(operatorSites s).isEmpty
  | clauseInsertion => !(additions m.schema s).isEmpty
  | clauseDeletion => !(deletableRuns s).isEmpty
  | identifierSubstitution => !(columnMentions m.schema s.tokens).isEmpty
  | functionWrap => !(wrapSites m.schema s).isEmpty
  | structuralSplice => !(spliceSites m.schema m.donors s).isEmpty
  | quoteFlip => !(quoteSites s).isEmpty

/-- The change itself, before the promise is checked. -/
def unchecked (m : Material) (s : Statement) : Operator → Attempt (List Token)
  | literalValue => mutateLiteral m s
  | operatorSubstitution => substituteOperator s
  | clauseInsertion => insertClause m s
  | clauseDeletion => deleteClause s
  | identifierSubstitution => substituteIdentifier m s
  | functionWrap => wrapInFunction m s
  | structuralSplice => splicePiece m s
  | quoteFlip => flipQuotes s

/-- Do the tokens keep the promise of the operator towards the statement? -/
def keepsGuarantee (op : Operator) (s : Statement) (tokens : List Token) : Bool :=
  !op.guarantee.wellFormed ||
  match Statement.ofTokens tokens with
  | .ok s' => !op.guarantee.sameKind || s'.kind == s.kind
  | .error _ => false

/-- Changes a statement; none if the operator does not apply or its result would break its
promise. -/
def transform (op : Operator) (m : Material) (s : Statement) : Sampling (Option (List Token)) :=
  do
  match ← (op.unchecked m s).run with
  | some tokens => return if op.keepsGuarantee s tokens then some tokens else none
  | none => return none

end Operator
end Mutation
end QueryFuzz
