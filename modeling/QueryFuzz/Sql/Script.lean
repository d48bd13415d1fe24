import QueryFuzz.Sql.Clause
import QueryFuzz.Sql.Lexer
import QueryFuzz.Text.Words

/-!
# Scripts

A script is a text of statements separated by semicolons; empty ones do not count. The facts
that other parts need about a whole text are here: its statements, its size and whether the rows
it produces are ordered or limited.
-/

namespace QueryFuzz
namespace Sql

/-- The runs of tokens between semicolons, empty runs included. -/
def splitAtSemicolons : List Token → List (List Token)
  | [] => [[]]
  | t :: rest =>
    if t.kind = .semicolon then [] :: splitAtSemicolons rest
    else match splitAtSemicolons rest with
      | chunk :: chunks => (t :: chunk) :: chunks
      | [] => [[t]]

/-- The statements of the chunks, or the fault of the first chunk that is no statement. -/
def statementsOf : List (List Token) → Except Error (List Statement)
  | [] => .ok []
  | chunk :: chunks =>
    if chunk.isEmpty then statementsOf chunks
    else match Statement.ofTokens chunk with
      | .error e => .error e
      | .ok s => (statementsOf chunks).map (s :: ·)

/-- Every statement of a text; at least one. -/
def parseScript (sql : String) : Except Error (List Statement) :=
  match significantTokens sql with
  | .error e => .error e
  | .ok tokens =>
    match statementsOf (splitAtSemicolons tokens) with
    | .ok [] => .error .empty
    | answer => answer

/-- The first statement of a text all of whose statements are well formed. -/
def Statement.parse (sql : String) : Except Error Statement :=
  match parseScript sql with
  | .error e => .error e
  | .ok [] => .error .empty
  | .ok (s :: _) => .ok s

def renderScript (statements : List Statement) : String :=
  "; ".intercalate (statements.map Statement.render)

def isWellFormed (sql : String) : Bool :=
  match parseScript sql with
  | .ok _ => true
  | .error _ => false

/-- Number of significant tokens, semicolons aside. A text without tokens counts its words. -/
def tokenCount (sql : String) : Nat :=
  match significantTokens sql with
  | .ok tokens => (tokens.filter (·.kind != .semicolon)).length
  | .error _ => (Text.words sql).length

/-- The measure of a query: tokens first, bytes second. -/
def size (sql : String) : Nat × Nat :=
  (tokenCount sql, sql.utf8ByteSize)

/-- Facts about the rows that a text produces: is their order fixed, is their number limited? -/
structure ResultShape where
  ordered : Bool
  limited : Bool
  deriving DecidableEq, Repr

/-- The last statement that selects rows decides. A text that does not parse is searched for the
telling words. -/
def resultShape (sql : String) : ResultShape :=
  match parseScript sql with
  | .ok statements =>
    match statements.reverse.find? (·.kind == .select) with
    | some s => ⟨s.hasClause .orderBy, s.hasClause .limit⟩
    | none => ⟨false, false⟩
  | .error _ =>
    let lower := sql.toLower
    ⟨Text.contains lower "order by", Text.contains lower "limit"⟩

end Sql
end QueryFuzz
