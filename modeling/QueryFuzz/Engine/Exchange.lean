import QueryFuzz.Engine.Outcome
import QueryFuzz.Text.Words

/-!
# The text exchanged with an engine

A query is sent between the start of a transaction and its rollback. The line breaks around it
keep a comment or a missing semicolon at its end from reaching the rollback. What comes back is
one row a line, the columns set apart by a separator; empty lines are no rows.
-/

namespace QueryFuzz
namespace Engine

/-- Wraps a query so that the engine never commits what it does. -/
def wrapInTransaction (sql : String) : String :=
  "BEGIN TRANSACTION;\n" ++ sql ++ "\n;\nROLLBACK;\n"

/-- The columns of one line; without a separator the line is one column. -/
def columnsOf (separator line : List Char) : List (List Char) :=
  if separator.isEmpty then [line] else Text.splitOnText separator line

def parseRows (stdout separator : String) : List Row :=
  let lines := (Text.linesOf stdout.toList).map (Text.trimEndChars (· == '\r'))
  (lines.filter (!·.isEmpty)).map fun line =>
    (columnsOf separator.toList line).map String.ofList

end Engine
end QueryFuzz
