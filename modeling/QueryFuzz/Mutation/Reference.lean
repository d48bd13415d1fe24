import QueryFuzz.Schema
import QueryFuzz.Sql.Name
import QueryFuzz.Sql.Script

/-!
# What a statement refers to

Names in a statement are matched with the tables and columns of a schema. A statement is taken to
reference every table that one of its names spells. A name followed by a point is a qualifier and
one followed by a parenthesis a function; every other name may be a column.
-/

namespace QueryFuzz
namespace Mutation

open Sql

def isName (t : Token) : Bool :=
  t.kind == .identifier || t.kind == .quotedIdentifier

/-- The schema tables that a statement names, each once, in order of first mention. -/
def referencedTables (schema : Schema) (tokens : List Token) : List Table :=
  let named := (tokens.filter isName).filterMap fun t => schema.table? (unquote t.text)
  named.foldl (fun tables t => if tables.any (·.name == t.name) then tables else tables ++ [t]) []

/-- Among the referenced tables, the one with this name. -/
def tableNamed? (tables : List Table) (name : String) : Option Table :=
  tables.find? fun t => sameWord t.name name

def hasColumn (name : String) (t : Table) : Bool :=
  (t.column? name).isSome

/-- A column of a referenced table, where it is mentioned in a statement. -/
structure Mention where
  position : Nat
  table : Table
  qualified : Bool
  deriving DecidableEq

/-- The qualifier in front of the token at a position, if there is one. -/
def qualifierAt? (tokens : List Token) (i : Nat) : Option String :=
  if 2 ≤ i ∧ tokens[i - 1]?.any (·.kind == .dot) then
    (tokens[i - 2]?).map fun t => unquote t.text
  else none

/-- The table a column belongs to: the one its qualifier names, else the first that has it. -/
def ownerOf? (tables : List Table) (qualifier : Option String) (name : String) : Option Table :=
  match qualifier with
  | some q => tableNamed? tables q
  | none => tables.find? (hasColumn name)

/-- Is the token at a position followed by a parenthesis or a point? -/
def isOperatorName (tokens : List Token) (i : Nat) : Bool :=
  tokens[i + 1]?.any fun n => n.kind == .leftParen || n.kind == .dot

def mentionAt? (tables : List Table) (tokens : List Token) (i : Nat) (t : Token) :
    Option Mention :=
  if !isName t || isOperatorName tokens i then none
  else
    let name := unquote t.text
    let qualifier := qualifierAt? tokens i
    match ownerOf? tables qualifier name with
    | some table =>
      if hasColumn name table && 1 < table.columns.length then some ⟨i, table, qualifier.isSome⟩
      else none
    | none => none

/-- The mentions of columns that could be exchanged for another column of their table. -/
def columnMentions (schema : Schema) (tokens : List Token) : List Mention :=
  let tables := referencedTables schema tokens
  tokens.zipIdx.filterMap fun (t, i) => mentionAt? tables tokens i t

/-- Does every name of a piece of a query refer to something in these tables? -/
def resolves (tables : List Table) (piece : List Token) : Bool :=
  piece.zipIdx.all fun (t, i) =>
    if !isName t then true
    else match piece[i + 1]? with
      | some n =>
        if n.kind == .leftParen then true
        else if n.kind == .dot then (tableNamed? tables (unquote t.text)).isSome
        else tables.any (hasColumn (unquote t.text))
      | none => tables.any (hasColumn (unquote t.text))

/-- Output columns of one select item, where they can be told. -/
def itemWidth? (tables : List Table) (item : List Token) : Option Nat :=
  match item with
  | [star] =>
    if star.isOperator "*" then
      match tables with
      | [t] => some t.columns.length
      | _ => none
    else some 1
  | [qualifier, dot, star] =>
    if dot.kind == .dot && star.isOperator "*" then
      (tableNamed? tables (unquote qualifier.text)).map (·.columns.length)
    else some 1
  | _ => some 1

/-- Number of output columns of a statement, where it can be told: a star stands for the columns of
a single referenced table, a qualified star for those of the table it names. -/
def outputWidth? (s : Statement) (tables : List Table) : Option Nat :=
  match s.selectItems.mapM fun r => itemWidth? tables (r.slice s.tokens) with
  | some widths =>
    let width := widths.foldl (· + ·) 0
    if width = 0 then none else some width
  | none => none

/-- A column as text, qualified where several tables are referenced. -/
def columnText (tables : List Table) (table : Table) (column : String) : String :=
  if 1 < tables.length then quoteIdentifier table.name ++ "." ++ quoteIdentifier column
  else quoteIdentifier column

end Mutation
end QueryFuzz
