import QueryFuzz.Grammar.Literal
import QueryFuzz.Sql.Name

/-!
# Phrases of generated queries

What the generator builds before it becomes text: expressions, predicates and statements, each
with the text it is written as. Literals and operators are already text. Everything that can
nest is wrapped in parentheses of its own, except where a keyword closes it.
-/

namespace QueryFuzz
namespace Grammar

open Sql (quoteIdentifier)

/-- A column by its name, with the name of its table where several tables are in view. -/
structure ColumnRef where
  table : Option String
  column : String
  deriving DecidableEq, Repr, Inhabited

def ColumnRef.text (c : ColumnRef) : String :=
  match c.table with
  | some t => quoteIdentifier t ++ "." ++ quoteIdentifier c.column
  | none => quoteIdentifier c.column

def commaList (parts : List String) : String :=
  ", ".intercalate parts

inductive Predicate where
  | compare (column : ColumnRef) (operator right : String)
  | nullCheck (column : ColumnRef) (negated : Bool)
  | between (column : ColumnRef) (negated : Bool) (low high : String)
  | inList (column : ColumnRef) (negated : Bool) (items : List String)
  | matching (column : ColumnRef) (operator pattern : String)
  | both (left right : Predicate)
  | either (left right : Predicate)
  | negation (inner : Predicate)
  | existsIn (table : String) (condition : Predicate)
  | inSubquery (column inner : ColumnRef) (table : String)

def Predicate.text : Predicate → String
  | compare c op right => c.text ++ " " ++ op ++ " " ++ right
  | nullCheck c negated => c.text ++ " IS" ++ (if negated then " NOT" else "") ++ " NULL"
  | between c negated low high =>
    c.text ++ " " ++ (if negated then "NOT " else "") ++ "BETWEEN " ++ low ++ " AND " ++ high
  | inList c negated items =>
    c.text ++ " " ++ (if negated then "NOT " else "") ++ "IN (" ++ commaList items ++ ")"
  | matching c op pattern => c.text ++ " " ++ op ++ " " ++ pattern
  | both left right => "(" ++ left.text ++ " AND " ++ right.text ++ ")"
  | either left right => "(" ++ left.text ++ " OR " ++ right.text ++ ")"
  | negation inner => "NOT (" ++ inner.text ++ ")"
  | existsIn table condition =>
    "EXISTS (SELECT 1 FROM " ++ quoteIdentifier table ++ " WHERE " ++ condition.text ++ ")"
  | inSubquery c inner table =>
    c.text ++ " IN (SELECT " ++ inner.text ++ " FROM " ++ quoteIdentifier table ++ ")"

inductive Expression where
  | column (c : ColumnRef)
  | literal (text : String)
  | binary (left : Expression) (operator right : String)
  | call (function : String) (argument : Expression) (others : List String)
  | conditional (condition : Predicate) (result : Expression) (otherwise : String)
  | cast (inner : Expression) (target : ColumnType)

def Expression.text : Expression → String
  | column c => c.text
  | literal text => text
  | binary left op right => "(" ++ left.text ++ " " ++ op ++ " " ++ right ++ ")"
  | call function argument others =>
    function ++ "(" ++ commaList (argument.text :: others) ++ ")"
  | conditional condition result otherwise =>
    "CASE WHEN " ++ condition.text ++ " THEN " ++ result.text ++ " ELSE " ++ otherwise ++ " END"
  | cast inner target => "CAST(" ++ inner.text ++ " AS " ++ target.sqlName ++ ")"

/-- An aggregate over a column, or over whole rows. -/
structure Aggregate where
  function : String
  column : Option ColumnRef
  deriving DecidableEq, Repr

def Aggregate.text (a : Aggregate) : String :=
  a.function ++ "(" ++ (match a.column with | some c => c.text | none => "*") ++ ")"

inductive Items where
  | star
  | columns (cs : List ColumnRef)
  | expressions (es : List Expression)
  | aggregates (as : List Aggregate)
  /-- The keys of a group and one aggregate. -/
  | grouped (keys : List ColumnRef) (aggregate : Aggregate)

def Items.text : Items → String
  | star => "*"
  | columns cs => commaList (cs.map (·.text))
  | expressions es => commaList (es.map (·.text))
  | aggregates as => commaList (as.map (·.text))
  | grouped keys a => commaList (keys.map (·.text) ++ [a.text])

inductive JoinKind where
  | inner
  | left
  deriving DecidableEq, Repr

def JoinKind.text : JoinKind → String
  | inner => "JOIN"
  | left => "LEFT JOIN"

inductive Join where
  | none
  | cross (table : String)
  | on (kind : JoinKind) (table leftColumn rightColumn : String)
  deriving DecidableEq, Repr

/-- The tables behind `FROM`. -/
structure TableSource where
  first : String
  join : Join
  deriving DecidableEq, Repr

def TableSource.text (s : TableSource) : String :=
  let first := quoteIdentifier s.first
  match s.join with
  | .none => first
  | .cross table => first ++ " CROSS JOIN " ++ quoteIdentifier table
  | .on kind table leftColumn rightColumn =>
    first ++ " " ++ kind.text ++ " " ++ quoteIdentifier table ++ " ON " ++
      first ++ "." ++ quoteIdentifier leftColumn ++ " = " ++
      quoteIdentifier table ++ "." ++ quoteIdentifier rightColumn

/-- `WHERE` with a condition, or nothing. -/
def whereText : Option Predicate → String
  | some p => " WHERE " ++ p.text
  | none => ""

structure Grouping where
  keys : List ColumnRef
  /-- An aggregate and the bound it must exceed. -/
  having : Option (Aggregate × String)

def groupingText : Option Grouping → String
  | none => ""
  | some g =>
    " GROUP BY " ++ commaList (g.keys.map (·.text)) ++
      match g.having with
      | some (a, bound) => " HAVING " ++ a.text ++ " > " ++ bound
      | none => ""

/-- The second query of a compound one. -/
structure Arm where
  items : List Expression
  table : String
  condition : Option Predicate

structure CompoundPart where
  operator : String
  arm : Arm

def compoundText : Option CompoundPart → String
  | none => ""
  | some c =>
    " " ++ c.operator ++ " SELECT " ++ commaList (c.arm.items.map (·.text)) ++ " FROM " ++
      quoteIdentifier c.arm.table ++ whereText c.arm.condition

structure LimitPart where
  count : Int
  offset : Option Int

def limitText : Option LimitPart → String
  | none => ""
  | some l =>
    " LIMIT " ++ toString l.count ++
      match l.offset with
      | some n => " OFFSET " ++ toString n
      | none => ""

structure Selection where
  distinct : Bool
  items : Items
  source : TableSource
  condition : Option Predicate
  grouping : Option Grouping
  compound : Option CompoundPart
  /-- Directions of an order by all output columns. -/
  order : Option (List Bool)
  limit : Option LimitPart

def Selection.text (s : Selection) : String :=
  "SELECT " ++ (if s.distinct then "DISTINCT " else "") ++ s.items.text ++ " FROM " ++
    s.source.text ++ whereText s.condition ++ groupingText s.grouping ++
    compoundText s.compound ++
    (match s.order with | some ds => " " ++ orderByText ds | none => "") ++ limitText s.limit

/-- What an insertion inserts. -/
inductive InsertionRows where
  | values (rows : List (List String))
  | copy (condition : Predicate)

inductive Query where
  | select (s : Selection)
  | insert (table : String) (columns : List String) (rows : InsertionRows)
  | update (table column value : String) (condition : Option Predicate)
  | delete (table : String) (condition : Option Predicate)
  | createTable (suffix : Int) (columns : List Column)
  | createTableAs (suffix : Int) (table : String) (condition : Predicate)
  | createIndex (suffix : Int) (unique : Bool) (table : String) (column : ColumnRef)
  | createView (suffix : Int) (table : String) (column : ColumnRef) (condition : Predicate)
  | addColumn (suffix : Int) (table : String) (type : ColumnType) (default : Int)

def Query.text : Query → String
  | select s => s.text
  | insert table columns rows =>
    let name := quoteIdentifier table
    let list := commaList (columns.map quoteIdentifier)
    "INSERT INTO " ++ name ++ " (" ++ list ++ ") " ++
      match rows with
      | .values rows => "VALUES " ++ commaList (rows.map fun row => "(" ++ commaList row ++ ")")
      | .copy p => "SELECT " ++ list ++ " FROM " ++ name ++ " WHERE " ++ p.text
  | update table column value condition =>
    "UPDATE " ++ quoteIdentifier table ++ " SET " ++ quoteIdentifier column ++ " = " ++ value ++
      whereText condition
  | delete table condition => "DELETE FROM " ++ quoteIdentifier table ++ whereText condition
  | createTable suffix columns =>
    "CREATE TABLE sqldrift_table_" ++ toString suffix ++ " (" ++
      commaList (columns.map fun c => quoteIdentifier c.name ++ " " ++ c.type.sqlName) ++ ")"
  | createTableAs suffix table p =>
    "CREATE TABLE sqldrift_copy_" ++ toString suffix ++ " AS SELECT * FROM " ++
      quoteIdentifier table ++ " WHERE " ++ p.text
  | createIndex suffix unique table c =>
    "CREATE " ++ (if unique then "UNIQUE " else "") ++ "INDEX IF NOT EXISTS sqldrift_idx_" ++
      toString suffix ++ " ON " ++ quoteIdentifier table ++ " (" ++ c.text ++ ")"
  | createView suffix table c p =>
    "CREATE VIEW sqldrift_view_" ++ toString suffix ++ " AS SELECT " ++ c.text ++ " FROM " ++
      quoteIdentifier table ++ " WHERE " ++ p.text
  | addColumn suffix table type default =>
    "ALTER TABLE " ++ quoteIdentifier table ++ " ADD COLUMN sqldrift_col_" ++ toString suffix ++
      " " ++ type.sqlName ++ " DEFAULT " ++ toString default

end Grammar
end QueryFuzz
