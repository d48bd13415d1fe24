import QueryFuzz.Sql.Token

/-!
# Schemas

What is known of a database: its tables, their columns and the declared type of each column.
Names are looked up without regard to the case of plain letters, and the first match counts.
-/

namespace QueryFuzz

inductive ColumnType where
  | integer
  | real
  | text
  | blob
  deriving DecidableEq, Repr, Inhabited

namespace ColumnType

def all : List ColumnType := [integer, real, text, blob]

/-- The name of the type in a column definition. -/
def sqlName : ColumnType → String
  | integer => "INTEGER"
  | real => "REAL"
  | text => "TEXT"
  | blob => "BLOB"

/-- The name of the type in a schema document. -/
def documentName : ColumnType → String
  | integer => "integer"
  | real => "real"
  | text => "text"
  | blob => "blob"

def ofDocumentName? (name : String) : Option ColumnType :=
  all.find? (·.documentName == name)

def isNumeric : ColumnType → Bool
  | integer | real => true
  | text | blob => false

end ColumnType

structure Column where
  name : String
  type : ColumnType
  deriving DecidableEq, Repr, Inhabited

structure Table where
  name : String
  columns : List Column
  deriving DecidableEq, Repr, Inhabited

structure Schema where
  tables : List Table
  deriving DecidableEq, Repr, Inhabited

def Table.column? (t : Table) (name : String) : Option Column :=
  t.columns.find? fun c => Sql.sameWord c.name name

namespace Schema

/-- The tables that a query can draw on: those with a column. -/
def usableTables (s : Schema) : List Table :=
  s.tables.filter (!·.columns.isEmpty)

def table? (s : Schema) (name : String) : Option Table :=
  s.tables.find? fun t => Sql.sameWord t.name name

def tableNames (s : Schema) : List String :=
  s.tables.map (·.name)

def columnNames (s : Schema) : List String :=
  s.tables.flatMap fun t => t.columns.map (·.name)

/-- The declared type of a column, of the first table that has it if none is named. -/
def columnType? (s : Schema) (table : Option String) (column : String) : Option ColumnType :=
  match table with
  | some name => ((s.table? name).bind (·.column? column)).map (·.type)
  | none => (s.tables.findSome? (·.column? column)).map (·.type)

/-- A small shop with customers, goods, orders and reviews; the schema of the sample settings. -/
def storefront : Schema :=
  ⟨[⟨"users", [⟨"id", .integer⟩, ⟨"name", .text⟩, ⟨"email", .text⟩, ⟨"age", .integer⟩,
      ⟨"joined_date", .text⟩, ⟨"score", .real⟩]⟩,
    ⟨"products", [⟨"id", .integer⟩, ⟨"name", .text⟩, ⟨"price", .real⟩, ⟨"category", .text⟩,
      ⟨"stock", .integer⟩]⟩,
    ⟨"orders", [⟨"id", .integer⟩, ⟨"user_id", .integer⟩, ⟨"product_id", .integer⟩,
      ⟨"quantity", .integer⟩, ⟨"order_date", .text⟩]⟩,
    ⟨"reviews", [⟨"id", .integer⟩, ⟨"user_id", .integer⟩, ⟨"product_id", .integer⟩,
      ⟨"rating", .integer⟩, ⟨"comment", .text⟩]⟩]⟩

end Schema
end QueryFuzz
