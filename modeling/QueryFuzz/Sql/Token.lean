/-!
# Tokens of a query

A token is a kind together with the exact characters it was written with. Keywords keep the
letter case they were written in and are compared without regard to it.
-/

namespace QueryFuzz
namespace Sql

inductive TokenKind where
  | keyword
  | identifier
  | quotedIdentifier
  | string
  | blob
  | integer
  | float
  | parameter
  | operator
  | leftParen
  | rightParen
  | comma
  | semicolon
  | dot
  | comment
  | whitespace
  deriving DecidableEq, Repr

def TokenKind.all : List TokenKind :=
  [.keyword, .identifier, .quotedIdentifier, .string, .blob, .integer, .float, .parameter,
    .operator, .leftParen, .rightParen, .comma, .semicolon, .dot, .comment, .whitespace]

structure Token where
  kind : TokenKind
  text : String
  deriving DecidableEq, Repr

def keywords : List String :=
  ["ADD", "ALL", "ALTER", "ANALYZE", "AND", "AS", "ASC", "BEGIN", "BETWEEN", "BY", "CASE",
  "CAST", "CHECK", "COLLATE", "COLUMN", "COMMIT", "CREATE", "CROSS", "DEFAULT", "DELETE",
  "DESC", "DISTINCT", "DROP", "ELSE", "END", "ESCAPE", "EXCEPT", "EXISTS", "EXPLAIN", "FALSE",
  "FROM", "GLOB", "GROUP", "HAVING", "IF", "IN", "INDEX", "INNER", "INSERT", "INTERSECT",
  "INTO", "IS", "JOIN", "KEY", "LEFT", "LIKE", "LIMIT", "NATURAL", "NOT", "NULL", "OFFSET",
  "ON", "OR", "ORDER", "OUTER", "OVER", "PARTITION", "PRAGMA", "PRIMARY", "RECURSIVE",
  "REFERENCES", "REINDEX", "RENAME", "RETURNING", "RIGHT", "ROLLBACK", "SELECT", "SET",
  "TABLE", "THEN", "TO", "TRANSACTION", "TRUE", "UNION", "UNIQUE", "UPDATE", "USING", "VACUUM",
  "VALUES", "VIEW", "WHEN", "WHERE", "WITH"]

def isKeyword (word : String) : Bool :=
  keywords.contains word.toUpper

/-- Equality up to the case of the 26 plain letters. -/
def sameWord (a b : String) : Bool :=
  a.toUpper == b.toUpper

namespace Token

def ofKeyword (word : String) : Token := ⟨.keyword, word⟩

/-- Is the token one of these keywords? The words are given in capitals. -/
def isAnyOf (words : List String) (t : Token) : Bool :=
  t.kind == .keyword && words.contains t.text.toUpper

/-- Is the token this keyword? The word is given in capitals. -/
def isWord (word : String) (t : Token) : Bool :=
  t.isAnyOf [word]

def isOperator (op : String) (t : Token) : Bool :=
  t.kind == .operator && t.text == op

def isTrivia (t : Token) : Bool :=
  t.kind == .whitespace || t.kind == .comment

def isLiteral (t : Token) : Bool :=
  match t.kind with
  | .string | .blob | .integer | .float => true
  | _ => t.isAnyOf ["NULL", "TRUE", "FALSE"]

/-- Signs that may stand in front of an operand. -/
def isSign (t : Token) : Bool :=
  t.kind == .operator && ["-", "+", "~"].contains t.text

/-- Can an expression begin with this token? -/
def startsOperand (t : Token) : Bool :=
  match t.kind with
  | .identifier | .quotedIdentifier | .string | .blob | .integer | .float | .parameter
  | .leftParen => true
  | .operator => t.isSign
  | .keyword =>
    t.isAnyOf ["NOT", "NULL", "CASE", "EXISTS", "CAST", "TRUE", "FALSE", "SELECT"]
  | _ => false

/-- Can an expression end with this token? -/
def endsOperand (t : Token) : Bool :=
  match t.kind with
  | .identifier | .quotedIdentifier | .string | .blob | .integer | .float | .parameter
  | .rightParen => true
  | .operator => t.text == "*"
  | .keyword => t.isAnyOf ["NULL", "TRUE", "FALSE", "END"]
  | _ => false

end Token
end Sql
end QueryFuzz
