import QueryFuzz.Sql.Token

/-!
# Names and their quoted forms

A name that could be mistaken for a keyword, or that holds anything but plain letters, digits
and underscores, is written between double quotes. Reading a name undoes any of the quoting
styles.
-/

namespace QueryFuzz
namespace Sql

/-- Writes the mark twice wherever it occurs. -/
def doubled (mark : Char) : List Char → List Char
  | [] => []
  | c :: rest => if c = mark then c :: c :: doubled mark rest else c :: doubled mark rest

/-- Replaces each doubled mark by a single one. -/
def undoubled (mark : Char) : List Char → List Char
  | [] => []
  | [c] => [c]
  | c :: d :: rest =>
    if c = mark ∧ d = mark then mark :: undoubled mark rest
    else c :: undoubled mark (d :: rest)

def isPlainName : List Char → Bool
  | [] => false
  | c :: rest => (c.isAlpha || c == '_') && (c :: rest).all fun d => d.isAlphanum || d == '_'

def quoteIdentifier (name : String) : String :=
  if isPlainName name.toList && !isKeyword name then name
  else String.ofList ('"' :: doubled '"' name.toList ++ ['"'])

/-- The text between the first and the last character. -/
def inner (cs : List Char) : List Char :=
  (cs.drop 1).dropLast

/-- The name that a token's text stands for. -/
def unquote (text : String) : String :=
  let cs := text.toList
  match cs.head?, cs.getLast? with
  | some '"', some '"' => if 2 ≤ cs.length then String.ofList (undoubled '"' (inner cs)) else text
  | some '\x60', some '\x60' =>
    if 2 ≤ cs.length then String.ofList (undoubled '"' (inner cs)) else text
  | some '[', some ']' => String.ofList (inner cs)
  | _, _ => text

end Sql
end QueryFuzz
