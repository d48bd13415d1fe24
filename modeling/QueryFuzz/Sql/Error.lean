import QueryFuzz.Text.Quoted

/-!
# What can be wrong with a query

Lexical faults carry the byte offset where they were found, structural faults the index of the
token among the significant tokens of its statement.
-/

namespace QueryFuzz
namespace Sql

/-- What a lexeme with a closing mark can be. -/
inductive Enclosed where
  | comment
  | string
  | blob
  | identifier
  deriving DecidableEq, Repr

def Enclosed.name : Enclosed → String
  | comment => "comment"
  | string => "string"
  | blob => "blob"
  | identifier => "identifier"

inductive Error where
  | unterminated (what : Enclosed) (offset : Nat)
  | unexpectedCharacter (c : Char) (offset : Nat)
  | malformedBlob (offset : Nat)
  | empty
  | unbalancedParentheses
  | unknownStatement (head : String)
  | missingOperand (token : String) (index : Nat)
  | emptyParentheses (index : Nat)
  deriving DecidableEq, Repr

def Error.message : Error → String
  | unterminated what offset => s!"unterminated {what.name} starting at byte {offset}"
  | unexpectedCharacter c offset =>
    "unexpected character " ++ Text.quotedChar c ++ s!" at byte {offset}"
  | malformedBlob offset => s!"malformed blob literal at byte {offset}"
  | empty => "no statement found"
  | unbalancedParentheses => "unbalanced parentheses"
  | unknownStatement head => Text.quoted head ++ " does not begin a statement"
  | missingOperand token index =>
    Text.quoted token ++ s!" at token {index} is missing an operand"
  | emptyParentheses index => s!"empty parentheses at token {index}"

end Sql
end QueryFuzz
