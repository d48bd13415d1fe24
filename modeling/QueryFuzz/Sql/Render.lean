import QueryFuzz.Sql.Token

/-!
# Writing tokens

Tokens are written with one space between them, except where convention has none: before a
comma, a closing parenthesis, a point or a semicolon, after an opening parenthesis or a point,
and between a name and the parenthesis of its arguments.
-/

namespace QueryFuzz
namespace Sql

/-- Is there no space between two neighbouring tokens? -/
def adjoins (left right : Token) : Bool :=
  [.comma, .rightParen, .dot, .semicolon].contains right.kind ||
  (right.kind == .leftParen && [.identifier, .quotedIdentifier].contains left.kind) ||
  [.leftParen, .dot].contains left.kind

/-- The text of the tokens that follow `left`. -/
def renderAfter (left : Token) : List Token → String
  | [] => ""
  | t :: rest => (if adjoins left t then "" else " ") ++ t.text ++ renderAfter t rest

def render : List Token → String
  | [] => ""
  | t :: rest => t.text ++ renderAfter t rest

end Sql
end QueryFuzz
