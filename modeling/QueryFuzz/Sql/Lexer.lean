import QueryFuzz.Sql.Error
import QueryFuzz.Sql.Token

/-!
# Cutting query text into tokens

The lexer works on a list of characters. `scan` looks at the first character and the rest and
answers with the kind of the token there and the number of characters of the rest that belong
to it. A token is therefore never empty, the text behind it is shorter, and the texts of all
tokens join to the text that was read.
-/

namespace QueryFuzz
namespace Sql

/-- The characters that may follow the first one of a bare word. -/
def isWordChar (c : Char) : Bool :=
  Text.isAlphanumeric c || c == '_' || c == '$'

def runLength (p : Char → Bool) (cs : List Char) : Nat :=
  (cs.takeWhile p).length

/-- Characters up to and including the mark that closes a quoted run; a doubled mark stands for
itself, except for the square bracket. -/
def quotedLength (close : Char) : List Char → Option Nat
  | [] => none
  | c :: rest =>
    if c = close then
      match rest with
      | d :: rest' =>
        if d = close ∧ close ≠ ']' then (quotedLength close rest').map (· + 2) else some 1
      | [] => some 1
    else (quotedLength close rest).map (· + 1)

/-- Characters up to and including the end of a block comment. -/
def blockCommentLength : List Char → Option Nat
  | [] => none
  | '*' :: '/' :: _ => some 2
  | _ :: rest => (blockCommentLength rest).map (· + 1)

/-- Length of a decimal point and the digits behind it. -/
def fractionLength : List Char → Nat
  | '.' :: rest => 1 + runLength Char.isDigit rest
  | _ => 0

/-- Length of an exponent; without digits it is none at all. -/
def exponentLength : List Char → Nat
  | [] => 0
  | e :: rest =>
    let sign := match rest with
      | s :: _ => if s = '+' ∨ s = '-' then 1 else 0
      | [] => 0
    let digits := runLength Char.isDigit (rest.drop sign)
    if (e = 'e' ∨ e = 'E') ∧ digits ≠ 0 then 1 + sign + digits else 0

/-- Length of a hexadecimal number with its mark, if there is one. -/
def hexLength : List Char → Option Nat
  | '0' :: x :: rest =>
    if (x = 'x' ∨ x = 'X') ∧ runLength Text.isHexDigit rest ≠ 0 then
      some (2 + runLength Text.isHexDigit rest)
    else none
  | _ => none

/-- Kind and length of the number at the start. -/
def numberShape (cs : List Char) : TokenKind × Nat :=
  match hexLength cs with
  | some n => (.integer, n)
  | none =>
    let whole := runLength Char.isDigit cs
    let fraction := fractionLength (cs.drop whole)
    let exponent := exponentLength (cs.drop (whole + fraction))
    (if fraction = 0 ∧ exponent = 0 then .integer else .float, whole + fraction + exponent)

/-- A number must not run into a letter, a further digit or an underscore. -/
def scanNumber (offset : Nat) (c : Char) (rest : List Char) : Except Error (TokenKind × Nat) :=
  let (kind, length) := numberShape (c :: rest)
  match (c :: rest).drop length with
  | d :: _ =>
    if Text.isAlphanumeric d || d == '_' then .error (.unexpectedCharacter d offset)
    else .ok (kind, length - 1)
  | [] => .ok (kind, length - 1)

/-- Characters of the operator at the start that follow its first one. -/
def operatorTail (c : Char) (rest : List Char) : Option Nat :=
  match c, rest with
  | '-', '>' :: '>' :: _ => some 2
  | '-', '>' :: _ => some 1
  | '|', '|' :: _ => some 1
  | '<', '=' :: _ => some 1
  | '<', '>' :: _ => some 1
  | '<', '<' :: _ => some 1
  | '>', '=' :: _ => some 1
  | '>', '>' :: _ => some 1
  | '!', '=' :: _ => some 1
  | '=', '=' :: _ => some 1
  | _, _ => if "+-*/%<>=&|~".toList.contains c then some 0 else none

/-- A blob literal after its `x`: pairs of hexadecimal digits between single quotes. -/
def scanBlob (offset : Nat) (rest : List Char) : Except Error (TokenKind × Nat) :=
  match quotedLength '\'' (rest.drop 1) with
  | none => .error (.unterminated .blob (offset + 1))
  | some n =>
    let body := (rest.drop 1).take (n - 1)
    if body.length % 2 = 0 ∧ body.all Text.isHexDigit then .ok (.blob, n + 1)
    else .error (.malformedBlob offset)

def scanQuoted (offset : Nat) (close : Char) (what : Enclosed) (kind : TokenKind)
    (rest : List Char) : Except Error (TokenKind × Nat) :=
  match quotedLength close rest with
  | none => .error (.unterminated what offset)
  | some n => .ok (kind, n)

def scanWord (c : Char) (rest : List Char) : TokenKind × Nat :=
  let n := runLength isWordChar rest
  (if isKeyword (String.ofList (c :: rest.take n)) then .keyword else .identifier, n)

def scanOperator (offset : Nat) (c : Char) (rest : List Char) :
    Except Error (TokenKind × Nat) :=
  match operatorTail c rest with
  | some n => .ok (.operator, n)
  | none => .error (.unexpectedCharacter c offset)

/-- Kind of the token that starts with `c`, and how many characters of `rest` belong to it. The
offset of `c` in bytes is only used to report a fault. -/
def scan (offset : Nat) (c : Char) (rest : List Char) : Except Error (TokenKind × Nat) :=
  if Text.isBlank c then .ok (.whitespace, runLength Text.isBlank rest)
  else if c = '-' ∧ rest.head? = some '-' then .ok (.comment, runLength (· != '\n') rest)
  else if c = '/' ∧ rest.head? = some '*' then
    match blockCommentLength (rest.drop 1) with
    | none => .error (.unterminated .comment offset)
    | some n => .ok (.comment, n + 1)
  else if c = '\'' then scanQuoted offset '\'' .string .string rest
  else if (c = 'x' ∨ c = 'X') ∧ rest.head? = some '\'' then scanBlob offset rest
  else if c = '"' ∨ c = '\x60' then scanQuoted offset c .identifier .quotedIdentifier rest
  else if c = '[' then scanQuoted offset ']' .identifier .quotedIdentifier rest
  else if c.isDigit ∨ c = '.' ∧ rest.head?.any Char.isDigit then scanNumber offset c rest
  else if c = '?' then .ok (.parameter, runLength Char.isDigit rest)
  else if (c = ':' ∨ c = '@' ∨ c = '$') ∧ rest.head?.any isWordChar then
    .ok (.parameter, runLength isWordChar rest)
  else if Text.isAlphabetic c ∨ c = '_' then .ok (scanWord c rest)
  else match c with
    | '(' => .ok (.leftParen, 0)
    | ')' => .ok (.rightParen, 0)
    | ',' => .ok (.comma, 0)
    | ';' => .ok (.semicolon, 0)
    | '.' => .ok (.dot, 0)
    | c => scanOperator offset c rest

def utf8Length (cs : List Char) : Nat :=
  cs.foldl (fun n c => n + c.utf8Size) 0

/-- The tokens of a text that starts at the given byte offset. -/
def tokenizeFrom (offset : Nat) (cs : List Char) : Except Error (List Token) :=
  match cs with
  | [] => .ok []
  | c :: rest =>
    match scan offset c rest with
    | .error e => .error e
    | .ok (kind, n) =>
      let lexeme := c :: rest.take n
      match tokenizeFrom (offset + utf8Length lexeme) (rest.drop n) with
      | .error e => .error e
      | .ok tokens => .ok (⟨kind, String.ofList lexeme⟩ :: tokens)
termination_by cs.length
decreasing_by simp only [List.length_drop, List.length_cons]; omega

/-- All tokens of a text, blanks and comments included. -/
def tokenize (sql : String) : Except Error (List Token) :=
  tokenizeFrom 0 sql.toList

/-- The tokens of a text without blanks and comments. -/
def significantTokens (sql : String) : Except Error (List Token) :=
  (tokenize sql).map (·.filter (!·.isTrivia))

end Sql
end QueryFuzz
