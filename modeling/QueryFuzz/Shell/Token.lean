import QueryFuzz.Shell.Command

/-!
# Tokens of shell scripts

A script is read token by token. What a word is depends on where it stands: keywords and aliases
count only where a command may start, and only without quotes. The reader keeps the rest of the
script, the number of the line, and the token that was read last, which can be put back. Line
breaks behind backslashes are dropped before anything looks at them.
-/

namespace QueryFuzz
namespace Shell

inductive Token where
  | word (w : Word)
  /-- An operator or a keyword. -/
  | mark (s : String)
  /-- A redirection with the digit in front of it; the flag belongs to documents and tells that
  tabs are removed from their lines. -/
  | redirection (descriptor : Option Nat) (direction : Direction) (stripsTabs : Bool)
  | newline
  | finish

/-- What a token is called in messages. -/
def Token.name : Token → String
  | .word _ => "word"
  | .mark s => "\"" ++ s ++ "\""
  | .redirection .. => "redirection"
  | .newline => "newline"
  | .finish => "end of file"

def Token.isMark (s : String) : Token → Bool
  | .mark m => m == s
  | _ => false

def Token.isNewline : Token → Bool
  | .newline => true
  | _ => false

/-- Does the token end a list of commands inside a larger one? -/
def Token.endsList : Token → Bool
  | .finish => true
  | .mark m =>
    [")", ";;", "do", "done", "elif", "else", "esac", "fi", "then", "\x7d"].contains m
  | _ => false

/-- Commands of the shell whose names no function may have. -/
def specialNames : List String :=
  [".", ":", "break", "continue", "eval", "exec", "exit", "export", "readonly", "return", "set",
    "shift", "times", "trap", "unset", "local"]

def keywords : List String :=
  ["!", "case", "do", "done", "elif", "else", "esac", "fi", "for", "if", "in", "then", "until",
    "while", "\x7b", "\x7d"]

/-- The start of a document is announced before its lines are reached. -/
structure Announcement where
  number : Nat
  /-- The line that ends the document. -/
  mark : String
  stripsTabs : Bool
  /-- Is nothing expanded? -/
  literal : Bool

structure Reader where
  rest : List Char
  line : Nat
  last : Token
  /-- Was the last token put back? -/
  held : Bool
  announced : List Announcement
  /-- Documents that were read, by their numbers. -/
  documents : List (Nat × Word)
  nextDocument : Nat
  aliases : List (String × String)
  /-- Aliases whose text is being read, with what is left of the script behind it. -/
  expanding : List (String × Nat)

def Reader.ofText (script : String) (line : Nat) : Reader :=
  ⟨script.toList, line, .finish, false, [], [], 0, [], []⟩

structure SyntaxError where
  line : Nat
  message : String

abbrev Reading := StateT Reader (Except SyntaxError)

namespace Reading

def failWith {α : Type} (message : String) : Reading α := do
  throw ⟨(← get).line, message⟩

/-- Complains about the last token. -/
def unexpected {α : Type} (expected : Option String) : Reading α := do
  let found := "Syntax error: " ++ (← get).last.name ++ " unexpected"
  failWith (match expected with
    | some e => found ++ " (expecting " ++ e ++ ")"
    | none => found)

/-- A text without the joined line breaks at its front, and how many there were. -/
def withoutJoins : List Char → List Char × Nat
  | '\\' :: '\n' :: rest =>
    let (cs, n) := withoutJoins rest
    (cs, n + 1)
  | cs => (cs, 0)

/-- The next character as it stands. -/
def peekRaw : Reading (Option Char) := return (← get).rest.head?

/-- The next character behind joined line breaks. -/
def peek : Reading (Option Char) := do
  modify fun r =>
    let (rest, n) := withoutJoins r.rest
    { r with rest := rest, line := r.line + n }
  peekRaw

/-- Takes some characters. -/
def take (n : Nat) : Reading String := do
  let r ← get
  let front := r.rest.take n
  set { r with rest := r.rest.drop n, line := r.line + front.count '\n' }
  return String.ofList front

def advance : Reading Unit := do
  let _ ← take 1

/-- Takes characters as long as they pass a test. -/
def takeWhile (p : Char → Bool) : Reading String := do
  take ((← get).rest.takeWhile p).length

/-- Like `takeWhile`, with line breaks joined. -/
def takeJoined (p : Char → Bool) : Nat → Reading String
  | 0 => return ""
  | fuel + 1 => do
    match ← peek with
    | some c =>
      if p c then
        advance
        return c.toString ++ (← takeJoined p fuel)
      else return ""
    | none => return ""

/-- Takes the next character if it is the given one. -/
def accept (c : Char) : Reading Bool := do
  if (← peek) = some c then
    advance
    return true
  else return false

/-- Puts the last token back. -/
def hold : Reading Unit := modify fun r => { r with held := true }

def setLast (t : Token) : Reading Token := do
  modify fun r => { r with last := t, held := false }
  return t

def isBlank (c : Char) : Bool := c = ' ' || c = '\t'

/-- Does the character end a word that is not quoted? -/
def isDelimiter (c : Char) : Bool :=
  isBlank c || [';', '&', '|', '<', '>', '(', ')', '\n'].contains c

/-- Skips blanks and a comment. -/
def skipBlanks : Nat → Reading Unit
  | 0 => return
  | fuel + 1 => do
    match ← peek with
    | some c =>
      if isBlank c then
        advance
        skipBlanks fuel
      else if c = '#' then
        let _ ← takeWhile (· ≠ '\n')
    | none => return

/-- The operator or the end at the front; none if a word starts here. -/
def operator? : Reading (Option Token) := do
  let either := fun (c : Char) (two one : String) => do
    advance
    return some (Token.mark (if ← accept c then two else one))
  match ← peek with
  | none => return some .finish
  | some '\n' =>
    advance
    return some .newline
  | some '&' => either '&' "&&" "&"
  | some '|' => either '|' "||" "|"
  | some ';' => either ';' ";;" ";"
  | some '(' =>
    advance
    return some (.mark "(")
  | some ')' =>
    advance
    return some (.mark ")")
  | some _ => return none

/-- The redirection behind a word that is empty or a digit. -/
def redirection (descriptor : Option Nat) : Reading Token := do
  if ← accept '>' then
    let direction ← do
      if ← accept '>' then pure Direction.append
      else if ← accept '|' then pure .overwrite
      else if ← accept '&' then pure .duplicate
      else pure .target
    return .redirection (some (descriptor.getD 1)) direction false
  else
    advance
    let descriptor := some (descriptor.getD 0)
    if ← accept '<' then return .redirection descriptor (.document 0) (← accept '-')
    else if ← accept '&' then return .redirection descriptor .duplicate false
    else if ← accept '>' then return .redirection descriptor .both false
    else return .redirection descriptor .source false

/-- Is the reader still in the text of an alias? -/
def isExpanding (name : String) : Reading Bool := do
  let r ← get
  return r.expanding.any fun (alias_, left) => alias_ = name && left ≤ r.rest.length

/-- Puts the text of an alias in front of the rest, unless the reader is inside it already. -/
def expandAlias (name : String) : Reading Bool := do
  let r ← get
  match r.aliases.lookup name with
  | some text =>
    if ← isExpanding name then return false
    set { r with
      rest := text.toList ++ r.rest, expanding := (name, r.rest.length) :: r.expanding }
    return true
  | none => return false

/-- Does the text of an alias that is used up end in a blank? -/
def isChained : Reading Bool := do
  let r ← get
  let (done, left) := r.expanding.partition fun (_, left) => r.rest.length < left
  set { r with expanding := left }
  return done.any fun (name, _) =>
    ((r.aliases.lookup name).bind fun text => text.toList.getLast?).any isBlank

end Reading
end Shell
end QueryFuzz
