/-!
# Shell commands

A script is made of commands, and commands of words. A word is a sequence of pieces: plain text,
values of parameters, the output of commands and sums. What stands between quotes is marked, since
it is kept together when the word is expanded.
-/

namespace QueryFuzz
namespace Shell

/-- Where the input or the output of a command is taken to. -/
inductive Direction where
  | source
  | target
  /-- Like `target`, even if overwriting is forbidden. -/
  | overwrite
  | append
  | both
  /-- To where another descriptor leads, or nowhere. -/
  | duplicate
  /-- Lines that follow the command; they are known by a number. -/
  | document (number : Nat)
  deriving DecidableEq, Repr

mutual

inductive Piece where
  | text (s : String) (quoted : Bool)
  | parameter (name : String) (form : Form) (quoted : Bool)
  /-- What a command prints. -/
  | output (c : Command) (quoted : Bool)
  /-- The value of an expression over whole numbers. -/
  | sum (expression : List Piece) (quoted : Bool)

/-- What is taken of a parameter. -/
inductive Form where
  | value
  | length
  /-- Depending on whether the parameter has a value, or one that is not empty, the value or what
  the mark and the word say. -/
  | otherwise (mark : Char) (nonempty : Bool) (word : List Piece)
  /-- The value without the shortest or the longest match of a pattern at one end. -/
  | trimmed (fromEnd longest : Bool) (pattern : List Piece)
  | malformed

inductive Redirection where
  | to (descriptor : Nat) (direction : Direction) (target : List Piece)

/-- Commands; a line number tells where one was written. -/
inductive Command where
  | nothing
  | simple (line : Nat) (assignments : List (String × List Piece)) (words : List (List Piece))
      (redirections : List Redirection)
  | sequence (first second : Command)
  /-- The second one only if the first succeeds. -/
  | both (first second : Command)
  /-- The second one only if the first fails. -/
  | either (first second : Command)
  | negated (c : Command)
  | pipeline (stages : List Command)
  | background (c : Command)
  | choice (condition yes no : Command)
  /-- Repeats the body as long as the condition succeeds, or as long as it fails. -/
  | loop (whileSuccess : Bool) (condition body : Command)
  | each (line : Nat) (name : String) (items : List (List Piece)) (body : Command)
  /-- Runs what belongs to the first pattern that matches. -/
  | select (line : Nat) (subject : List Piece) (cases : List (List (List Piece) × Command))
  | subshell (line : Nat) (c : Command)
  | redirected (line : Nat) (c : Command) (redirections : List Redirection)
  | define (name : String) (body : Command)

end

instance : Inhabited Piece := ⟨.text "" false⟩

instance : Inhabited Command := ⟨.nothing⟩

abbrev Word := List Piece

/-- Is the command there for its status alone? -/
def Command.isNothing : Command → Bool
  | .nothing => true
  | _ => false

def Redirection.descriptor : Redirection → Nat
  | .to descriptor _ _ => descriptor

def Redirection.direction : Redirection → Direction
  | .to _ direction _ => direction

def Redirection.target : Redirection → Word
  | .to _ _ target => target

/-- A name starts with a letter or an underscore. -/
def isNameStart (c : Char) : Bool := c.isAlpha || c = '_'

def isNameChar (c : Char) : Bool := c.isAlphanum || c = '_'

/-- Can a text name a variable or a function? -/
def isName (s : String) : Bool :=
  s.toList.head?.any isNameStart && s.toList.all isNameChar

/-- The name and the value of a text that assigns one to the other. -/
def splitAssignment? (s : String) : Option (String × String) :=
  let name := s.toList.takeWhile isNameChar
  match s.toList.drop name.length with
  | '=' :: value =>
    if isName (String.ofList name) then some (String.ofList name, String.ofList value) else none
  | _ => none

/-- The name and the value of a word that assigns one to the other. -/
def assignment? (w : Word) : Option (String × Word) :=
  match w with
  | .text s false :: rest =>
    (splitAssignment? s).map fun (name, value) =>
      (name, if value.isEmpty then rest else .text value false :: rest)
  | _ => none

/-- The text of a word that has no quotes and nothing to expand. -/
def plainText? (w : Word) : Option String :=
  match w with
  | [.text s false] => some s
  | _ => none

/-- A word with another piece at its end; texts of a kind are joined. -/
def addPiece (w : Word) (p : Piece) : Word :=
  match w.getLast?, p with
  | some (.text s quoted), .text t sameQuoted =>
    if quoted = sameQuoted then w.dropLast ++ [.text (s ++ t) quoted] else w ++ [p]
  | _, _ => w ++ [p]

end Shell
end QueryFuzz
