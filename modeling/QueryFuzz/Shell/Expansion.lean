import QueryFuzz.Shell.Arithmetic
import QueryFuzz.Shell.Fields
import QueryFuzz.Shell.Session

/-!
# Expansion of words

Parameters, sums and the output of commands take the place of their pieces. Outside of quotes the
result is split into fields, and fields that are patterns are replaced by the names they match.
Where a single text is wanted nothing is split.
-/

namespace QueryFuzz
namespace Shell

open Storage

/-- A home directory by the text behind the tilde. -/
def home? (s : Session) (user : String) : Option String :=
  if user = "" then s.valueOf? "HOME" else if user = "root" then some "/root" else none

/-- A text that may start with a tilde, followed by more of its word or not. -/
def expandTilde (s : Session) (text : String) (isLast : Bool) : Word :=
  match text.toList with
  | '~' :: rest =>
    let user := rest.takeWhile (· ≠ '/')
    if user.length = rest.length && !isLast then [.text text false]
    else match home? s (String.ofList user) with
      | some path => [.text path true, .text (String.ofList (rest.drop user.length)) false]
      | none => [.text text false]
  | _ => [.text text false]

/-- A word with its tildes expanded; in an assignment each part between colons may start with
one. -/
def withTildes (s : Session) (inAssignment : Bool) (w : Word) : Word :=
  let rec inParts (parts : List String) (isLast : Bool) : Word :=
    match parts with
    | [] => []
    | [p] => expandTilde s p isLast
    | p :: rest => expandTilde s p true ++ .text ":" false :: inParts rest isLast
  match w with
  | .text t false :: rest =>
    if inAssignment then
      inParts ((Text.splitOn ':' t.toList).map String.ofList) rest.isEmpty ++ rest
    else expandTilde s t rest.isEmpty ++ rest
  | w => w

namespace Expand

/-- What expansion needs beside the session: how the output of a command is taken, and whether
fields are wanted, or a single text. -/
structure Manner where
  capture : Command → Step String
  splits : Bool

/-- Adds the result of an expansion. -/
def addResult (m : Manner) (f : Fields) (s : String) (quoted : Bool) : Step Fields := do
  if quoted || !m.splits then return f.append s quoted
  else return f.appendSplit (← get).separators s.toList

def addArguments (m : Manner) (f : Fields) (name : String) (quoted : Bool) : Step Fields := do
  let s ← get
  if m.splits && quoted && name = "@" then return f.appendAll s.arguments
  else if m.splits && !quoted then
    return f.appendSplit s.separators ("\x00".intercalate s.arguments).toList
  else return f.append s.joinedArguments quoted

def isArguments (name : String) : Bool := name = "@" || name = "*"

/-- The value of a parameter, if it has one. -/
def value? (name : String) : Step (Option String) := do
  let s ← get
  if isArguments name then
    return if s.arguments.isEmpty then none else some s.joinedArguments
  else return s.parameter? name

/-- The value of a parameter that should have one. -/
def value (name : String) : Step String := do
  match ← value? name with
  | some v => return v
  | none =>
    if (← get).hasOption 'u' && !isArguments name then
      Step.failWith (name ++ ": parameter not set")
    else return ""

/-- The value of an expression over whole numbers. -/
def evaluate (expression : String) : Step Int := do
  let s ← get
  match Arithmetic.evaluate s.parameter? expression with
  | .ok (n, assigned) =>
    assigned.reverse.forM fun (name, n) => Step.assign name (toString n)
    return n
  | .error (.malformed reason) =>
    Step.failWith ("arithmetic expression: " ++ reason ++ ": \"" ++ expression ++ "\"")
  | .error (.noNumber text) => Step.failWith ("Illegal number: " ++ text)

/-- The text behind a mark for the case that a parameter has no value. -/
def missingText (nonempty : Bool) (word : String) (isGiven : Bool) : String :=
  if isGiven then word
  else if nonempty then "parameter not set or null" else "parameter not set"

mutual

/-- Adds the pieces of a word; `loose` tells that text outside of quotes may be split. -/
def addWord (m : Manner) : Nat → Bool → Fields → Word → Step Fields
  | 0, _, _, _ => throw .overran
  | _ + 1, _, f, [] => return f
  | fuel + 1, loose, f, p :: rest => do
    addWord m fuel loose (← addPiece m fuel loose f p) rest

def addPiece (m : Manner) : Nat → Bool → Fields → Piece → Step Fields
  | 0, _, _, _ => throw .overran
  | fuel + 1, loose, f, p => do
    match p with
    | .text s quoted => if loose && !quoted then addResult m f s false else return f.append s quoted
    | .output c quoted => addResult m f (← m.capture c) quoted
    | .sum w quoted =>
      addResult m f (toString (← evaluate (← text m fuel w))) quoted
    | .parameter name form quoted =>
      match form with
      | .malformed => Step.failWith "Bad substitution"
      | .length => addResult m f (toString (← value name).length) quoted
      | .value => addValue m f name quoted
      | .trimmed fromEnd longest pattern =>
        let cs := (← value name).toList
        let p := (← field m fuel pattern).toPattern
        addResult m f (String.ofList (p.trim fromEnd longest cs)) quoted
      | .otherwise mark nonempty w =>
        let v ← value? name
        let present := v.any fun v => !nonempty || v ≠ ""
        match mark with
        | '+' => if present then addWord m fuel (!quoted) f w else return f
        | '-' => if present then addValue m f name quoted else addWord m fuel (!quoted) f w
        | '=' =>
          if !present then
            if !isName name then Step.failWith (name ++ ": bad variable name")
            Step.assign name (← text m fuel w)
          addValue m f name quoted
        | _ =>
          if present then addValue m f name quoted
          else
            let reason := missingText nonempty (← text m fuel w) (!w.isEmpty)
            Step.failWith (name ++ ": " ++ reason)

def addValue (m : Manner) (f : Fields) (name : String) (quoted : Bool) : Step Fields := do
  if isArguments name then addArguments m f name quoted
  else addResult m f (← value name) quoted

/-- A word as one field. -/
def field (m : Manner) : Nat → Word → Step Field
  | 0, _ => throw .overran
  | fuel + 1, w => do
    return (← addWord { m with splits := false } fuel false .empty w).current

/-- A word as one text. -/
def text (m : Manner) : Nat → Word → Step String
  | 0, _ => throw .overran
  | fuel + 1, w => return (← field m fuel w).text

end

end Expand

/-! ### Names on the disk -/

/-- A field without the backslashes that quote in patterns. -/
def unescapedText (f : Field) : List Char :=
  match f with
  | ('\\', false) :: (c, _) :: rest => c :: unescapedText rest
  | (c, _) :: rest => c :: unescapedText rest
  | [] => []

/-- The names in a directory that a pattern matches. A pattern that does not start with a point
does not match names that do. -/
def matchingNames (t : Tree) (l : Location) (f : Field) : List String :=
  let p := f.toPattern
  let hidden := f.head?.any fun (c, _) => c = '.'
  ((if hidden then [".", ".."] else []) ++ (t.names l).map Text.encoded).filter fun name =>
    (hidden || name.toList.head? ≠ some '.') && p.matchesAll name.toList

/-- One step further on a path. -/
def below (l : Location) (name : String) : Location :=
  if name = "" || name = "." then l
  else if name = ".." then l.dropLast
  else l ++ [Text.decoded name]

/-- The paths that match the parts of a pattern between slashes, from a location on. -/
def matchingPaths (t : Tree) : List Field → Location → String → List String
  | [], _, _ => []
  | [f], l, start =>
    if f.isPattern then (matchingNames t l f).map (start ++ ·)
    else
      let name := String.ofList (unescapedText f)
      if (t.get? (below l name)).isSome then [start ++ name] else []
  | f :: rest, l, start =>
    let names := if f.isPattern then matchingNames t l f else [String.ofList (unescapedText f)]
    (names.map fun name =>
      if t.isDirectory (below l name) then
        matchingPaths t rest (below l name) (start ++ name ++ "/")
      else []).flatten

def splitAtSlashes : Field → List Field
  | [] => [[]]
  | (c, quoted) :: rest =>
    match splitAtSlashes rest with
    | f :: fs => if c = '/' then [] :: f :: fs else ((c, quoted) :: f) :: fs
    | [] => [[(c, quoted)]]

/-- The paths that a field matches, in ascending order, or the field itself. -/
def Session.matching (s : Session) (f : Field) : List String :=
  if s.hasOption 'f' || !f.isPattern then [f.text]
  else
    let start := if f.head?.any fun (c, _) => c = '/' then [] else s.directory
    let paths := (matchingPaths s.disk.tree (splitAtSlashes f) start "").mergeSort (· ≤ ·)
    if paths.isEmpty then [f.text] else paths

/-! ### Words -/

/-- The fields that a word stands for. -/
def expandWord (capture : Command → Step String) (fuel : Nat) (w : Word) : Step (List String) := do
  let w := withTildes (← get) false w
  let f ← Expand.addWord ⟨capture, true⟩ fuel false .empty w
  let s ← get
  return (f.toList.map s.matching).flatten

/-- A word as one text. -/
def expandText (capture : Command → Step String) (fuel : Nat) (w : Word) : Step String := do
  let w := withTildes (← get) false w
  Expand.text ⟨capture, false⟩ fuel w

/-- The value of an assignment. -/
def expandValue (capture : Command → Step String) (fuel : Nat) (w : Word) : Step String := do
  let w := withTildes (← get) true w
  Expand.text ⟨capture, false⟩ fuel w

/-- A word that is an argument; one that assigns a value is not split where `mayAssign` says so. -/
def expandArgument (capture : Command → Step String) (fuel : Nat) (mayAssign : Bool) (w : Word) :
    Step (List String) := do
  match if mayAssign then assignment? w else none with
  | some (name, value) => return [name ++ "=" ++ (← expandValue capture fuel value)]
  | none => expandWord capture fuel w

/-- A word as a pattern. -/
def expandPattern (capture : Command → Step String) (fuel : Nat) (w : Word) : Step Pattern := do
  let w := withTildes (← get) false w
  return (← Expand.field ⟨capture, false⟩ fuel w).toPattern

end Shell
end QueryFuzz
