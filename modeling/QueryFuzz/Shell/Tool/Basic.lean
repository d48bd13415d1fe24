import QueryFuzz.Shell.Session

/-!
# Tools

A tool is a program that needs nothing but the session: it takes its arguments, reads its input or
files, prints, and ends with an exit code. Options may stand anywhere among the operands until two
dashes end them; letters may share a dash, and a value may follow its letter directly.
-/

namespace QueryFuzz
namespace Shell

open Storage

/-- A tool by its arguments; the result is its exit code. -/
abbrev Tool := List String → Step Nat

namespace Tool

/-! ### Options -/

/-- What a tool understands: letters, letters that take a value, and long names for letters. -/
structure Manual where
  name : String
  flags : String
  valued : String
  long : List (String × Char)
  /-- The exit code if the arguments are no good. -/
  misuse : Nat

/-- Options in the order of their appearance, and the operands. -/
structure Given where
  options : List (Char × String)
  operands : List String

def Given.has (g : Given) (c : Char) : Bool := g.options.any (·.1 = c)

/-- The last value of an option. -/
def Given.value? (g : Given) (c : Char) : Option String :=
  g.options.reverse.lookup c

def Given.values (g : Given) (c : Char) : List String :=
  (g.options.filter (·.1 = c)).map (·.2)

/-- The letters behind a dash; the flag tells that the next argument is the value of the last. -/
def lettersFrom (m : Manual) : List Char → Except String (List (Char × String) × Option Char)
  | [] => .ok ([], none)
  | c :: rest =>
    if m.flags.toList.contains c then
      (lettersFrom m rest).map fun (options, open_) => ((c, "") :: options, open_)
    else if m.valued.toList.contains c then
      if rest.isEmpty then .ok ([], some c) else .ok ([(c, String.ofList rest)], none)
    else .error ("invalid option -- '" ++ c.toString ++ "'")

/-- The letter of a long option and the value behind its equals sign. -/
def longOption (m : Manual) (argument : String) : Except String (Char × Option String) :=
  let name := String.ofList ((argument.toList.drop 2).takeWhile (· ≠ '='))
  let value := match argument.toList.drop (name.length + 2) with
    | _ :: v => some (String.ofList v)
    | [] => none
  match m.long.lookup name, m.long.find? fun (n, _) => name.toList.isPrefixOf n.toList with
  | some c, _ | none, some (_, c) => .ok (c, value)
  | none, none => .error ("unrecognized option '" ++ argument ++ "'")

/-- Sorts arguments into options and operands. -/
def parse (m : Manual) : List String → Except String Given
  | [] => .ok ⟨[], []⟩
  | "--" :: rest => .ok ⟨[], rest⟩
  | [argument] => parseOne m argument none ⟨[], []⟩
  | argument :: value :: rest => do
    if takesNext m argument then parseOne m argument (some value) (← parse m rest)
    else parseOne m argument none (← parse m (value :: rest))
where
  /-- Is the argument behind this one its value? -/
  takesNext (m : Manual) (argument : String) : Bool :=
    match argument.toList with
    | '-' :: '-' :: _ :: _ =>
      match longOption m argument with
      | .ok (c, none) => m.valued.toList.contains c
      | _ => false
    | '-' :: letters =>
      match lettersFrom m letters with
      | .ok (_, some _) => true
      | _ => false
    | _ => false
  parseOne (m : Manual) (argument : String) (next : Option String) (behind : Given) :
      Except String Given :=
    match argument.toList with
    | '-' :: '-' :: _ :: _ => do
      let (c, value) ← longOption m argument
      return { behind with options := (c, (value.or next).getD "") :: behind.options }
    | '-' :: c :: letters => do
      let (options, waiting) ← lettersFrom m (c :: letters)
      match waiting, next with
      | none, _ => return { behind with options := options ++ behind.options }
      | some c, some value =>
        return { behind with options := options ++ (c, value) :: behind.options }
      | some c, none => throw ("option requires an argument -- '" ++ c.toString ++ "'")
    | _ => .ok { behind with operands := argument :: behind.operands }

/-- Reports a problem of a tool. -/
def complain (tool problem : String) : Step Unit := Step.report (tool ++ ": " ++ problem)

/-- Reports a wrong use of a tool. -/
def misused (m : Manual) (problem : String) : Step Nat := do
  complain m.name problem
  Step.report ("Try '" ++ m.name ++ " --help' for more information.")
  return m.misuse

/-- A tool from what it does with its options. -/
def ofManual (m : Manual) (use : Given → Step Nat) : Tool := fun arguments =>
  match parse m arguments with
  | .ok g => use g
  | .error problem => misused m problem

/-! ### Names in messages -/

/-- Is a name shown as it is? -/
def isPlainName (s : String) : Bool :=
  s ≠ "" && s.toList.all fun c =>
    c.isAlphanum || ['%', '+', ',', '-', '.', '/', ':', '@', '_', ']', '\x7b', '\x7d'].contains c

/-- A name in quotes. -/
def quoted (s : String) : String :=
  let cs := s.toList
  if cs.contains '\'' && !cs.any fun c => ['"', '$', '\x60', '\\'].contains c then
    "\"" ++ s ++ "\""
  else "'" ++ String.join (cs.map fun c => if c = '\'' then "'\\''" else c.toString) ++ "'"

/-- A name, in quotes if it needs them. -/
def shown (s : String) : String := if isPlainName s then s else quoted s

def reason (e : Failure) : String :=
  match e with
  | .notDirectory => "Not a directory"
  | .device => "Bad file descriptor"
  | e => failureText "No such file or directory" e

/-! ### Files -/

/-- Where a path leads to from the working directory. -/
def locate (path : String) : Action Location := Disk.locate (Text.decoded path)

/-- The path of the null device. -/
def nullDevice : String := "/dev/null"

def readFile (path : String) : Step (Except Failure String) :=
  if path = nullDevice then return .ok ""
  else Step.onDisk do
    let (content, _) ← Disk.read (← locate path)
    return Text.octets content

/-- What is read under a name: a dash means the input. -/
def readNamed (path : String) : Step (Except Failure String) :=
  if path = "-" then Step.readAll 0 else readFile path

/-- The texts of named files, of the input if no file is named, and whether all could be read. -/
def sources (tool : String) (paths : List String) : Step (List (String × String) × Bool) := do
  let mut found := #[]
  let mut complete := true
  for path in if paths.isEmpty then ["-"] else paths do
    match ← readNamed path with
    | .ok text => found := found.push (path, text)
    | .error e =>
      complain tool (shown path ++ ": " ++ reason e)
      complete := false
  return (found.toList, complete)

/-- Prints what a tool makes of all its sources together. -/
def filter (tool : String) (paths : List String) (change : String → String) : Step Nat := do
  let (parts, complete) ← sources tool paths
  Step.print (change (String.join (parts.map (·.2))))
  return if complete then 0 else 1

/-! ### Lines -/

/-- The lines of a text with their line breaks; the last one may have none. -/
def linesOf (s : String) : List String :=
  let pieces := (Text.splitOn '\n' s.toList).map String.ofList
  pieces.dropLast.map (· ++ "\n") ++ (pieces.getLast?.toList.filter (· ≠ ""))

/-- The lines of a text without their line breaks. -/
def contentsOf (s : String) : List String :=
  let pieces := (Text.splitOn '\n' s.toList).map String.ofList
  pieces.dropLast ++ (pieces.getLast?.toList.filter (· ≠ ""))

def joinLines (lines : List String) : String := String.join (lines.map (· ++ "\n"))

/-- The order of two texts by their first difference; a beginning comes first. -/
def compareTexts : List Char → List Char → Ordering
  | [], [] => .eq
  | [], _ :: _ => .lt
  | _ :: _, [] => .gt
  | a :: as, b :: bs =>
    if a = b then compareTexts as bs else if a.toNat < b.toNat then .lt else .gt

def compareNumbers (m n : Int) : Ordering := if m < n then .lt else if m = n then .eq else .gt

/-- Fills a text with blanks on the left. -/
def padded (width : Nat) (s : String) : String :=
  String.ofList (List.replicate (width - s.length) ' ') ++ s

def natural? (s : String) : Option Nat :=
  if s ≠ "" && s.toList.all Char.isDigit then s.toNat? else none

/-- A count of units, which may be a thousand or more of them each. -/
def size? (s : String) : Option Nat :=
  let digits := s.toList.takeWhile Char.isDigit
  let unit := match String.ofList (s.toList.drop digits.length) with
    | "" => some 1
    | "b" => some 512
    | "k" | "K" | "KiB" => some 1024
    | "kB" | "KB" => some 1000
    | "M" | "MiB" => some 1048576
    | "MB" => some 1000000
    | _ => none
  match natural? (String.ofList digits), unit with
  | some n, some u => some (n * u)
  | _, _ => none

end Tool
end Shell
end QueryFuzz
