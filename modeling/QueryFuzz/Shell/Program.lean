import QueryFuzz.Shell.Tool

/-!
# Programs

What can be started: the shell, the tools, and files whose first line names an interpreter. A name
without a slash is looked for in the directories of a search path.
-/

namespace QueryFuzz
namespace Shell

open Storage

inductive Program where
  | shell
  | tool (name : String)
  deriving DecidableEq, Repr

/-- A program with what it is called by and its arguments. -/
structure Start where
  program : Program
  name : String
  arguments : List String
  deriving DecidableEq, Repr

def shellNames : List String := ["sh", "dash", "bash"]

/-- Tools that run other programs, and tools that the shell has too. -/
def otherTools : List String :=
  ["[", "env", "kill", "nice", "nohup", "printf", "pwd", "setsid", "stdbuf", "test",
    "timeout", "xargs"]

/-- Where the programs of the system are. -/
def programDirectories : List Location := [["bin"], ["usr", "bin"]]

/-- The locations of all programs of the system. -/
def programFiles : List Location :=
  programDirectories.flatMap fun d =>
    (shellNames ++ otherTools ++ tools.map (·.1)).map fun name => d ++ [name]

/-- Where the user is at home. -/
def homeDirectory : Location := ["root"]

/-- Puts the programs of the system on a disk, and the directory of the user. -/
def install : Action Unit := do
  Disk.makeDirectories homeDirectory
  programFiles.forM fun l => do
    Disk.makeDirectories l.dropLast
    Disk.write l .empty true

/-- Where programs are looked for if nothing else is said. -/
def standardSearch : List String := ["/usr/local/bin", "/usr/bin", "/bin"]

/-- The program of the system with a name. -/
def programNamed? (name : String) : Option Program :=
  if shellNames.contains name then some .shell
  else if otherTools.contains name || (tools.lookup name).isSome then some (.tool name)
  else none

/-- The interpreter that the first line of a script names, and the argument it takes. -/
def interpreter? (text : String) : Option (String × List String) :=
  match text.toList with
  | '#' :: '!' :: rest =>
    let line := Text.trimEndChars Reading.isBlank
      (((rest.take 253).takeWhile (· ≠ '\n')).dropWhile Reading.isBlank)
    let path := line.takeWhile fun c => !Reading.isBlank c && c ≠ '\x00'
    let argument := (line.drop path.length).dropWhile Reading.isBlank
    if path.isEmpty then none
    else some (String.ofList path, if argument.isEmpty then [] else [String.ofList argument])
  | _ => none

/-- How many scripts may be the interpreters of one another. -/
def maxInterpreters : Nat := 5

/-- What is started by a path; none if the file is no program and names no interpreter. -/
def startAt : Nat → String → List String → Action (Option Start)
  | 0, _, _ => throw .denied
  | depth + 1, path, arguments => do
    let l ← Tool.locate path
    match (← Disk.current).get? l with
    | none => throw .missing
    | some .directory => throw .denied
    | some (.file content executable) =>
      let known := if programDirectories.contains l.dropLast then
          programNamed? ((l.getLast?).getD "")
        else none
      match known with
      | some p => return some ⟨p, path, arguments⟩
      | none =>
        if !executable then throw .denied
        match interpreter? (Text.octets content) with
        | none => return none
        | some (interpreter, first) =>
          startAt depth interpreter (first ++ path :: arguments)

/-- The paths that a name may stand for. -/
def candidates (search : List String) (name : String) : List String :=
  if name.toList.contains '/' then [name]
  else if name = "" then []
  else search.map fun d => if d = "" then name else joinPath d name

/-- The first path of a name that can be started. -/
def findPath (search : List String) (name : String) : Action String := do
  let d ← get
  let t := d.tree
  let found := (candidates search name).filterMap fun path =>
    match d.resolve (Text.decoded path) with
    | .ok l => (t.get? l).map (path, ·)
    | .error _ => none
  match found.find? fun (_, n) => match n with
      | .file _ executable => executable
      | .directory => false with
  | some (path, _) => return path
  | none => throw (if found.isEmpty then .missing else .denied)

/-- The directories of a search path. -/
def directoriesOf (path : String) : List String :=
  (Text.splitOn ':' path.toList).map String.ofList

def Session.search (s : Session) : List String :=
  match s.valueOf? "PATH" with
  | some path => directoriesOf path
  | none => [""]

end Shell
end QueryFuzz
