import QueryFuzz.Storage.Path
import QueryFuzz.Storage.Tree

/-!
# Disks

A disk is a file tree together with an account of which operations still to come fail, and how. An
operation that fails leaves the tree as it was, except for a write, of which a part may get through.
Moving a directory is atomic and refuses an occupied name; removing a temporary directory never
fails.
-/

namespace QueryFuzz
namespace Storage

/-- Why an operation was refused. -/
inductive Failure where
  /-- Nothing is at the location. -/
  | missing
  /-- Something is at the location already. -/
  | occupied
  | notDirectory
  | isDirectory
  | denied
  /-- The content is not text. -/
  | notText
  | nameTooLong
  /-- No name can be spelled like this. -/
  | badName
  /-- The device failed. -/
  | device
  deriving DecidableEq, Repr

def Failure.message : Failure → String
  | missing => "No such file or directory (os error 2)"
  | occupied => "File exists (os error 17)"
  | notDirectory => "Not a directory (os error 20)"
  | isDirectory => "Is a directory (os error 21)"
  | denied => "Permission denied (os error 13)"
  | notText => "stream did not contain valid UTF-8"
  | nameTooLong => "File name too long (os error 36)"
  | badName => "file name contained an unexpected NUL byte"
  | device => "Input/output error (os error 5)"

/-- How an operation fails by chance. -/
structure Fault where
  failure : Failure
  /-- How many bytes of a write get through first; none if not even the file does. -/
  written : Option Nat
  deriving DecidableEq, Repr

structure Disk where
  tree : Tree
  /-- Where relative paths start. -/
  directory : Location
  /-- For each operation to come, how it fails, if it does; none fails after the last. -/
  faults : List (Option Fault)

/-- A sequence of operations on a disk. What was done before a failure stays done. -/
abbrev Action := ExceptT Failure (StateM Disk)

namespace Disk

def ofTree (t : Tree) : Disk := ⟨t, [], []⟩

/-- An operation that may fail by chance. `remains` is the tree that a fault leaves. -/
def attemptPartly {α : Type} (remains : Fault → Tree → Tree)
    (operation : Tree → Except Failure (α × Tree)) : Action α :=
  fun d => match d.faults with
    | some fault :: later =>
      (.error fault.failure, { d with tree := remains fault d.tree, faults := later })
    | faults =>
      match operation d.tree with
      | .ok (a, t) => (.ok a, { d with tree := t, faults := faults.drop 1 })
      | .error e => (.error e, { d with faults := faults.drop 1 })

/-- An operation that may fail by chance, and does so before it has an effect. -/
def attempt {α : Type} (operation : Tree → Except Failure (α × Tree)) : Action α :=
  attemptPartly (fun _ t => t) operation

/-- The tree as it stands. -/
def current : Action Tree := fun d => (.ok d.tree, d)

def maxNameBytes : Nat := 255

/-- A path, with the byte behind it that ends it, is no longer than this. -/
def maxPathBytes : Nat := 4096

/-- Refuses names that no file can have. -/
def checkNames (l : Location) : Except Failure Unit :=
  if l.any (·.toList.contains '\x00') then .error .badName
  else if l.any (maxNameBytes < ·.utf8ByteSize) then .error .nameTooLong
  else .ok ()

/-- Makes one directory; one that is there already is kept. -/
def makeDirectory (l : Location) : Action Unit :=
  attempt fun t =>
    match t.get? l with
    | some .directory => .ok ((), t)
    | some (.file ..) => .error .occupied
    | none =>
      if !t.isDirectory l.dropLast then .error .notDirectory
      else (checkNames l).map fun _ => ((), t.set l .directory)

/-- Makes the directories on the way to a location that are not there. -/
def makeDirectories (l : Location) : Action Unit :=
  (List.range l.length).forM fun i => makeDirectory (l.take (i + 1))

/-- The tree with a file written. A file that is there already keeps its right to be run. -/
def written (t : Tree) (l : Location) (content : ByteArray) (executable : Bool) :
    Except Failure Tree :=
  match t.get? l with
  | some .directory => .error .isDirectory
  | some (.file _ x) => .ok (t.set l (.file content x))
  | none =>
    if !t.isDirectory l.dropLast then .error .missing
    else .ok (t.set l (.file content executable))

def write (l : Location) (content : ByteArray) (executable : Bool) : Action Unit :=
  attemptPartly
    (fun fault t =>
      match fault.written with
      | some n => (written t l (content.extract 0 n) executable).toOption.getD t
      | none => t)
    fun t => (written t l content executable).map fun t' => ((), t')

def writeText (l : Location) (content : String) : Action Unit :=
  write l content.toUTF8 false

def read (l : Location) : Action (ByteArray × Bool) :=
  attempt fun t =>
    match t.get? l with
    | some (.file content x) => .ok ((content, x), t)
    | some .directory => .error .isDirectory
    | none => .error .missing

def readText (l : Location) : Action String := do
  let (content, _) ← read l
  match String.fromUTF8? content with
  | some s => return s
  | none => throw .notText

/-- One name further on the way; what it leaves must be a directory. -/
def step (t : Tree) (l : Location) (piece : String) : Except Failure Location :=
  match t.get? l with
  | some .directory =>
    if piece = "" ∨ piece = "." then .ok l
    else if piece = ".." then .ok l.dropLast
    else (checkNames [piece]).map fun _ => l ++ [piece]
  | some (.file ..) => .error .notDirectory
  | none => .error .missing

/-- Where a path leads to. Every name on the way must be that of a directory, also one that is left
again. -/
def resolve (d : Disk) (path : String) : Except Failure Location :=
  if path.toList.contains '\x00' then .error .badName
  else if path = "" then .error .missing
  else if maxPathBytes ≤ path.utf8ByteSize then .error .nameTooLong
  else (pieces path).foldlM (step d.tree) (if isAbsolute path then [] else d.directory)

def locate (path : String) : Action Location := fun d => (d.resolve path, d)

/-- Does a path lead to a file? -/
def isFileAt (d : Disk) (path : String) : Bool :=
  match d.resolve path with
  | .ok l => d.tree.isFile l
  | .error _ => false

/-- Where a path would lead to if all directories on the way were there. -/
def lexical (d : Disk) (path : String) : Location :=
  (pieces path).foldl (fun l piece =>
    if piece = "" ∨ piece = "." then l
    else if piece = ".." then l.dropLast
    else l ++ [piece]) (if isAbsolute path then [] else d.directory)

/-- Copies a file, with the right to run it. -/
def copy (source target : Location) : Action Unit := do
  let (content, x) ← read source
  write target content x

/-- Moves a directory to a free name. -/
def rename (source target : Location) : Action Unit :=
  attempt fun t =>
    if (t.get? source).isNone then .error .missing
    else if (t.get? target).isSome then .error .occupied
    else if !t.isDirectory target.dropLast then .error .missing
    else (checkNames target).map fun _ => ((), t.move source target)

def removeFile (l : Location) : Action Unit :=
  attempt fun t =>
    match t.get? l with
    | some (.file ..) => .ok ((), t.remove l)
    | some .directory => .error .isDirectory
    | none => .error .missing

/-- The names in a directory in ascending order. -/
def list (l : Location) : Action (List String) :=
  attempt fun t =>
    match t.get? l with
    | some .directory => .ok ((t.names l).mergeSort (· ≤ ·), t)
    | some (.file ..) => .error .notDirectory
    | none => .error .missing

/-- A name with the given beginning that is longer than all names of a list. -/
def freshName (start : String) (names : List String) : String :=
  start ++ String.ofList (List.replicate ((names.map String.length).foldl max 0 + 1) '0')

/-- Makes a directory under a name that is not in use. -/
def makeTemporary (parent : Location) (start : String) : Action Location :=
  attempt fun t =>
    if !t.isDirectory parent then .error .missing
    else
      let l := parent ++ [freshName start (t.names parent)]
      .ok (l, t.set l .directory)

/-- Removes a temporary directory if it is still there. -/
def discard (l : Location) : StateM Disk Unit :=
  modify fun d => { d with tree := d.tree.remove l }

/-- Runs an action in a temporary directory, which is gone in the end however the action ends. -/
def withTemporary {ε α : Type} (parent : Location) (start : String) (onFailure : Failure → ε)
    (action : Location → ExceptT ε (StateM Disk) α) : ExceptT ε (StateM Disk) α :=
  fun d =>
    match makeTemporary parent start d with
    | (.error e, d) => (.error (onFailure e), d)
    | (.ok l, d) =>
      let (result, d) := action l d
      (result, (discard l d).2)

end Disk
end Storage
end QueryFuzz
