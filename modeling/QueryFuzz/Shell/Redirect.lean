import QueryFuzz.Shell.Expansion

/-!
# Redirections

Files are opened and descriptors are connected to them. What a redirection leads to is expanded
before anything is opened, and the first that fails ends the others.
-/

namespace QueryFuzz
namespace Shell

open Storage

/-- A redirection whose target is known. -/
structure Opening where
  descriptor : Nat
  direction : Direction
  target : String

namespace Opening

/-- The number of a descriptor that a path of a device means. -/
def deviceDescriptor? (path : String) : Option Nat :=
  match path with
  | "/dev/stdin" => some 0
  | "/dev/stdout" => some 1
  | "/dev/stderr" => some 2
  | _ =>
    if path.startsWith "/dev/fd/" then (path.drop 8).toString.toNat? else none

/-- The problem with a path that is to be read, or to be written. -/
def problem (reads : Bool) (path : String) (e : Failure) : String :=
  if reads then "cannot open " ++ path ++ ": " ++ failureText "No such file" e
  else "cannot create " ++ path ++ ": " ++ failureText "Directory nonexistent" e

/-- Makes a file ready for writing. -/
def writable (l : Location) (direction : Direction) (keeps : Bool) : Action Channel := do
  let t ← Disk.current
  match t.get? l with
  | some .directory => throw .isDirectory
  | some (.file content _) =>
    if direction = .target && keeps then throw .occupied
    if direction = .append then return .file l content.size true
    if direction ≠ .both then Disk.write l .empty false
    return .file l 0 false
  | none =>
    Disk.write l .empty false
    return .file l 0 (direction = .append)

/-- The channel that a file or a device is. -/
def channel (o : Opening) : Step (Except String Channel) := do
  let keeps := (← get).hasOption 'C'
  let reads := o.direction = .source
  if o.target = "/dev/null" then return .ok .nowhere
  let found ← Step.onDisk do
    let l ← Disk.locate (Text.decoded o.target)
    if reads then
      if ((← Disk.current).get? l).isNone then throw .missing
      return Channel.file l 0 false
    else writable l o.direction keeps
  match found with
  | .ok c => return .ok c
  | .error e => return .error (problem reads o.target e)

/-- Connects a descriptor with where another one leads. -/
def duplicate (descriptor source : Nat) : Step (Option String) := do
  match (← get).descriptors.lookup source with
  | some n =>
    Step.connect descriptor n
    return none
  | none => return some (toString source ++ ": Bad file descriptor")

/-- Carries a redirection out; the result is what went wrong. -/
def perform (o : Opening) : Step (Option String) := do
  match o.direction with
  | .document _ =>
    Step.connect o.descriptor (← Step.newChannel (.pipe [(0, o.target.toList)]))
    return none
  | .duplicate =>
    if o.target = "-" then
      Step.disconnect o.descriptor
      return none
    else duplicate o.descriptor ((o.target.toNat?).getD 0)
  | _ =>
    match deviceDescriptor? o.target with
    | some n =>
      match (← get).descriptors.lookup n with
      | some c =>
        Step.connect o.descriptor c
        return none
      | none => return some (problem (o.direction = .source) o.target .missing)
    | none =>
      match ← o.channel with
      | .ok c =>
        Step.connect o.descriptor (← Step.newChannel c)
        return none
      | .error e => return some e

/-- Carries out redirections up to the first that fails, which is reported. -/
def performAll : List Opening → Step Bool
  | [] => return true
  | o :: rest => do
    match ← o.perform with
    | none => performAll rest
    | some problem =>
      Step.complain problem
      Step.setStatus 2
      return false

end Opening

/-- Expands the target of a redirection. -/
def expandRedirection (capture : Command → Step String) (fuel : Nat) (r : Redirection) :
    Step Opening := do
  match r.direction with
  | .document n =>
    let body := ((← get).documents.lookup n).getD []
    return ⟨r.descriptor, r.direction, ← expandText capture fuel body⟩
  | direction =>
    let target ← expandText capture fuel r.target
    if direction = .duplicate && target ≠ "-" && !isDigit target then
      Step.failWith "Syntax error: Bad fd number"
    return ⟨r.descriptor, direction, target⟩
where
  isDigit (s : String) : Bool :=
    match s.toList with
    | [c] => c.isDigit
    | _ => false

/-- Runs a step with redirections in force, unless one of them fails. -/
def withOpenings (openings : List Opening) (step : Step Unit) : Step Unit :=
  Step.within id (fun before s => { s with descriptors := before.descriptors }) do
    if ← Opening.performAll openings then step

end Shell
end QueryFuzz
