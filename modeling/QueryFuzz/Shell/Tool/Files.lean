import QueryFuzz.Shell.Tool.Basic

/-!
# Tools for files

Listing, making, copying, moving and removing files and directories.
-/

namespace QueryFuzz
namespace Shell
namespace Tool

open Storage

/-- Applies an operation on the disk to each operand; the result tells whether all succeeded. -/
def eachPath (tool : String) (problem : String → Failure → Option String)
    (operation : String → Action Unit) (paths : List String) : Step Nat := do
  let mut code := 0
  for path in paths do
    match ← Step.onDisk (operation path) with
    | .ok () => pure ()
    | .error e =>
      match problem path e with
      | some text =>
        complain tool text
        code := 1
      | none => pure ()
  return code

/-- Reports that nothing is there to work on. -/
def missingOperand (m : Manual) : Step Nat := misused m "missing operand"

/-- The last name of a path. -/
def baseName (path : String) : String :=
  let names := (pieces path).filter (· ≠ "")
  if names.isEmpty then (if path = "" then "" else "/") else names.getLast?.getD ""

/-! ### Listing -/

structure Entry where
  name : String
  node : Node

/-- The lines for some entries. -/
def entryLines (g : Given) (entries : List Entry) : String :=
  let suffix := fun (e : Entry) =>
    match e.node with
    | .directory => if g.has 'F' || g.has 'p' then "/" else ""
    | .file _ executable => if g.has 'F' && executable then "*" else ""
  let size := fun (e : Entry) =>
    match e.node with
    | .directory => 4096
    | .file content _ => content.size
  let sorted := if g.has 'S' then entries.mergeSort fun a b => size b ≤ size a else entries
  let ordered := if g.has 'r' then sorted.reverse else sorted
  let names := ordered.map fun e => e.name ++ suffix e
  if g.has 'm' then (if names.isEmpty then "" else ", ".intercalate names ++ "\n")
  else joinLines names

def ls : Tool :=
  ofManual ⟨"ls", "aAbBcCdfFgGhHiklLmnNopqQrRsStuUvxXZ1", "ITw",
      [("all", 'a'), ("almost-all", 'A'), ("directory", 'd'), ("reverse", 'r')], 2⟩ fun g => do
    let s ← get
    let t := s.disk.tree
    let mut code := 0
    let mut files := #[]
    let mut directories := #[]
    for path in if g.operands.isEmpty then ["."] else g.operands do
      match ← Step.onDisk (locate path) with
      | .ok l =>
        match t.get? l with
        | some .directory =>
          if g.has 'd' then files := files.push ⟨path, .directory⟩
          else directories := directories.push (path, l)
        | some n => files := files.push ⟨path, n⟩
        | none =>
          complain "ls" ("cannot access " ++ quoted path ++ ": No such file or directory")
          code := 2
      | .error e =>
        complain "ls" ("cannot access " ++ quoted path ++ ": " ++ reason e)
        code := 2
    let byName := fun (a b : String) => (compareTexts a.toList b.toList).isLE
    Step.print (entryLines g (files.toList.mergeSort fun a b => byName a.name b.name))
    let titled := 1 < g.operands.length
    let mut first := files.isEmpty
    for (path, l) in directories.toList.mergeSort fun a b => byName a.1 b.1 do
      if titled then Step.print ((if first then "" else "\n") ++ path ++ ":\n")
      first := false
      let names := (t.names l).map Text.encoded
      let inside := (names.mergeSort byName).filterMap fun name =>
        (t.get? (l ++ [Text.decoded name])).map fun n => (⟨name, n⟩ : Entry)
      let entries := (if g.has 'a' || g.has 'f' then
          [⟨".", .directory⟩, ⟨"..", .directory⟩] else []) ++
        inside.filter fun e =>
          g.has 'a' || g.has 'A' || g.has 'f' || e.name.toList.head? ≠ some '.'
      Step.print (entryLines g entries)
    return code

/-! ### Removing -/

def rm : Tool :=
  let m : Manual := ⟨"rm", "dfiIrRv", "",
    [("force", 'f'), ("recursive", 'r'), ("verbose", 'v'), ("dir", 'd')], 1⟩
  ofManual m fun g =>
    if g.operands.isEmpty then (if g.has 'f' then return 0 else missingOperand m)
    else
      let isDeep := g.has 'r' || g.has 'R'
      eachPath "rm" (fun path e =>
        if (e = .missing || e = .notDirectory) && g.has 'f' then none
        else some ("cannot remove " ++ quoted path ++ ": " ++ reason e)) (fun path => do
          let l ← locate path
          let t ← Disk.current
          if isDeep then
            if (t.get? l).isNone then throw .missing
            fun d => (.ok (), (Disk.discard l d).2)
          else if g.has 'd' && t.isDirectory l && (t.names l).isEmpty then
            fun d => (.ok (), (Disk.discard l d).2)
          else Disk.removeFile l) g.operands

/-- Why a directory that is not empty stays. -/
def notEmptyReason : String := "Directory not empty"

def rmdir : Tool :=
  let m : Manual := ⟨"rmdir", "pv", "", [("parents", 'p')], 1⟩
  ofManual m fun g => do
    if g.operands.isEmpty then return ← missingOperand m
    let mut code := 0
    for path in g.operands do
      let problem ← removeEmpty path
      match problem with
      | some p =>
        complain "rmdir" ("failed to remove " ++ quoted path ++ ": " ++ p)
        code := 1
      | none => pure ()
    return code
where
  removeEmpty (path : String) : Step (Option String) := do
    match ← Step.onDisk (locate path) with
    | .error e => return some (reason e)
    | .ok l =>
      let t := (← get).disk.tree
      match t.get? l with
      | none => return some "No such file or directory"
      | some (.file ..) => return some "Not a directory"
      | some .directory =>
        if !(t.names l).isEmpty then return some notEmptyReason
        let _ ← Step.onDisk fun d => (.ok (), (Disk.discard l d).2)
        return none

/-! ### Making -/

def mkdir : Tool :=
  let m : Manual := ⟨"mkdir", "pv", "mZ", [("parents", 'p'), ("mode", 'm'), ("verbose", 'v')], 1⟩
  ofManual m fun g =>
    if g.operands.isEmpty then missingOperand m
    else
      eachPath "mkdir" (fun path e =>
        some ("cannot create directory " ++ quoted path ++ ": " ++ reason e)) (fun path => do
          if g.has 'p' then
            Disk.makeDirectories ((← get).lexical (Text.decoded path))
          else
            let l ← locate path
            if ((← Disk.current).get? l).isSome then throw .occupied
            if !(← Disk.current).isDirectory l.dropLast then throw .missing
            Disk.makeDirectory l) g.operands

def touch : Tool :=
  let m : Manual := ⟨"touch", "acfhm", "drt", [("no-create", 'c')], 1⟩
  ofManual m fun g =>
    if g.operands.isEmpty then misused m "missing file operand"
    else
      eachPath "touch" (fun path e =>
        some (if e = .missing || e = .notDirectory then
            "cannot touch " ++ quoted path ++ ": " ++ reason e
          else "setting times of " ++ quoted path ++ ": " ++ reason e)) (fun path => do
          let l ← locate path
          if ((← Disk.current).get? l).isNone && !g.has 'c' then Disk.write l .empty false)
        g.operands

/-- Makes a temporary file or directory under a free name. -/
def mktemp : Tool :=
  ofManual ⟨"mktemp", "dqut", "p", [("directory", 'd'), ("tmpdir", 'p')], 1⟩ fun g => do
    let template := g.operands.head?.getD "tmp.XXXXXXXXXX"
    let stem := (template.toList.reverse.dropWhile (· = 'X')).reverse
    let start := String.ofList stem
    let count := template.length - stem.length
    let directory := match g.value? 'p' with
      | some d => d ++ "/"
      | none => if g.operands.isEmpty || g.has 't' then "/tmp/" else ""
    let t := (← get).disk
    let isTaken := fun (path : String) =>
      match t.resolve (Text.decoded path) with
      | .ok l => (t.tree.get? l).isSome
      | .error _ => false
    let candidates := (List.range 1000).map fun n =>
      let digits := toString n
      directory ++ start ++ String.ofList (List.replicate (count - digits.length) 'a') ++ digits
    match candidates.find? (!isTaken ·) with
    | none => return 1
    | some path =>
      match ← Step.onDisk do
          let l ← locate path
          if g.has 'd' then Disk.makeDirectory l else Disk.write l .empty false with
      | .ok () =>
        Step.print (path ++ "\n")
        return 0
      | .error e =>
        complain "mktemp" ("failed to create " ++
          (if g.has 'd' then "directory" else "file") ++ " via template " ++ quoted template ++
          ": " ++ reason e)
        return 1

/-- Changes who may run a file. -/
def chmod : Tool := fun arguments => do
  let operands := arguments.filter fun a => a ≠ "-R" && a ≠ "-f" && a ≠ "--"
  match operands with
  | mode :: path :: paths =>
    let cs := mode.toList
    let executable : Option Bool :=
      if cs.all isOctalDigit then some ((cs.getLast?.map Char.toNat).getD 0 % 2 = 1)
      else if !cs.contains 'x' then none
      else some (cs.contains '+' || cs.contains '=')
    eachPath "chmod" (fun path e =>
      some ("cannot access " ++ quoted path ++ ": " ++ reason e)) (fun path => do
        let l ← locate path
        match (← Disk.current).get? l with
        | none => throw .missing
        | some .directory => return
        | some (.file content x) =>
          modify fun d => { d with tree := d.tree.set l (.file content (executable.getD x)) })
      (path :: paths)
  | [_] =>
    complain "chmod" ("missing operand after " ++ quoted (operands.head?.getD ""))
    Step.report "Try 'chmod --help' for more information."
    return 1
  | [] => missingOperand ⟨"chmod", "", "", [], 1⟩
where
  isOctalDigit (c : Char) : Bool := '0' ≤ c && c ≤ '7'

/-! ### Copying and moving -/

/-- Where something goes that is copied or moved to a path. -/
def destination (source target : String) : Action Location := do
  let l ← locate target
  if (← Disk.current).isDirectory l then return l ++ [Text.decoded (baseName source)]
  else return l

/-- Puts a node and all below it at another location. -/
def copyTree (source target : Location) : Action Unit := do
  let t ← Disk.current
  let nodes := (t.get? source).toList.map (([] : Location), ·) ++ t.below source
  modify fun d => { d with
    tree := nodes.foldl (fun t (l, n) => t.set (target ++ l) n) d.tree }

/-- What two operands or more ask for. -/
def copyOrMove (m : Manual) (moves : Bool) : Tool :=
  ofManual m fun g => do
    let targets := match g.value? 't' with
      | some t => g.operands ++ [t]
      | none => g.operands
    match targets.reverse with
    | [] => misused m "missing file operand"
    | [source] => misused m ("missing destination file operand after " ++ quoted source)
    | target :: rest =>
      let sources := rest.reverse
      let s ← get
      let isDirectory := fun (path : String) =>
        match ({ s.disk with directory := s.directory } : Disk).resolve (Text.decoded path) with
        | .ok l => s.disk.tree.isDirectory l
        | .error _ => false
      if 1 < sources.length && !isDirectory target then
        complain m.name ("target " ++ quoted target ++ ": " ++ "No such file or directory")
        return 1
      let mut code := 0
      for source in sources do
        if !(← transfer g source target (isDirectory source)) then code := 1
      return code
where
  transfer (g : Given) (source target : String) (sourceIsDirectory : Bool) : Step Bool := do
    match ← Step.onDisk (locate source) with
    | .error e =>
      complain m.name ("cannot stat " ++ quoted source ++ ": " ++ reason e)
      return false
    | .ok l =>
      let t := (← get).disk.tree
      if (t.get? l).isNone then
        complain m.name ("cannot stat " ++ quoted source ++ ": No such file or directory")
        return false
      let deep := g.has 'r' || g.has 'R' || g.has 'a'
      if sourceIsDirectory && !moves && !deep then
        complain m.name ("-r not specified; omitting directory " ++ quoted source)
        return false
      match ← Step.onDisk (destination source target) with
      | .error e =>
        complain m.name ((if moves then "cannot move " ++ quoted source ++ " to " ++ quoted target
          else "cannot create regular file " ++ quoted target) ++ ": " ++ reason e)
        return false
      | .ok place =>
        if place = l then
          complain m.name (quoted source ++ " and " ++ quoted target ++ " are the same file")
          return false
        if g.has 'n' && (t.get? place).isSome then return true
        if !t.isDirectory place.dropLast then
          complain m.name ((if moves then "cannot move " ++ quoted source ++ " to " ++ quoted target
            else "cannot create regular file " ++ quoted target) ++ ": No such file or directory")
          return false
        if moves then
          modify fun s => { s with
            disk := { s.disk with
              tree := (s.disk.tree.remove place).move l place } }
        else
          let kept := match t.get? place with
            | some (.file _ x) => some x
            | _ => none
          let _ ← Step.onDisk (copyTree l place)
          match kept, ← Step.onDisk (Disk.read place) with
          | some x, .ok (content, _) =>
            modify fun s => { s with
              disk := { s.disk with tree := s.disk.tree.set place (.file content x) } }
          | _, _ => pure ()
        return true

def cp : Tool :=
  copyOrMove ⟨"cp", "abdfHilLnPprRsuvx", "t", [("recursive", 'r'), ("force", 'f')], 1⟩ false

def mv : Tool := copyOrMove ⟨"mv", "bfinuvT", "t", [("force", 'f')], 1⟩ true

/-! ### Output to files -/

def tee : Tool :=
  ofManual ⟨"tee", "aip", "", [("append", 'a'), ("ignore-interrupts", 'i')], 1⟩ fun g => do
    match ← Step.readAll 0 with
    | .error e =>
      complain "tee" ("read error: " ++ reason e)
      return 1
    | .ok text =>
      Step.print text
      eachPath "tee" (fun path e => some (shown path ++ ": " ++ reason e)) (fun path => do
        if path = nullDevice then return
        let l ← locate path
        let old ← match (← Disk.current).get? l with
          | some (.file content _) => pure content
          | _ => pure ByteArray.empty
        Disk.write l ((if g.has 'a' then old else .empty) ++ Text.ofOctets text) false) g.operands

end Tool
end Shell
end QueryFuzz
