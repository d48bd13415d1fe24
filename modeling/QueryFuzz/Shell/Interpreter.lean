import QueryFuzz.Engine.Process
import QueryFuzz.Shell.Builtin
import QueryFuzz.Shell.Launch
import QueryFuzz.Shell.Reader
import QueryFuzz.Shell.Redirect

/-!
# Running shell scripts

Commands change a session. How long a script may run is bounded three times: by the time limit of
its process, by a number of commands, and by how deep commands may be nested, so that a script that
never ends is cut off like one that takes too long. The system at the end starts programs on a
disk.
-/

namespace QueryFuzz
namespace Shell

open Storage

namespace Step

/-! ### Ways to run a step -/

/-- Takes turns with a state as long as each asks for another. -/
def iterate {σ : Type} (turn : σ → Step (σ × Bool)) : Nat → σ → Step σ
  | 0, _ => throw .overran
  | n + 1, x => fun s =>
    match turn x s with
    | (.ok (x, true), s) => iterate turn n x s
    | (.ok (x, false), s) => (.ok x, s)
    | (.error h, s) => (.error h, s)

/-- More turns than any script takes. -/
def maxTurns : Nat := 1000000

/-- Runs a step whose failure is no error. -/
def tested (step : Step Unit) : Step Unit :=
  within (fun s => { s with tested := true }) (fun before s => { s with tested := before.tested })
    step

def succeeded : Step Bool := return (← get).status = 0

/-- Ends the shell if a command has failed and that is an error. -/
def endIfFailed : Step Unit := do
  let s ← get
  if s.hasOption 'e' && !s.tested && s.status ≠ 0 then throw .finished

/-- One turn of a loop. The step tells the status of the body, or that it was not run. -/
def takeTurn (last : Nat) (step : Step (Option Nat)) : Step (Nat × Bool) := do
  let result ← within (fun s => { s with loops := s.loops + 1 })
    (fun before s => { s with loops := before.loops }) (attempt step)
  match result with
  | .ok (some status) => return (status, true)
  | .ok none => return (last, false)
  | .error (.turned repeats n) =>
    if n ≤ 1 then return ((← get).status, repeats) else throw (.turned repeats (n - 1))
  | .error h => throw h

/-- Runs a step on behalf of a command. -/
def calledBy (caller : Option String) (step : Step Unit) : Step Unit :=
  within (fun s => { s with caller := caller }) (fun before s => { s with caller := before.caller })
    step

/-- Runs a step that may not use up all commands that are left. -/
def rationed {α : Type} (step : Step α) : Step α :=
  within (fun s => { s with steps := s.steps / 2 })
    (fun before s => { s with steps := before.steps - (before.steps / 2 - s.steps) }) step

/-! ### Pipelines -/

/-- How a stage has ended. -/
structure StageEnd where
  finish : Nat
  overran : Bool
  /-- The pipe that the stage writes to. -/
  output : Option Nat

/-- Runs a stage between two pipes. -/
def runStage (input output : Option Nat) (step : Step Unit) : Step StageEnd := do
  let connected := fun (s : Session) =>
    let put := fun (ds : List (Nat × Nat)) (descriptor : Nat) (channel : Option Nat) =>
      match channel with
      | some n => (descriptor, n) :: ds.filter (·.1 ≠ descriptor)
      | none => ds
    { s with descriptors := put (put s.descriptors 0 input) 1 output }
  let result ← within connected (fun before s => { s with descriptors := before.descriptors })
    (attempt step)
  let s ← get
  let overran ← match result with
    | .error .overran => pure true
    | .error h => throw h
    | .ok () => pure false
  match output.bind fun n => (s.channels[n]?).map (n, ·) with
  | some (n, .pipe parts) => if !overran then setChannel n (.pipe ((s.now, []) :: parts))
  | _ => pure ()
  return ⟨s.now, overran, output⟩

/-- Runs stages one after the other, each as if it had started together with the first. -/
def runStages (start : Nat) : Option Nat → List (Step Unit) → Step (List StageEnd)
  | _, [] => return []
  | input, [last] => do
    modify fun s => { s with now := start }
    return [← runStage input none last]
  | input, stage :: rest => do
    let pipe ← newChannel (.pipe [])
    modify fun s => { s with now := start }
    let ending ← rationed (runStage input (some pipe) stage)
    return ending :: (← runStages start (some pipe) rest)

/-- Runs a pipeline. A stage that never ends by itself ends when nobody reads what it writes. -/
def pipeline (stages : List (Step Unit)) : Step Unit := do
  let endings ← runStages (← get).now none stages
  let s ← get
  let isUnread := fun (e : StageEnd) =>
    match e.output.bind fun n => s.channels[n]? with
    | some (.pipe parts) => parts.any (!·.2.isEmpty)
    | _ => false
  let stuck := endings.zipIdx.any fun (e, i) => e.overran && !(endings.drop i).any isUnread
  let ended := endings.filter (!·.overran)
  set { s with now := ended.foldl (fun n (e : StageEnd) => max n e.finish) 0 }
  if stuck then throw .overran

end Step

/-! ### Commands -/

/-- The command in arguments that start with `command`, and whether functions are skipped; none if
only a description is wanted, or nothing is to be done. -/
def behindCommand : Nat → Bool → List String → Step (Bool × List String)
  | 0, skips, ws => return (skips, ws)
  | fuel + 1, skips, ws => do
    match ws with
    | "command" :: "--" :: rest => behindCommand fuel true rest
    | "command" :: "-p" :: rest => behindCommand fuel true ("command" :: rest)
    | "command" :: w :: rest =>
      if w.startsWith "-" then return (skips, ws) else behindCommand fuel true (w :: rest)
    | ws => return (skips, ws)

/-- The arguments of a command; those of some commands may assign values. -/
def expandAll (capture : Command → Step String) (fuel : Nat) (words : List Word) :
    Step (List String) := do
  let mut fields : List String := []
  for w in words do
    let mayAssign := match (fields.dropWhile (· = "command")).head? with
      | some name => Builtin.takesAssignments name
      | none => false
    fields := fields ++ (← expandArgument capture fuel mayAssign w)
  return fields

/-- Prints a command before it is run, if that is wanted. -/
def trace (descriptors : List (Nat × Nat)) (assigned : List (String × String))
    (fields : List String) : Step Unit := do
  let s ← get
  if s.hasOption 'x' then
    let words := assigned.map (fun (name, value) => name ++ "=" ++ value) ++ fields
    Step.within (fun s => { s with descriptors := descriptors })
      (fun before s => { s with descriptors := before.descriptors })
      (Step.report ((s.valueOf? "PS4").getD "" ++ " ".intercalate words))

/-- Takes what a reader has collected into the world. -/
def keepDocuments (r : Reader) : Step Reader := do
  modify fun s => { s with
    documents := r.documents ++ s.documents, nextDocument := r.nextDocument }
  return { r with documents := [] }

/-- The text that was read between two states of a reader. -/
def textBetween (before after : Reader) : String :=
  String.ofList (before.rest.take (before.rest.length - after.rest.length))

/-- A step as a shell of its own, with the signals that are ignored and no other traps. -/
def asSubshell (step : Step Unit) : Step Unit :=
  Step.isolated do
    modify fun s => { s with
      traps := s.traps.filter (·.2 = ""), pending := [], background := [] }
    step

/-- The session of a program that is started from another one. -/
def Session.forProgram (s : Session) : Session :=
  { s with
    bindings := s.bindings.filterMap fun (name, b) =>
      if b.exported && b.value.isSome then some (name, { b with fixed := false }) else none
    functions := [], aliases := [], traps := s.traps.filter (·.2 = ""), pending := []
    caller := none, tested := false, loops := 0, depth := 0, hidden := [], options := []
    status := 0, background := [], located := [], optionIndex := 1, optionPlace := 0, line := 0 }

/-- The variables that every shell has. -/
def standardBindings (s : Session) : List (String × Binding) :=
  let plain := fun (name value : String) => (name, (⟨some value, false, false⟩ : Binding))
  let own := [plain "IFS" " \t\n", plain "OPTIND" "1", plain "PPID" "1", plain "PS1" "# ",
    plain "PS2" "> ", plain "PS4" "+ "]
  let kept := s.bindings.filter fun (name, _) =>
    isName name && !(["IFS", "OPTIND", "PPID", "PWD"].contains name)
  let wasExported := ((s.bindings.lookup "PWD").map (·.exported)).getD false
  let directory := ("PWD", (⟨some s.path, wasExported, false⟩ : Binding))
  directory :: (own.filter fun (name, _) => (kept.lookup name).isNone) ++ kept

/-- How many functions may have called one another. -/
def maxFunctions : Nat := 1000

mutual

/-- Runs a command. -/
def run : Nat → Command → Step Unit
  | 0, _ => throw .overran
  | fuel + 1, c => do
    if !(← get).hasOption 'n' then
      match c with
      | .nothing => return
      | .simple line assignments words rs =>
        runSimple fuel line assignments words rs
        runTraps fuel
        Step.endIfFailed
      | .sequence first second =>
        run fuel first
        run fuel second
      | .both first second =>
        Step.tested (run fuel first)
        if ← Step.succeeded then run fuel second
      | .either first second =>
        Step.tested (run fuel first)
        if !(← Step.succeeded) then run fuel second
      | .negated c =>
        Step.tested (run fuel c)
        Step.setStatus (if ← Step.succeeded then 1 else 0)
      | .pipeline stages =>
        Step.pipeline (stages.map fun c => runSubshell fuel c)
        runTraps fuel
        Step.endIfFailed
      | .background c => runBackground fuel c
      | .choice condition yes no =>
        Step.tested (run fuel condition)
        if ← Step.succeeded then run fuel yes
        else if no.isNothing then Step.setStatus 0
        else run fuel no
      | .loop whileSuccess condition body =>
        let status ← Step.iterate (fun last => Step.takeTurn last do
          Step.count
          Step.tested (run fuel condition)
          if (← Step.succeeded) == whileSuccess then
            run fuel body
            return some (← get).status
          else return none) Step.maxTurns 0
        Step.setStatus status
      | .each line name items body =>
        modify fun s => { s with line := line }
        let values ← expandAll (substitute fuel) fuel items
        let (_, status) ← Step.iterate (fun (values, last) =>
          match values with
          | [] => return (([], last), false)
          | v :: rest => do
            let (status, goes) ← Step.takeTurn last do
              Step.count
              Step.assign name v
              run fuel body
              return some (← get).status
            return ((rest, status), goes)) Step.maxTurns (values, 0)
        Step.setStatus status
      | .select line subject cases =>
        modify fun s => { s with line := line }
        let text ← expandText (substitute fuel) fuel subject
        runCase fuel text cases
      | .subshell line c =>
        modify fun s => { s with line := line }
        runSubshell fuel c
        runTraps fuel
        Step.endIfFailed
      | .redirected line c rs =>
        modify fun s => { s with line := line }
        let openings ← rs.mapM (expandRedirection (substitute fuel) fuel)
        withOpenings openings (run fuel c)
      | .define name body =>
        modify fun s => { s with
          functions := (name, body) :: s.functions.filter (·.1 ≠ name), status := 0 }

/-- Runs what belongs to the first of some cases of which a pattern matches. -/
def runCase : Nat → String → List (List Word × Command) → Step Unit
  | 0, _, _ => throw .overran
  | _ + 1, _, [] => Step.setStatus 0
  | fuel + 1, text, (patterns, body) :: rest => do
    let matched ← patterns.anyM fun w => do
      return (← expandPattern (substitute fuel) fuel w).matchesAll text.toList
    if matched then
      if body.isNothing then Step.setStatus 0 else run fuel body
    else runCase fuel text rest

/-- Runs a command in a shell of its own. -/
def runSubshell : Nat → Command → Step Unit
  | 0, _ => throw .overran
  | fuel + 1, c => asSubshell (withExit fuel (run fuel c))

/-- Runs a step and then what is to be done at the end of the shell. -/
def withExit : Nat → Step Unit → Step Unit
  | 0, _ => throw .overran
  | fuel + 1, step => do
    match ← Step.attempt step with
    | .error (.killed n) => throw (.killed n)
    | .error .overran => throw .overran
    | _ => pure ()
    let s ← get
    match s.traps.lookup 0 with
    | none => return
    | some action =>
      set { s with traps := s.traps.filter (·.1 ≠ 0), tested := false }
      match ← Step.attempt (runText fuel action) with
      | .error (.killed n) => throw (.killed n)
      | .error .overran => throw .overran
      | .error .finished => return
      | _ => Step.setStatus s.status

/-- Does what is to be done for signals that have arrived. -/
def runTraps : Nat → Step Unit
  | 0 => throw .overran
  | fuel + 1 => do
    let s ← get
    if !s.pending.isEmpty then
      set { s with pending := [] }
      for n in s.pending do
        match (← get).traps.lookup n with
        | some action =>
          let _ ← runText fuel action
        | none => pure ()
      Step.setStatus s.status

/-- Runs a command in the background. -/
def runBackground : Nat → Command → Step Unit
  | 0, _ => throw .overran
  | fuel + 1, c => do
    let before ← get
    let number := before.nextProcess
    let null ← Step.newChannel .nowhere
    modify fun s => { s with limit := none, tested := false, naps := [] }
    Step.connect 0 null
    modify fun s => { s with nextProcess := number + 1 }
    let result ← Step.rationed (Step.attempt (runSubshell fuel c))
    let s ← get
    let finish ← match result with
      | .error .overran => pure (s.now + 1000000000)
      | _ => pure s.now
    let signal := match result with
      | .error (.killed n) => some n
      | _ => none
    let status := match signal with
      | some n => 128 + n
      | none => s.status
    let isPlain := match c with
      | .simple .. => true
      | _ => false
    let isRedirected := match c with
      | .redirected .. => true
      | _ => false
    let tail := if isPlain || isRedirected || !Step.holdsOutput before then []
      else [(before.now, finish)]
    set { s with
      limit := before.limit, tested := before.tested, naps := before.naps
      descriptors := before.descriptors, now := before.now, status := 0
      background := number :: s.background
      jobs := ⟨number, status, signal, finish, s.naps ++ tail, isPlain⟩ ::
        s.jobs }

/-- Runs a simple command. -/
def runSimple : Nat → Nat → List (String × Word) → List Word → List Redirection → Step Unit
  | 0, _, _, _, _ => throw .overran
  | fuel + 1, line, assignments, words, rs => do
    Step.count
    modify fun s => { s with line := line, substituted := none }
    let capture := substitute fuel
    let fields ← expandAll capture fuel words
    let openings ← rs.mapM (expandRedirection capture fuel)
    let outer := (← get).descriptors
    let (skips, behind) ← behindCommand (fields.length + 1) false fields
    match behind with
    | [] =>
      if fields.isEmpty then
        Step.within id (fun before s => { s with descriptors := before.descriptors }) do
          if ← Opening.performAll openings then
            let mut assigned := []
            for (name, w) in assignments do
              let v ← expandValue capture fuel w
              Step.assign name v
              assigned := assigned ++ [(name, v)]
            if !assigned.isEmpty then trace outer assigned []
            Step.setStatus (((← get).substituted).getD 0)
      else withOpenings openings (Step.setStatus 0)
    | name :: arguments =>
      let isSpecial := specialNames.contains name && !skips
      let assignAll : Bool → Step (List (String × String)) := fun isLocal =>
        assignments.mapM fun (name, w) => do
          let v ← expandValue capture fuel w
          Step.checkWritable name
          if isLocal then Step.hide name
          Step.assign name v
          if isLocal then
            let b ← Step.binding name
            Step.bind name { b with exported := true }
          return (name, v)
      let act : Step Unit :=
        if isSpecial || assignments.isEmpty then do
          let assigned ← assignAll false
          trace outer assigned fields
          invoke fuel name arguments skips
        else
          Step.withLocals do
            let assigned ← assignAll true
            trace outer assigned fields
            invoke fuel name arguments skips
      let refuse : Step Unit := if isSpecial then throw .failed else return
      if name = "exec" then
        if ← Opening.performAll openings then act else refuse
      else
        Step.within id (fun before s => { s with descriptors := before.descriptors }) do
          if ← Opening.performAll openings then act else refuse

/-- Runs what a name stands for: a function, a command of the shell, or a program. -/
def invoke : Nat → String → List String → Bool → Step Unit
  | 0, _, _, _ => throw .overran
  | fuel + 1, name, arguments, skips => do
    let s ← get
    match if skips then none else s.functions.lookup name with
    | some body => callFunction fuel body arguments
    | none =>
      if Builtin.isBuiltin name then
        let isSpecial := specialNames.contains name && !skips
        let result ← Step.attempt (Step.calledBy (some name) (runBuiltin fuel name arguments))
        match result with
        | .error .failed => if isSpecial then throw .failed
        | .error h => throw h
        | .ok () => return
      else startProgram fuel name arguments

def callFunction : Nat → Command → List String → Step Unit
  | 0, _, _ => throw .overran
  | fuel + 1, body, arguments => do
    if maxFunctions ≤ (← get).depth then
      Step.failWith ("Maximum function recursion depth (" ++ toString maxFunctions ++ ") reached")
    let result ← Step.within
      (fun s => { s with
        arguments := arguments, loops := 0, depth := s.depth + 1
        optionIndex := 1, optionPlace := 0 })
      (fun before s => { s with
        arguments := before.arguments, loops := before.loops, depth := before.depth
        optionIndex := before.optionIndex, optionPlace := before.optionPlace })
      (Step.attempt (Step.withLocals (run fuel body)))
    match result with
    | .error .returned | .ok () => return
    | .error h => throw h

/-- Runs a command of the shell. -/
def runBuiltin : Nat → String → List String → Step Unit
  | 0, _, _ => throw .overran
  | fuel + 1, name, arguments => do
    match name, arguments with
    | "eval", _ =>
      let (_, ws) ← Builtin.parse "" "" arguments
      if !(← runText fuel (" ".intercalate ws)) then Step.setStatus 0
    | ".", [] => Step.setStatus 0
    | ".", path :: _ => runFile fuel path
    | "exec", [] => Step.setStatus 0
    | "exec", _ =>
      let (_, ws) ← Builtin.parse "" "" arguments
      match ws with
      | [] => Step.setStatus 0
      | command :: rest =>
        modify fun s => { s with traps := s.traps.filter (·.2 = "") }
        startProgram fuel command rest
        throw .finished
    | "type", _ => Step.setStatus (← Builtin.type_ arguments)
    | "command", _ =>
      let (options, names) ← Builtin.parse "vVp" "" arguments
      match names.head?, options.any (·.1 ≠ 'p') with
      | some name, true =>
        let inFull := options.any (·.1 = 'V')
        match ← Builtin.describe name inFull with
        | some text =>
          Step.print (text ++ "\n")
          Step.setStatus 0
        | none =>
          if inFull then Step.print (name ++ ": not found\n")
          Step.setStatus 127
      | _, _ => Step.setStatus 0
    | _, _ =>
      match Builtin.all.lookup name with
      | some b => Step.setStatus (← b arguments)
      | none => return

/-- Runs the commands in a file as part of the script. -/
def runFile : Nat → String → Step Unit
  | 0, _ => throw .overran
  | fuel + 1, name => do
    let s ← get
    let isFile := fun (path : String) =>
      ({ s.disk with directory := s.directory } : Disk).isFileAt (Text.decoded path)
    match if name.toList.contains '/' then some name
        else (candidates s.search name).find? isFile with
    | none => Step.failWith (name ++ ": not found")
    | some path =>
      match ← Tool.readFile path with
      | .error .isDirectory => Step.setStatus 0
      | .error e =>
        Step.failWith ("cannot open " ++ path ++ ": " ++ failureText "No such file" e)
      | .ok text =>
        let result ← Step.attempt (Step.within
          (fun s => { s with tested := false, caller := some path })
          (fun before s => { s with tested := before.tested, caller := before.caller })
          (runText fuel text))
        match result with
        | .ok ran => if !ran then Step.setStatus 0
        | .error .returned => return
        | .error h => throw h

/-- Starts a program by its path, or by its name. -/
def startProgram : Nat → String → List String → Step Unit
  | 0, _, _ => throw .overran
  | fuel + 1, name, arguments => do
    let refuse := fun (e : Failure) => do
      Step.complain (name ++ ": " ++
        if e = .denied then "Permission denied" else failureText "not found" e)
      Step.setStatus (if e = .denied then 126 else 127)
    match ← Step.onDisk (findPath (← get).search name) with
    | .error e => refuse e
    | .ok path =>
      if !name.toList.contains '/' then
        modify fun s => { s with located := name :: s.located.filter (· ≠ name) }
      match ← Step.onDisk (startAt maxInterpreters path arguments) with
      | .error e => refuse e
      | .ok none => runStart fuel ⟨.shell, "/bin/sh", path :: arguments⟩
      | .ok (some start) =>
        runStart fuel { start with name := if start.name = path then name else start.name }

/-- Runs a program in a process of its own. -/
def runStart : Nat → Start → Step Unit
  | 0, _ => throw .overran
  | fuel + 1, start => do
    Step.pass 1
    match start.program with
    | .shell =>
      match ← Step.attempt (Step.isolated (runShell fuel start.name start.arguments)) with
      | .ok () => return
      | .error (.killed n) =>
        Step.setStatus (128 + n)
        if Builtin.deathText n ≠ "" then Step.report (Builtin.deathText n)
      | .error h => throw h
    | .tool name =>
      Step.isolated do
        modify Session.forProgram
        runTool fuel name start.arguments

/-- Runs a tool. -/
def runTool : Nat → String → List String → Step Unit
  | 0, _, _ => throw .overran
  | fuel + 1, name, arguments => do
    match name with
    | "xargs" => runBatch fuel (Batch.standard.ofArguments arguments)
    | "[" | "test" | "printf" | "pwd" | "kill" =>
      match Builtin.all.lookup name with
      | some b => Step.setStatus (← b arguments)
      | none => return
    | _ =>
      match tools.lookup name with
      | some tool => Step.setStatus (← tool arguments)
      | none =>
        match Launch.ofTool? name arguments with
        | some l => runLaunch fuel name l
        | none =>
          Tool.complain name "missing operand"
          Step.setStatus 125

/-- Runs the command that a tool was given, in the environment that it asks for. -/
def runLaunch : Nat → String → Launch → Step Unit
  | 0, _, _ => throw .overran
  | fuel + 1, tool, l => do
    modify fun s => { s with
      bindings :=
        (l.assigned.reverse.map fun (name, value) =>
          (name, (⟨some value, true, false⟩ : Binding))) ++
        (if l.isBare then [] else s.bindings.filter fun (name, _) =>
          !l.removed.contains name && (l.assigned.lookup name).isNone) }
    match l.command with
    | [] =>
      if tool = "env" then Step.setStatus (← Tool.printenv [])
      else
        Tool.complain tool "missing operand"
        Step.setStatus 125
    | name :: arguments =>
      let before ← get
      match l.limit with
      | none => runNamed fuel tool name arguments
      | some ms =>
        let limit := before.now + ms
        let own := match before.limit with
          | some outer => min outer limit
          | none => limit
        modify fun s => { s with limit := some own }
        let result ← Step.rationed (Step.attempt (runNamed fuel tool name arguments))
        modify fun s => { s with limit := before.limit }
        match result with
        | .ok () => return
        | .error .overran =>
          Step.await limit
          Step.setStatus 124
        | .error h => throw h

/-- Starts a program on behalf of a tool. -/
def runNamed : Nat → String → String → List String → Step Unit
  | 0, _, _, _ => throw .overran
  | fuel + 1, tool, name, arguments => do
    let refuse := fun (e : Failure) => do
      let lead := if tool = "timeout" || tool = "nohup" || tool = "stdbuf" then
          "failed to run command " ++ Tool.quoted name
        else if tool = "env" then Tool.quoted name else name
      Tool.complain tool (lead ++ ": " ++ Tool.reason e)
      Step.setStatus (if e = .denied then 126 else 127)
    let s ← get
    let search := if (s.valueOf? "PATH").isSome then s.search else standardSearch
    match ← Step.onDisk (findPath search name) with
    | .error e => refuse e
    | .ok path =>
      match ← Step.onDisk (startAt maxInterpreters path arguments) with
      | .error e => refuse e
      | .ok none => runStart fuel ⟨.shell, "/bin/sh", path :: arguments⟩
      | .ok (some start) =>
        runStart fuel { start with name := if start.name = path then name else start.name }

/-- Runs commands made from the input. -/
def runBatch : Nat → Batch → Step Unit
  | 0, _ => throw .overran
  | fuel + 1, b => do
    match ← Step.readAll 0 with
    | .error _ => Step.setStatus 1
    | .ok text =>
      Step.connect 0 (← Step.newChannel .nowhere)
      let mut code := 0
      for command in b.commands text do
        if code < 124 then
          if b.traces then Step.report (" ".intercalate command)
          match command with
          | name :: arguments => runNamed fuel "xargs" name arguments
          | [] => pure ()
          let status := (← get).status
          if status = 126 || status = 127 then code := status
          else if status = 255 then
            Tool.complain "xargs" (command.head?.getD "" ++ ": exited with status 255; aborting")
            code := 124
          else if status ≠ 0 then code := 123
      Step.setStatus code

/-- Runs the shell as a program. -/
def runShell : Nat → String → List String → Step Unit
  | 0, _, _ => throw .overran
  | fuel + 1, name, arguments => do
    modify fun s =>
      let s := { s.forProgram with
        name := name, arguments := [], process := s.nextProcess, nextProcess := s.nextProcess + 1 }
      { s with bindings := standardBindings s }
    let c := Call.parse arguments
    for (isOn, letter) in c.options do
      Builtin.setOption letter isOn
    for (isOn, name) in c.named do
      let _ ← Builtin.setLetters isOn ['o'] [name]
    let run := fun (name : String) (arguments : List String) (text : String) => do
      modify fun s => { s with name := name, arguments := arguments }
      withExit fuel do
        let _ ← runText fuel text
    match c.isCommand, c.operands with
    | true, [] => Step.failWith "-c requires an argument"
    | true, text :: rest => run (rest.head?.getD name) (rest.drop 1) text
    | false, operands =>
      match if c.readsInput then none else operands.head? with
      | none =>
        match ← Step.readAll 0 with
        | .ok text => run name operands text
        | .error _ => return
      | some path =>
        match ← Tool.readFile path with
        | .ok text => run path (operands.drop 1) text
        | .error e =>
          Step.failWith ("cannot open " ++ path ++ ": " ++ failureText "No such file" e)

/-- Runs the commands of a text one after the other, and tells whether there were any. A malformed
one ends the shell when it is reached. -/
def runText : Nat → String → Step Bool
  | 0, _ => throw .overran
  | fuel + 1, text => do
    let (_, ran) ← Step.iterate (fun ((r, ran) : Reader × Bool) => do
      let s ← get
      let r := { r with aliases := s.aliases, nextDocument := s.nextDocument }
      match r.next with
      | .error e =>
        modify fun s => { s with line := e.line }
        Step.failWith e.message
      | .ok (none, _) => return ((r, ran), false)
      | .ok (some c, next) =>
        if s.hasOption 'v' then
          let _ ← Step.write 2 (textBetween r next)
        let next ← keepDocuments next
        run fuel c
        return ((next, ran || !c.isNothing), true)) (text.length + 2) (Reader.ofText text 1, false)
    return ran

/-- The output of a command inside a word, without the line breaks at its end. -/
def substitute : Nat → Command → Step String
  | 0, _ => throw .overran
  | fuel + 1, c => do
    let before ← get
    set { before with tested := false }
    let text ← Step.captured (asSubshell (withExit fuel (run fuel c)))
    modify fun s => { s with
      tested := before.tested, substituted := some s.status, status := before.status }
    return String.ofList (Text.trimEndChars (· = '\n') (text.toList.filter (· ≠ '\x00')))

end

/-! ### Processes -/

/-- How deep commands may be nested. -/
def maxDepth : Nat := 20000

/-- The number of commands that a process may run. -/
def maxSteps : Nat := 100000

/-- The time it takes to start a program, in milliseconds. -/
def startTime : Nat := 1

/-- The longest argument or variable of a program, in bytes, with the byte that ends it. -/
def maxArgumentBytes : Nat := 131072

/-- Can a program be started with these texts? -/
def checkTexts (texts : List String) : Except Failure Unit :=
  if texts.any (·.toList.contains '\x00') then .error .badName
  else if texts.any (maxArgumentBytes ≤ ·.utf8ByteSize) then .error .nameTooLong
  else .ok ()

/-- The variables of a program. A name ends at the first equals sign. -/
def environmentOf (search : List String) (given : List (String × String)) :
    List (String × Binding) :=
  let pairs := given.map fun (name, value) =>
    Builtin.splitAtEquals (Text.encoded (name ++ "=" ++ value))
  let standard := [("PATH", some (":".intercalate search)), ("HOME", some homeDirectory.path)]
  (pairs ++ standard.filter fun (name, _) => (pairs.lookup name).isNone).map fun (name, value) =>
    (name, ⟨value, true, false⟩)

/-- The session of a new process. -/
def newSession (search : List String) (d : Disk) (i : Engine.Invocation) : Session where
  disk := d
  channels := #[.pipe [(0, (Text.octets i.input).toList)], .pipe [], .pipe []]
  documents := []
  nextDocument := 0
  now := 0
  limit := i.limit
  jobs := []
  nextProcess := 1000
  naps := []
  steps := maxSteps
  directory := i.directory
  process := 1000
  name := Text.encoded i.program
  arguments := i.arguments.map Text.encoded
  status := 0
  bindings := environmentOf search i.environment
  functions := []
  aliases := []
  descriptors := [(0, 0), (1, 1), (2, 2)]
  mask := 18
  options := []
  traps := []
  pending := []
  line := 0
  caller := none
  tested := false
  loops := 0
  depth := 0
  hidden := []
  substituted := none
  background := []
  located := []
  optionIndex := 1
  optionPlace := 0

/-- What a process leaves behind. -/
def completion (outcome : Except Halt Unit) (s : Session) : Engine.Completion :=
  let written := fun (n : Nat) =>
    match s.channels[n]? with
    | some (.pipe parts) => Text.ofOctets (Step.pipeText parts)
    | _ => .empty
  { ending := match outcome with
      | .error (.killed signal) => .signaled signal
      | .error .overran => .overran
      | _ => .exited (s.status % 256)
    stdout := written 1
    stderr := written 2
    elapsed := s.now
    closed := max s.now (lastOf (s.naps ++ s.jobs.flatMap (·.naps))) }

/-- Starts programs on a disk; those without a directory in their name are looked for in a search
path. -/
def system (search : List String) : Engine.System := fun i d =>
  let s := newSession search d i
  let found : Action (Option Start) := do
    let settings := i.environment.map fun (name, value) => name ++ "=" ++ value
    ExceptT.mk (pure (checkTexts (i.program :: i.arguments ++ settings)))
    let path ← findPath s.search s.name
    startAt maxInterpreters path s.arguments
  match Step.onDisk found s with
  | (.ok (.ok (some start)), s) =>
    let (outcome, s) := (do
      Step.pass startTime
      match start.program with
      | .shell => runShell maxDepth start.name start.arguments
      | .tool name => runTool maxDepth name start.arguments : Step Unit) s
    (.ok (completion outcome s), s.disk)
  | (.ok (.ok none), s) => (.error .denied, s.disk)
  | (.ok (.error e), s) => (.error e, s.disk)
  | (.error _, s) => (.error .device, s.disk)

end Shell
end QueryFuzz
