import QueryFuzz.Shell.Token
import QueryFuzz.Shell.Number
import QueryFuzz.Storage.Disk
import QueryFuzz.Text.Octets

/-!
# Shell sessions

What a running script sees and changes. Part of it belongs to the whole system: the disk, what open
descriptors lead to, the time and the processes. The rest belongs to one shell, which hands a copy
to every shell it starts. All text in scripts is text of octets.
-/

namespace QueryFuzz
namespace Shell

open Storage

/-- What an open descriptor leads to. -/
inductive Channel where
  /-- What was written and not yet read, the latest first, each with the time of writing. -/
  | pipe (parts : List (Nat × List Char))
  /-- A place in a file. -/
  | file (l : Location) (position : Nat) (appends : Bool)
  | nowhere

/-- What was written to a channel up to a point in time. -/
def Channel.before (time : Nat) : Channel → Channel
  | pipe parts => pipe (parts.filter (·.1 ≤ time))
  | c => c

/-- A process in the background. -/
structure Job where
  number : Nat
  status : Nat
  /-- What has ended it, if it did not end by itself. -/
  signal : Option Nat
  /-- When it ends. -/
  finish : Nat
  /-- From when to when it, or a program it waits for, keeps the output of the first process
  open. -/
  naps : List (Nat × Nat)
  /-- Is it a single program, which nothing outlives? -/
  isPlain : Bool

/-- What keeps the output open if the process is ended early: the program it waits for then. -/
def Job.napsAfter (j : Job) (time : Nat) : List (Nat × Nat) :=
  j.naps.filterMap fun (start, stop) =>
    if stop ≤ time then some (start, stop)
    else if start ≤ time then some (start, if j.isPlain then time else stop)
    else none

/-- When the last of some naps is over. -/
def lastOf (naps : List (Nat × Nat)) : Nat := naps.foldl (fun n (_, stop) => max n stop) 0

structure World where
  disk : Disk
  channels : Array Channel
  documents : List (Nat × Word)
  nextDocument : Nat
  now : Nat
  /-- The process is ended at this time. -/
  limit : Option Nat
  jobs : List Job
  nextProcess : Nat
  /-- From when to when processes kept the output of the first process open. -/
  naps : List (Nat × Nat)
  /-- How many more commands may be run. -/
  steps : Nat

/-- What is known of a variable; it may have no value yet. -/
structure Binding where
  value : Option String
  exported : Bool
  fixed : Bool

structure Session extends World where
  directory : Location
  /-- The number of the process. -/
  process : Nat
  /-- What the running script is called. -/
  name : String
  arguments : List String
  /-- The exit code of the last command. -/
  status : Nat
  bindings : List (String × Binding)
  functions : List (String × Command)
  aliases : List (String × String)
  /-- Where the descriptors lead, by numbers of channels. -/
  descriptors : List (Nat × Nat)
  /-- The rights that new files do not have. -/
  mask : Nat
  /-- The letters of the options that are on. -/
  options : List Char
  /-- What is done when a signal arrives, or in the end, which has the number zero. -/
  traps : List (Nat × String)
  pending : List Nat
  /-- Where the running command was written. -/
  line : Nat
  /-- The command on whose behalf messages are printed. -/
  caller : Option String
  /-- Is the status of the running command asked for, so that a failure is no error? -/
  tested : Bool
  /-- How many loops the running command is in. -/
  loops : Nat
  /-- How many functions are running. -/
  depth : Nat
  /-- What local variables have hidden, for each function that is running. -/
  hidden : List (List (String × Option Binding))
  /-- The exit code of the last output that was taken into a word. -/
  substituted : Option Nat
  /-- The processes in the background, the latest first. -/
  background : List Nat
  /-- The programs that were found by their names. -/
  located : List String
  /-- Which argument is searched for options next. -/
  optionIndex : Nat
  /-- Where the next option is in the argument before that one; zero if it has none left. -/
  optionPlace : Nat

/-- Why a script does not go on. -/
inductive Halt where
  /-- The shell ends. -/
  | finished
  /-- An error was reported. -/
  | failed
  /-- Leaves some loops, and goes on with the next turn of the last one if so asked. -/
  | turned (repeats : Bool) (loops : Nat)
  | returned
  | killed (signal : Nat)
  | overran
  deriving DecidableEq, Repr

/-- A step of a script. -/
abbrev Step := ExceptT Halt (StateM Session)

def Session.hasOption (s : Session) (c : Char) : Bool := s.options.contains c

/-- The path of a location, in octets. -/
def Session.path (s : Session) : String := Text.encoded s.directory.path

namespace Step

/-- Changes the session, runs a step, and says what becomes of the session before and after it,
however the step ends. -/
def within {α : Type} (enter : Session → Session) (leave : Session → Session → Session)
    (step : Step α) : Step α := fun s =>
  let (result, t) := step (enter s)
  (result, leave s t)

/-- The result of a step, also if it ends early. -/
def attempt {α : Type} (step : Step α) : Step (Except Halt α) := fun s =>
  let (result, s) := step s
  (.ok result, s)

/-- An operation on the disk with paths seen from the working directory. -/
def onDisk {α : Type} (action : Action α) : Step (Except Failure α) := do
  let s ← get
  let (result, d) := action { s.disk with directory := s.directory }
  set { s with disk := { d with directory := s.disk.directory } }
  return result

def setStatus (n : Nat) : Step Unit := modify fun s => { s with status := n }

/-! ### Time -/

/-- Does any descriptor lead to the output of the first process? -/
def holdsOutput (s : Session) : Bool := s.descriptors.any fun (_, n) => n = 1 || n = 2

/-- Lets time pass up to a point. -/
def await (time : Nat) : Step Unit := do
  let s ← get
  let later := max s.now time
  let now := match s.limit with
    | some limit => min later limit
    | none => later
  set { s with
    now := now, naps := if holdsOutput s && s.now < now then (s.now, now) :: s.naps else s.naps }
  if now < later then throw .overran

def pass (ms : Nat) : Step Unit := do await ((← get).now + ms)

/-- Counts a command that is run. -/
def count : Step Unit := do
  let s ← get
  if s.steps = 0 then throw .overran
  set { s with steps := s.steps - 1 }

/-! ### Channels -/

def newChannel (c : Channel) : Step Nat := do
  let s ← get
  set { s with channels := s.channels.push c }
  return s.channels.size

def setChannel (n : Nat) (c : Channel) : Step Unit :=
  modify fun s => { s with channels := s.channels.setIfInBounds n c }

/-- The parts of a pipe in the order of time. -/
def inOrder (parts : List (Nat × List Char)) : List (Nat × List Char) :=
  parts.reverse.mergeSort fun a b => a.1 ≤ b.1

/-- The beginning of ordered parts, up to a number of characters. -/
def takeParts : Nat → List (Nat × List Char) → List Char
  | _, [] => []
  | count, (_, cs) :: rest =>
    let front := cs.take count
    if count ≤ front.length then front else front ++ takeParts (count - front.length) rest

/-- What is left of ordered parts when some characters are taken, and when the last of these was
there. -/
def dropParts (count : Nat) (time : Nat) :
    List (Nat × List Char) → Nat × List (Nat × List Char)
  | [] => (time, [])
  | (t, cs) :: rest =>
    if count = 0 then (time, (t, cs) :: rest)
    else
      let length := (cs.take count).length
      if length < count then dropParts (count - length) (max time t) rest
      else (max time t, (t, cs.drop count) :: rest)

/-- Everything in a pipe. -/
def pipeText (parts : List (Nat × List Char)) : String :=
  String.ofList ((inOrder parts).flatMap (·.2))

def fileText (l : Location) : Step (Option String) := do
  match ← onDisk (Disk.read l) with
  | .ok (content, _) => return some (Text.octets content)
  | .error _ => return none

/-- Writes to a file at a place; what was before is kept, and missing bytes are zero. -/
def overwrite (content : String) (position : Nat) (new : String) : String :=
  let cs := content.toList
  let gap := List.replicate (position - cs.length) '\x00'
  String.ofList (cs.take position ++ gap) ++ new ++
    String.ofList (cs.drop (position + new.length))

/-- Writes to a descriptor; fails if it is closed. -/
def write (descriptor : Nat) (text : String) : Step Bool := do
  let s ← get
  match s.descriptors.lookup descriptor with
  | none => return false
  | some n =>
    match s.channels[n]? with
    | some (.pipe parts) =>
      if text ≠ "" then setChannel n (.pipe ((s.now, text.toList) :: parts))
      return true
    | some (.file l position appends) =>
      let content := (← fileText l).getD ""
      let position := if appends then content.length else position
      let _ ← onDisk (Disk.write l (Text.ofOctets (overwrite content position text)) false)
      setChannel n (.file l (position + text.length) appends)
      return true
    | _ => return true

/-- The beginning of what can be read from a descriptor, up to a number of characters, or all of
it; fails if the descriptor is closed or cannot be read. -/
def peek (descriptor : Nat) (count : Option Nat) : Step (Except Failure String) := do
  let s ← get
  match s.descriptors.lookup descriptor with
  | none => return .error .device
  | some n =>
    match s.channels[n]? with
    | some (.pipe parts) =>
      return .ok (match count with
        | some k => String.ofList (takeParts k (inOrder parts))
        | none => pipeText parts)
    | some (.file l position _) =>
      match ← onDisk (Disk.read l) with
      | .ok (content, _) =>
        let stop := match count with
          | some k => min content.size (position + k)
          | none => content.size
        return .ok (Text.octets (content.extract position stop))
      | .error e => return .error e
    | _ => return .ok ""

/-- What can be read from a descriptor. -/
def available (descriptor : Nat) : Step (Except Failure String) := peek descriptor none

/-- Takes a number of characters from what can be read. -/
def consume (descriptor : Nat) (count : Nat) : Step Unit := do
  let s ← get
  match s.descriptors.lookup descriptor with
  | none => return
  | some n =>
    match s.channels[n]? with
    | some (.pipe parts) =>
      let (time, left) := dropParts count s.now (inOrder parts)
      setChannel n (.pipe left.reverse)
      await time
    | some (.file l position appends) => setChannel n (.file l (position + count) appends)
    | _ => return

/-- Is the descriptor a place in a file? -/
def isFile (descriptor : Nat) : Step Bool := do
  let s ← get
  match (s.descriptors.lookup descriptor).bind fun n => s.channels[n]? with
  | some (.file ..) => return true
  | _ => return false

/-- Reads everything that is left, once nothing more can come. -/
def readAll (descriptor : Nat) : Step (Except Failure String) := do
  match ← available descriptor with
  | .error e => return .error e
  | .ok text =>
    let s ← get
    match (s.descriptors.lookup descriptor).bind fun n => (s.channels[n]?).map (n, ·) with
    | some (n, .pipe parts) =>
      setChannel n (.pipe [])
      await (parts.foldl (fun time (t, _) => max time t) 0)
    | _ => consume descriptor text.length
    return .ok text

def connect (descriptor channel : Nat) : Step Unit :=
  modify fun s => { s with
    descriptors := (descriptor, channel) :: s.descriptors.filter (·.1 ≠ descriptor) }

def disconnect (descriptor : Nat) : Step Unit :=
  modify fun s => { s with descriptors := s.descriptors.filter (·.1 ≠ descriptor) }

/-! ### Messages -/

def print (text : String) : Step Unit := do
  let _ ← write 1 text

/-- Prints a line to the error output. -/
def report (text : String) : Step Unit := do
  let _ ← write 2 (text ++ "\n")

/-- What the messages of a shell start with. -/
def messageStart : Step String := do
  let s ← get
  let caller := match s.caller with
    | some c => c ++ ": "
    | none => ""
  return s.name ++ ": " ++ toString s.line ++ ": " ++ caller

def complain (text : String) : Step Unit := do
  report ((← messageStart) ++ text)

/-- Reports an error, which ends the shell unless an ordinary command has caused it. -/
def failWith {α : Type} (text : String) : Step α := do
  complain text
  setStatus 2
  throw .failed

/-! ### Variables -/

def binding (name : String) : Step Binding := do
  return ((← get).bindings.lookup name).getD ⟨none, false, false⟩

def bind (name : String) (b : Binding) : Step Unit :=
  modify fun s => { s with bindings := (name, b) :: s.bindings.filter (·.1 ≠ name) }

def checkWritable (name : String) : Step Unit := do
  if (← binding name).fixed then failWith (name ++ ": is read only")

/-- No value is longer. -/
def maxValueLength : Nat := 4194304

def assign (name value : String) : Step Unit := do
  checkWritable name
  if maxValueLength < value.length then throw .overran
  let b ← binding name
  bind name { b with value := some value, exported := b.exported || (← get).hasOption 'a' }
  if name = "OPTIND" then
    modify fun s => { s with optionIndex := (value.toNat?).getD 1, optionPlace := 0 }

/-- Forgets a variable. -/
def forget (name : String) : Step Unit := do
  checkWritable name
  modify fun s => { s with bindings := s.bindings.filter (·.1 ≠ name) }

/-- Bindings in which a variable is what it was before. -/
def restored (bindings : List (String × Binding)) (before : String × Option Binding) :
    List (String × Binding) :=
  before.2.toList.map (before.1, ·) ++ bindings.filter (·.1 ≠ before.1)

/-- Makes a variable local to the function that is running. -/
def hide (name : String) : Step Unit :=
  modify fun s =>
    match s.hidden with
    | frame :: outer =>
      if frame.any (·.1 = name) then s
      else { s with hidden := ((name, s.bindings.lookup name) :: frame) :: outer }
    | [] => s

/-- Runs a step in which variables can be made local. -/
def withLocals {α : Type} (step : Step α) : Step α :=
  within (fun s => { s with hidden := [] :: s.hidden })
    (fun before s =>
      { s with
        hidden := before.hidden
        bindings := (s.hidden.head?.getD []).foldl restored s.bindings }) step

/-! ### Processes -/

/-- Runs a step in a shell of its own: what it changes in the world stays, the rest does not. -/
def isolated (step : Step Unit) : Step Unit := fun before =>
  let (result, after) := step before
  let s := { before with toWorld := after.toWorld, status := after.status }
  match result with
  | .error (.killed signal) => (.error (.killed signal), s)
  | .error .overran => (.error .overran, s)
  | _ => (.ok (), s)

/-- What a step prints. -/
def captured (step : Step Unit) : Step String := do
  let channel ← newChannel (.pipe [])
  let outer ← get
  connect 1 channel
  isolated step
  let s ← get
  set { s with descriptors := outer.descriptors }
  match s.channels[channel]? with
  | some (.pipe parts) =>
    setChannel channel .nowhere
    return pipeText parts
  | _ => return ""

end Step

/-! ### Values of parameters -/

/-- The letters of all options, in the order in which they are listed. -/
def optionLetters : List (Char × String) :=
  [('e', "errexit"), ('f', "noglob"), ('I', "ignoreeof"), ('i', "interactive"), ('m', "monitor"),
    ('n', "noexec"), ('s', "stdin"), ('x', "xtrace"), ('v', "verbose"), ('V', "vi"),
    ('E', "emacs"), ('C', "noclobber"), ('a', "allexport"), ('b', "notify"), ('u', "nounset"),
    ('p', "privileged"), ('\x00', "nolog"), ('\x01', "debug")]

def Session.valueOf? (s : Session) (name : String) : Option String :=
  (s.bindings.lookup name).bind (·.value)

/-- The value of a parameter other than the list of all arguments. -/
def Session.parameter? (s : Session) (name : String) : Option String :=
  match name with
  | "?" => some (toString s.status)
  | "#" => some (toString s.arguments.length)
  | "$" => some (toString s.process)
  | "!" => s.background.head?.map toString
  | "-" => some (String.ofList
      ((optionLetters.reverse.map (·.1)).filter s.options.contains))
  | "0" => some s.name
  | name =>
    match name.toNat? with
    | some n => s.arguments[n - 1]?
    | none => s.valueOf? name

/-- The characters that separate fields. -/
def Session.separators (s : Session) : List Char :=
  match s.valueOf? "IFS" with
  | some cs => cs.toList
  | none => [' ', '\t', '\n']

/-- All arguments as one text. -/
def Session.joinedArguments (s : Session) : String :=
  String.intercalate (match s.valueOf? "IFS" with
    | some cs => String.ofList (cs.toList.take 1)
    | none => " ") s.arguments

/-- The words for a failure in messages; `missing` is what is said where nothing is there. -/
def failureText (missing : String) : Failure → String
  | .missing | .notDirectory => missing
  | .occupied => "File exists"
  | .isDirectory => "Is a directory"
  | .denied => "Permission denied"
  | .nameTooLong => "File name too long"
  | .notText | .badName | .device => "Input/output error"

end Shell
end QueryFuzz
