import QueryFuzz.Shell.Condition
import QueryFuzz.Shell.Fields
import QueryFuzz.Shell.Printing
import QueryFuzz.Shell.Program

/-!
# Commands of the shell

The commands that the shell runs itself, because they look at the session or change it. Those that
run other commands are part of the interpreter.
-/

namespace QueryFuzz
namespace Shell

open Storage

/-- A command of the shell by its arguments; the result is its exit code. -/
abbrev Builtin := List String → Step Nat

namespace Builtin

/-! ### Arguments -/

/-- Options at the front of the arguments, and what follows them. A letter in `valued` takes a
value. -/
def options (flags valued : String) : Nat → List String →
    Step (List (Char × String) × List String)
  | 0, ws => return ([], ws)
  | fuel + 1, ws => do
    match ws with
    | [] => return ([], [])
    | w :: rest =>
      match w.toList with
      | ['-', '-'] => return ([], rest)
      | '-' :: c :: letters =>
        if flags.toList.contains c then
          let rest := if letters.isEmpty then rest else String.ofList ('-' :: letters) :: rest
          let (found, ws) ← options flags valued fuel rest
          return ((c, "") :: found, ws)
        else if valued.toList.contains c then
          match letters, rest with
          | [], [] => Step.failWith ("No arg for -" ++ c.toString ++ " option")
          | [], value :: rest =>
            let (found, ws) ← options flags valued fuel rest
            return ((c, value) :: found, ws)
          | letters, rest =>
            let (found, ws) ← options flags valued fuel rest
            return ((c, String.ofList letters) :: found, ws)
        else Step.failWith ("Illegal option -" ++ c.toString)
      | _ => return ([], w :: rest)

def parse (flags valued : String) (ws : List String) :
    Step (List (Char × String) × List String) :=
  options flags valued (ws.foldl (fun n w => n + w.length + 1) 1) ws

/-- A number that is not negative. -/
def number (s : String) : Step Nat := do
  match if s ≠ "" && s.toList.all Char.isDigit then count? s else none with
  | some n => return n
  | none => Step.failWith ("Illegal number: " ++ s)

/-- A text in quotes from which the shell reads it back. -/
def singleQuoted : Nat → List Char → String
  | 0, _ => ""
  | fuel + 1, cs =>
    let front := cs.takeWhile (· ≠ '\'')
    let behind := cs.drop front.length
    let marks := behind.takeWhile (· = '\'')
    let rest := behind.drop marks.length
    "'" ++ String.ofList front ++ "'" ++
      (if marks.isEmpty then "" else "\"" ++ String.ofList marks ++ "\"") ++
      if rest.isEmpty then "" else singleQuoted fuel rest

def quoted (s : String) : String := singleQuoted (s.length + 1) s.toList

def checkName (name : String) : Step Unit := do
  if !isName name then Step.failWith (name ++ ": bad variable name")

/-- A name and the value behind an equals sign. -/
def splitAtEquals (s : String) : String × Option String :=
  let name := s.toList.takeWhile (· ≠ '=')
  match s.toList.drop name.length with
  | _ :: value => (String.ofList name, some (String.ofList value))
  | [] => (s, none)

/-! ### Variables -/

/-- Bindings in the order of their names. -/
def sorted (bs : List (String × Binding)) : List (String × Binding) :=
  bs.mergeSort fun a b => (Tool.compareTexts a.1.toList b.1.toList).isLE

/-- Lists bindings, each line with a word in front. -/
def list (lead : String) (bs : List (String × Binding)) : Step Unit :=
  Step.print (Tool.joinLines ((sorted bs).map fun (name, b) =>
    lead ++ name ++ match b.value with
      | some v => "=" ++ quoted v
      | none => ""))

/-- Gives variables a mark, and a value if there is one. -/
def marking (word : String) (mark : Binding → Binding) (isMarked : Binding → Bool) : Builtin :=
  fun ws => do
    let (options, names) ← parse "p" "" ws
    if !options.isEmpty || names.isEmpty then
      list (word ++ " ") ((← get).bindings.filter fun (_, b) => isMarked b)
    else
      for w in names do
        let (name, value) := splitAtEquals w
        checkName name
        match value with
        | some v => Step.assign name v
        | none => pure ()
        Step.bind name (mark (← Step.binding name))
    return 0

def export_ : Builtin := marking "export" (fun b => { b with exported := true }) (·.exported)

def readonly : Builtin := marking "readonly" (fun b => { b with fixed := true }) (·.fixed)

def local_ : Builtin := fun ws => do
  if (← get).hidden.isEmpty then Step.failWith "not in a function"
  for w in ws do
    let (name, value) := splitAtEquals w
    checkName name
    Step.hide name
    match value with
    | some v => Step.assign name v
    | none => pure ()
  return 0

def unset : Builtin := fun ws => do
  let (options, names) ← parse "vf" "" ws
  for name in names do
    if (options.getLast?).any (·.1 = 'f') then
      modify fun s => { s with functions := s.functions.filter (·.1 ≠ name) }
    else
      checkName name
      Step.forget name
  return 0

/-! ### Options and arguments of the shell -/

def setOption (c : Char) (isOn : Bool) : Step Unit := do
  if c = '\x00' || c = '\x01' || (optionLetters.lookup c).isNone then
    Step.failWith ("Illegal option -" ++ c.toString)
  modify fun s => { s with
    options := s.options.filter (· ≠ c) ++ if isOn then [c] else [] }

def listOptions (isOn : Bool) : Step Unit := do
  let s ← get
  if isOn then
    Step.print ("Current option settings\n" ++ Tool.joinLines (optionLetters.map fun (c, name) =>
      name ++ String.ofList (List.replicate (16 - name.length) ' ') ++
        if s.hasOption c then "on" else "off"))
  else
    Step.print (Tool.joinLines (optionLetters.map fun (c, name) =>
      "set " ++ (if s.hasOption c then "-o " else "+o ") ++ name))

/-- Sets the options of the letters; the names of some follow in arguments of their own. -/
def setLetters (isOn : Bool) : List Char → List String → Step (List String)
  | [], ws => return ws
  | 'o' :: cs, [] => do
    listOptions isOn
    setLetters isOn cs []
  | 'o' :: cs, name :: ws => do
    match optionLetters.find? (·.2 = name) with
    | some (c, _) =>
      modify fun s => { s with
        options := s.options.filter (· ≠ c) ++ if isOn then [c] else [] }
    | none => Step.failWith ("Illegal option -o " ++ name)
    setLetters isOn cs ws
  | c :: cs, ws => do
    setOption c isOn
    setLetters isOn cs ws

/-- Sets options from arguments, and the arguments of the shell from what follows them. -/
def setFrom : Nat → List String → Step Unit
  | 0, _ => return
  | fuel + 1, ws => do
    match ws with
    | [] => return
    | w :: rest =>
      match w.toList with
      | ['-'] =>
        modify fun s => { s with options := s.options.filter fun c => c ≠ 'x' && c ≠ 'v' }
        if !rest.isEmpty then setArguments rest
      | ['-', '-'] => setArguments rest
      | '-' :: letters => setFrom fuel (← setLetters true letters rest)
      | '+' :: letters => setFrom fuel (← setLetters false letters rest)
      | _ => setArguments ws
where
  setArguments (ws : List String) : Step Unit :=
    modify fun s => { s with arguments := ws, optionIndex := 1, optionPlace := 0 }

def set_ : Builtin := fun ws => do
  if ws.isEmpty then list "" ((← get).bindings.filter (·.2.value.isSome))
  else setFrom (ws.length + 1) ws
  return 0

def shift : Builtin := fun ws => do
  let n ← match ws with
    | w :: _ => number w
    | [] => pure 1
  let s ← get
  if s.arguments.length < n then Step.failWith "can't shift that many"
  set { s with arguments := s.arguments.drop n, optionIndex := 1, optionPlace := 0 }
  return 0

/-! ### Options of scripts -/

/-- What is known of a letter in the list of options: is it one, and does it take a value? -/
def optionKind (c : Char) : List Char → Option Bool
  | [] => none
  | d :: ':' :: rest => if c = d then some true else optionKind c rest
  | d :: rest => if c = d then some false else optionKind c rest

/-- Takes the next option from arguments into a variable. -/
def nextOption (known name : String) (ws : List String) : Step Nat := do
  let s ← get
  let isSilent := known.toList.head? = some ':'
  let before := if s.optionIndex ≤ 1 then none else ws[s.optionIndex - 2]?
  let current := match before with
    | some w => if s.optionPlace = 0 then [] else w.toList.drop s.optionPlace
    | none => []
  let next := ws[s.optionIndex - 1]?
  let finish := fun (c : Char) (index place code : Nat) => do
    Step.assign "OPTIND" (toString index)
    modify fun s => { s with optionIndex := index, optionPlace := place }
    Step.assign name c.toString
    return code
  let (letters, index) := if current.isEmpty then
      match next.map String.toList with
      | some ('-' :: c :: rest) => (c :: rest, s.optionIndex + 1)
      | _ => ([], s.optionIndex)
    else (current, s.optionIndex)
  match letters with
  | [] => finish '?' index 0 1
  | c :: rest =>
    if current.isEmpty && letters = ['-'] then finish '?' index 0 1
    else
      let place := if rest.isEmpty then 0
        else ((ws[index - 2]?).getD "").length - rest.length
      match optionKind c known.toList with
      | none =>
        if isSilent then Step.assign "OPTARG" c.toString
        else
          Step.report ("Illegal option -" ++ c.toString)
          Step.forget "OPTARG"
        finish '?' index place 0
      | some false =>
        Step.assign "OPTARG" ""
        finish c index place 0
      | some true =>
        if !rest.isEmpty then
          Step.assign "OPTARG" (String.ofList rest)
          finish c index 0 0
        else match ws[index - 1]? with
          | some value =>
            Step.assign "OPTARG" value
            finish c (index + 1) 0 0
          | none =>
            if isSilent then
              Step.assign "OPTARG" c.toString
              finish ':' index 0 0
            else
              Step.report ("No arg for -" ++ c.toString ++ " option")
              Step.forget "OPTARG"
              finish '?' index 0 0

def getopts : Builtin := fun ws => do
  let (_, ws) ← parse "" "" ws
  match ws with
  | known :: name :: arguments =>
    let own := (← get).arguments
    nextOption known name (if arguments.isEmpty then own else arguments)
  | _ => Step.failWith "Usage: getopts optstring var [arg...]"

/-! ### Input -/

/-- The characters of a line, up to its break; a backslash quotes the next character, or joins
lines, unless it is taken as it stands. The last part counts the characters that were used. -/
def lineFrom (isRaw : Bool) : Nat → List Char → Field × Bool × Nat
  | 0, _ => ([], false, 0)
  | _ + 1, [] => ([], false, 0)
  | fuel + 1, c :: rest =>
    if c = '\n' then ([], true, 1)
    else if c = '\\' && !isRaw then
      match rest with
      | '\n' :: more =>
        let (f, ended, n) := lineFrom isRaw fuel more
        (f, ended, n + 2)
      | d :: more =>
        let (f, ended, n) := lineFrom isRaw fuel more
        ((d, true) :: f, ended, n + 2)
      | [] => ([], false, 1)
    else
      let (f, ended, n) := lineFrom isRaw fuel rest
      (if c = '\x00' then f else (c, false) :: f, ended, n + 1)

/-- Takes a line from the input, and tells whether it has ended. It is looked for in longer and
longer beginnings of what there is. -/
def takeLine (isRaw : Bool) : Nat → Nat → Step (Field × Bool)
  | 0, _ => return ([], false)
  | fuel + 1, count => do
    let text ← match ← Step.peek 0 (some count) with
      | .ok text => pure text
      | .error _ => pure ""
    let (line, ended, used) := lineFrom isRaw (text.length + 1) text.toList
    if ended then
      Step.consume 0 used
      return (line, true)
    else if text.length < count then
      let _ ← Step.readAll 0
      return (line, false)
    else takeLine isRaw fuel (8 * count)

def read : Builtin := fun ws => do
  let (options, names) ← parse "r" "p" ws
  if names.isEmpty then Step.failWith "arg count"
  let line ← takeLine (options.any (·.1 = 'r')) 16 128
  let (line, ended) := line
  let values := divide (← get).separators line names.length
  for (name, i) in names.zipIdx do
    checkName name
    Step.assign name ((values[i]?).getD "")
  return if ended then 0 else 1

/-! ### Directories -/

def changeDirectory (path : String) (tells : Bool) : Step Nat := do
  let found ← Step.onDisk do
    let l ← Tool.locate path
    if (← Disk.current).isDirectory l then return l else throw .missing
  match found with
  | .ok l =>
    let old := (← get).path
    modify fun s => { s with directory := l }
    let new := (← get).path
    for (name, value) in [("OLDPWD", old), ("PWD", new)] do
      Step.assign name value
      let b ← Step.binding name
      Step.bind name { b with exported := true }
    if tells then Step.print (new ++ "\n")
    return 0
  | .error _ => Step.failWith ("can't cd to " ++ path)

def cd : Builtin := fun ws => do
  let (_, ws) ← parse "LP" "" ws
  let s ← get
  match ws with
  | [] => changeDirectory (orHere ((s.valueOf? "HOME").getD "")) false
  | "-" :: _ => changeDirectory (orHere ((s.valueOf? "OLDPWD").getD "")) true
  | path :: _ => changeDirectory (orHere path) false
where
  orHere (path : String) : String := if path = "" then "." else path

def pwd : Builtin := fun ws => do
  let _ ← parse "LP" "" ws
  Step.print ((← get).path ++ "\n")
  return 0

/-! ### Conditions and printing -/

/-- What a path leads to. -/
def inspect (s : Session) (path : String) : Condition.Target :=
  if ["/dev/null", "/dev/tty", "/dev/zero", "/dev/stdin", "/dev/stdout",
      "/dev/stderr"].contains path then .device
  else match ({ s.disk with directory := s.directory } : Disk).resolve (Text.decoded path) with
    | .error _ => .missing
    | .ok l =>
      match s.disk.tree.get? l with
      | none => .missing
      | some .directory => .directory
      | some (.file content executable) => .file content.size executable

def holds (ws : List String) : Step Nat := do
  match Condition.evaluate (inspect (← get)) (ws.length + 1) ws with
  | .ok b => return if b then 0 else 1
  | .error e => Step.failWith e

def test : Builtin := holds

def bracket : Builtin := fun ws =>
  if ws.getLast? = some "]" then holds ws.dropLast else Step.failWith "missing ]"

/-- Prints a text, or complains that there is no open output. -/
def printOr (caller text : String) : Step Nat := do
  if ← Step.write 1 text then return 0
  else
    Step.complain (caller ++ ": I/O error")
    return 1

def echo : Builtin := fun ws => printOr "echo" (echoed ws)

def printf : Builtin := fun ws => do
  let (_, ws) ← parse "" "" ws
  match ws with
  | [] => Step.failWith "usage: printf format [arg ...]"
  | format :: arguments =>
    let p := printed format arguments
    p.complaints.forM Step.complain
    let code ← printOr "printf" p.text
    match p.error with
    | some e => Step.failWith e
    | none => return if p.complaints.isEmpty then code else 1

/-! ### Signals and processes -/

/-- The names of the signals, from number one on. -/
def signalNames : List String :=
  ["HUP", "INT", "QUIT", "ILL", "TRAP", "ABRT", "BUS", "FPE", "KILL", "USR1", "SEGV", "USR2",
    "PIPE", "ALRM", "TERM", "STKFLT", "CHLD", "CONT", "STOP", "TSTP", "TTIN", "TTOU", "URG",
    "XCPU", "XFSZ", "VTALRM", "PROF", "WINCH", "IO", "PWR", "SYS"]

def signalName (n : Nat) : String := if n = 0 then "EXIT" else (signalNames[n - 1]?).getD ""

/-- A signal by its number, or by its name in letters of any case. -/
def signal? (s : String) : Option Nat :=
  if s ≠ "" && s.toList.all Char.isDigit then (s.toNat?).filter (· < 65)
  else
    let name := s.map Char.toUpper
    (("EXIT" :: signalNames).findIdx? (· = name))

def trap : Builtin := fun ws => do
  let (_, ws) ← parse "" "" ws
  match ws with
  | [] =>
    let traps := (← get).traps.mergeSort fun a b => a.1 ≤ b.1
    Step.print (Tool.joinLines (traps.map fun (n, action) =>
      "trap -- " ++ quoted action ++ " " ++ signalName n))
    return 0
  | first :: rest =>
    let isNumber := first ≠ "" && first.toList.all Char.isDigit && (signal? first).isSome
    let (action, signals) := if rest.isEmpty || isNumber then (none, ws)
      else (if first = "-" then none else some first, rest)
    for name in signals do
      match signal? name with
      | none =>
        Step.report ("trap: " ++ name ++ ": bad trap")
        return 1
      | some n =>
        modify fun s => { s with
          traps := (action.toList.map (n, ·)) ++ s.traps.filter (·.1 ≠ n) }
    return 0

/-- What is said of a process that a signal has ended. -/
def deathText (n : Nat) : String :=
  match n with
  | 1 => "Hangup"
  | 3 => "Quit"
  | 4 => "Illegal instruction"
  | 5 => "Trace/breakpoint trap"
  | 6 => "Aborted"
  | 7 => "Bus error"
  | 8 => "Floating point exception"
  | 9 => "Killed"
  | 10 => "User defined signal 1"
  | 11 => "Segmentation fault"
  | 12 => "User defined signal 2"
  | 14 => "Alarm clock"
  | 15 => "Terminated"
  | _ => ""

/-- Signals that do nothing to a process by themselves. -/
def isHarmless (n : Nat) : Bool := [0, 17, 18, 23, 28].contains n

/-- Sends a signal to a process; fails if there is none with the number. -/
def send (signal process : Nat) : Step Bool := do
  let s ← get
  if process = s.process then
    match s.traps.lookup signal with
    | some action =>
      if signal = 9 || signal = 19 then throw (.killed signal)
      if action ≠ "" then set { s with pending := s.pending ++ [signal] }
    | none => if !isHarmless signal then throw (.killed signal)
    return true
  else
    let (own, others) := s.jobs.partition (·.number = process)
    let isAlone := others.all (·.finish ≤ s.now)
    for j in own do
      if !isHarmless signal && s.now < j.finish then
        set { s with
          jobs :=
            { j with
              status := 128 + signal, signal := some signal, finish := s.now
              naps := j.napsAfter s.now } :: others
          channels := if isAlone then s.channels.map (Channel.before s.now) else s.channels }
    return !own.isEmpty

def kill : Builtin := fun ws => do
  let usage : Step Nat := Step.failWith
    "Usage: kill [-s sigspec | -signum | -sigspec] [pid | job]... or\nkill -l [exitstatus]"
  let firstSignal := match ws.head?.map String.toList with
    | some ('-' :: name) => signal? (String.ofList name)
    | _ => none
  let (options, operands) ← match firstSignal with
    | some _ => pure ([], ws.drop 1)
    | none => parse "l" "s" ws
  let lists := options.any (·.1 = 'l')
  let signal ← match options.lookup 's' with
    | some name =>
      match signal? name with
      | some n => pure (some n)
      | none => Step.failWith ("invalid signal number or name: " ++ name)
    | none => pure firstSignal
  if lists then
    match operands with
    | [] =>
      Step.print (Tool.joinLines ("0" :: signalNames))
      return 0
    | w :: _ =>
      let n ← number w
      let n := if 128 < n then n - 128 else n
      if n = 0 || signalNames.length < n then
        Step.failWith ("invalid signal number or exit status: " ++ w)
      Step.print (signalName n ++ "\n")
      return 0
  else if operands.isEmpty then usage
  else
    let mut code := 0
    for w in operands do
      let process ← match w.toList with
        | '%' :: job => do
          let s ← get
          pure ((s.background.reverse[((String.ofList job).toNat?.getD 1) - 1]?).getD 0)
        | '-' :: digits => number (String.ofList digits)
        | _ => number w
      if !(← send (signal.getD 15) process) then
        Step.complain "No such process\n"
        code := 1
    return code

/-- Waits for a process in the background, and tells which signal has ended it if that is wanted;
the result is its exit code. -/
def waitFor (tells : Bool) (process : Nat) : Step Nat := do
  match (← get).jobs.find? (·.number = process) with
  | some j =>
    Step.await j.finish
    let text := (j.signal.map deathText).getD ""
    if tells && text ≠ "" then Step.report text
    return j.status
  | none => return 127

def wait : Builtin := fun ws => do
  let (_, ws) ← parse "" "" ws
  if ws.isEmpty then
    for n in (← get).background do
      let _ ← waitFor false n
    return 0
  else
    let mut code := 0
    for w in ws do
      let n ← match w.toList with
        | '%' :: job => do
          let s ← get
          pure ((s.background.reverse[((String.ofList job).toNat?.getD 1) - 1]?).getD 0)
        | _ => number w
      code ← if (← get).background.contains n then waitFor true n else pure 127
    return code

def jobs : Builtin := fun _ => do
  let s ← get
  let running := s.background.reverse.zipIdx.filter fun (n, _) =>
    s.jobs.any fun j => j.number = n && s.now < j.finish
  Step.print (Tool.joinLines (running.map fun (n, i) =>
    let mark := if s.background.head? = some n then "+" else
      if s.background[1]? = some n then "-" else " "
    "[" ++ toString (i + 1) ++ "] " ++ mark ++ " Running" ++
      String.ofList (List.replicate 20 ' ')))
  return 0

/-! ### Leaving -/

def exit : Builtin := fun ws => do
  match ws with
  | w :: _ => Step.setStatus ((← number w) % 256)
  | [] => pure ()
  throw .finished

def return_ : Builtin := fun ws => do
  match ws with
  | w :: _ => Step.setStatus (← number w)
  | [] => pure ()
  throw .returned

/-- Leaves loops or goes on with the next turn of one; outside of loops it does nothing. -/
def leave (repeats : Bool) : Builtin := fun ws => do
  let n ← match ws with
    | w :: _ => number w
    | [] => pure 1
  if n = 0 then Step.failWith ("Illegal number: " ++ ws.head?.getD "")
  let n := min n (← get).loops
  if 0 < n then
    Step.setStatus 0
    throw (.turned repeats n)
  return 0

/-! ### Names -/

/-- The order in which aliases are listed. -/
def aliasSlot (name : String) : Nat :=
  match name.toList with
  | [] => 0
  | c :: _ => (c.toNat * 16 + (name.toList.foldl (fun n d => n + d.toNat) 0)) % 39

def aliasLine (entry : String × String) : String := entry.1 ++ "=" ++ quoted entry.2

def alias_ : Builtin := fun ws => do
  if ws.isEmpty then
    let all := (← get).aliases.reverse.mergeSort fun a b => aliasSlot a.1 ≤ aliasSlot b.1
    Step.print (Tool.joinLines (all.map aliasLine))
    return 0
  let mut code := 0
  for w in ws do
    match splitAtEquals w with
    | (name, some value) =>
      modify fun s => { s with
        aliases := (name, value) :: s.aliases.filter (·.1 ≠ name) }
    | (name, none) =>
      match (← get).aliases.lookup name with
      | some value => Step.print (aliasLine (name, value) ++ "\n")
      | none =>
        Step.report ("alias: " ++ name ++ " not found")
        code := 1
  return code

def unalias : Builtin := fun ws => do
  let (options, names) ← parse "a" "" ws
  if !options.isEmpty then
    modify fun s => { s with aliases := [] }
    return 0
  let mut code := 0
  for name in names do
    if ((← get).aliases.lookup name).isSome then
      modify fun s => { s with aliases := s.aliases.filter (·.1 ≠ name) }
    else
      Step.report ("unalias: " ++ name ++ " not found")
      code := 1
  return code

/-- Forgets or lists where programs were found, or looks for some. -/
def hash : Builtin := fun ws => do
  let (options, names) ← parse "r" "" ws
  if !options.isEmpty then
    modify fun s => { s with located := [] }
    return 0
  let mut code := 0
  if names.isEmpty then
    for name in (← get).located do
      match ← Step.onDisk (findPath (← get).search name) with
      | .ok path => Step.print (path ++ "\n")
      | .error _ => pure ()
  for name in names do
    match ← Step.onDisk (findPath (← get).search name) with
    | .ok _ => modify fun s => { s with located := name :: s.located.filter (· ≠ name) }
    | .error _ =>
      Step.complain (name ++ ": not found")
      code := 1
  return code

/-- The time that was used; nothing takes any. -/
def times : Builtin := fun _ => do
  Step.print "0m0.000000s 0m0.000000s\n0m0.000000s 0m0.000000s\n"
  return 0

/-- The rights that some bits of a mask leave. -/
def rightsText (bits : Nat) : String :=
  String.ofList ([(4, 'r'), (2, 'w'), (1, 'x')].filterMap fun (bit, c) =>
    if bits / bit % 2 = 0 then some c else none)

def umask : Builtin := fun ws => do
  let (options, ws) ← parse "S" "" ws
  let mask := (← get).mask
  match ws with
  | [] =>
    if options.isEmpty then
      let digits := Nat.toDigits 8 mask
      Step.print (String.ofList (List.replicate (4 - digits.length) '0' ++ digits) ++ "\n")
    else
      Step.print ("u=" ++ rightsText (mask / 64 % 8) ++ ",g=" ++ rightsText (mask / 8 % 8) ++
        ",o=" ++ rightsText (mask % 8) ++ "\n")
    return 0
  | w :: _ =>
    let (n, rest) := digitsFrom 8 w.toList
    if w.toList.head?.any Char.isDigit then
      if !rest.isEmpty || 511 < n then Step.failWith ("Illegal number: " ++ w)
      modify fun s => { s with mask := n }
    return 0

def ulimit : Builtin := fun ws => do
  if (ws.filter fun w => w.toList.head? ≠ some '-').isEmpty then Step.print "unlimited\n"
  return 0

/-- The commands that run no others. -/
def all : List (String × Builtin) :=
  [(":", fun _ => return 0), ("[", bracket), ("alias", alias_), ("break", leave false),
    ("cd", cd), ("chdir", cd), ("continue", leave true), ("echo", echo), ("exit", exit),
    ("export", export_), ("false", fun _ => return 1), ("getopts", getopts), ("hash", hash),
    ("jobs", jobs), ("kill", kill), ("local", local_), ("printf", printf), ("pwd", pwd),
    ("read", read), ("readonly", readonly), ("return", return_), ("set", set_),
    ("shift", shift), ("test", test), ("times", times), ("trap", trap),
    ("true", fun _ => return 0), ("ulimit", ulimit), ("umask", umask), ("unalias", unalias),
    ("unset", unset), ("wait", wait)]

/-- The commands that run others. -/
def runners : List String := [".", "command", "eval", "exec", "type"]

def isBuiltin (name : String) : Bool :=
  (all.lookup name).isSome || runners.contains name

/-- Commands whose arguments may assign values. -/
def takesAssignments (name : String) : Bool :=
  ["alias", "export", "local", "readonly"].contains name

/-- What a name stands for, in a line of text, or in one word; none if it stands for nothing. -/
def describe (name : String) (inFull : Bool) : Step (Option String) := do
  let s ← get
  let say := fun (short long : String) => some (if inFull then name ++ " is " ++ long else short)
  if keywords.contains name then return say name "a shell keyword"
  match s.aliases.lookup name with
  | some value =>
    return say ("alias " ++ aliasLine (name, value)) ("an alias for " ++ value)
  | none => pure ()
  if (s.functions.lookup name).isSome then return say name "a shell function"
  if isBuiltin name then
    return say name
      (if specialNames.contains name then "a special shell builtin" else "a shell builtin")
  match ← Step.onDisk (findPath s.search name) with
  | .ok path =>
    return say path (if s.located.contains name && !name.toList.contains '/' then
      "a tracked alias for " ++ path else path)
  | .error _ => return none

def type_ : Builtin := fun ws => do
  let mut code := 0
  for name in ws do
    match ← describe name true with
    | some text => Step.print (text ++ "\n")
    | none =>
      Step.print (name ++ ": not found\n")
      code := 127
  return code

end Builtin
end Shell
end QueryFuzz
