import QueryFuzz.Settings.Assembly
import QueryFuzz.Shell.Interpreter

/-!
# The command line

What can be said when a run is started from a terminal, and what is printed when it has ended. An
option takes the place of the setting of the same name; flags only turn something on or off.
Engines are scripts of the shell that comes with the library, on a disk in memory.
-/

namespace QueryFuzz

open Storage

structure CommandLine where
  settingsFile : String
  seed : Option Nat
  trials : Option Nat
  workers : Option Nat
  pathCoverage : Bool
  grammarCoverage : Bool
  outputDirectory : Option String
  reduce : Bool
  deriving DecidableEq, Repr

namespace CommandLine

inductive UsageError where
  | unknown (argument : String)
  | noValue (option : String)
  | notCount (option value : String)
  deriving DecidableEq, Repr

def UsageError.message : UsageError → String
  | unknown argument => "unexpected argument '" ++ argument ++ "' found"
  | noValue option => "a value is required for '" ++ option ++ "' but none was supplied"
  | notCount option value => "invalid value '" ++ value ++ "' for '" ++ option ++ "'"

def standard : CommandLine := ⟨"sqldrift.toml", none, none, none, false, false, none, true⟩

def count (option value : String) : Except UsageError Nat :=
  match Decimal.readInteger? value.toList with
  | some n => if Width.fitsUnsigned 64 n then .ok n.toNat else .error (.notCount option value)
  | none => .error (.notCount option value)

/-- The flag of this name; none if no flag has it. Progress is never shown, so asking for more of it
changes nothing. -/
def withFlag? (c : CommandLine) : String → Option CommandLine
  | "--path-coverage" => some { c with pathCoverage := true }
  | "--grammar-coverage" => some { c with grammarCoverage := true }
  | "--no-reduce" => some { c with reduce := false }
  | "-v" | "--verbose" => some c
  | _ => none

/-- The option of this name with a value; none if no option has it. -/
def withOption? (c : CommandLine) (option value : String) :
    Option (Except UsageError CommandLine) :=
  match option with
  | "-c" | "--config-file" => some (.ok { c with settingsFile := value })
  | "-o" | "--output-dir" => some (.ok { c with outputDirectory := some value })
  | "-s" | "--seed" => some ((count option value).map fun n => { c with seed := some n })
  | "-t" | "--trials" => some ((count option value).map fun n => { c with trials := some n })
  | "--threads" => some ((count option value).map fun n => { c with workers := some n })
  | _ => none

def parseFrom (c : CommandLine) : List String → Except UsageError CommandLine
  | [] => .ok c
  | [argument] =>
    match c.withFlag? argument, c.withOption? argument "0" with
    | some c, _ => .ok c
    | none, some _ => .error (.noValue argument)
    | none, none => .error (.unknown argument)
  | argument :: value :: rest =>
    match c.withFlag? argument, c.withOption? argument value with
    | some c, _ => parseFrom c (value :: rest)
    | none, some (.ok c) => parseFrom c rest
    | none, some (.error e) => .error e
    | none, none => .error (.unknown argument)

/-- A long option may be joined to its value by an equals sign. -/
def separated (argument : String) : List String :=
  let name := argument.toList.takeWhile (· ≠ '=')
  if name.take 2 = ['-', '-'] ∧ name.length < argument.length then
    [String.ofList name, String.ofList (argument.toList.drop (name.length + 1))]
  else [argument]

def parse (arguments : List String) : Except UsageError CommandLine :=
  parseFrom standard (arguments.flatMap separated)

/-- The directory that paths in the settings start from. -/
def base (c : CommandLine) : String :=
  if c.settingsFile.toList.contains '/' then parentPath c.settingsFile else ""

/-- The settings with the options in their places. -/
def apply (c : CommandLine) (s : Settings) : Settings :=
  { s with
    fuzzing := { s.fuzzing with
      seed := c.seed.getD s.fuzzing.seed
      trials := c.trials.getD s.fuzzing.trials
      workers := c.workers.getD s.fuzzing.workers }
    covering := { s.covering with
      granularity := if c.pathCoverage then .path else s.covering.granularity
      grammarCoverage := c.grammarCoverage || s.covering.grammarCoverage }
    reducing := { s.reducing with enabled := c.reduce && s.reducing.enabled }
    reporting := { s.reporting with
      directory := c.outputDirectory.getD s.reporting.directory } }

end CommandLine

/-- The files that a run reads: databases, queries, and whatever an engine command names. -/
def Settings.files (s : Settings) : List String :=
  s.databases.map (·.path) ++ s.seedQueries ++ s.engines.primary.command ++
    s.engines.reference.command

namespace CommandLine

/-- Puts a file on a disk; a file that starts like a script can be run. -/
def place (path : String) (content : ByteArray) : Action Unit := do
  let l := (← get).lexical path
  Disk.makeDirectories l.dropLast
  Disk.write l content (content.toList.take 2 == "#!".toUTF8.toList)

/-- A disk with programs, room for temporary directories, and the given files. -/
def diskOf (files : List (String × ByteArray)) : Disk :=
  let furnish : Action Unit := do
    Disk.makeDirectories Engine.Command.temporaryRoot
    Shell.install
    files.forM fun (path, content) => place path content
  (furnish.run (.ofTree .empty)).2

/-- The clock of a run shows one microsecond more at each reading. -/
def clock (reading : Nat) : Report.Timestamp :=
  ⟨1970, 1, 1, 0, 0, reading / 1000000, 1000 * (reading % 1000000)⟩

/-- A whole run; the result is its summary and the disk as it is then. -/
def conduct (s : Settings) (d : Disk) : Except Settings.AssemblyError (Run.Summary × Disk) :=
  let search := Shell.standardSearch
  match (s.assemble (Shell.system search) search fun _ => pure ()).run d with
  | (.error e, _) => .error e
  | (.ok f, d) =>
    let machine : Machine Unit := ⟨d, clock, 0, false, ()⟩
    let ((_, summary), state) := f.run ⟨.empty, machine⟩
    .ok (summary, state.world.disk)

/-- The files below a location, by their paths from there. -/
def filesBelow (d : Disk) (l : Location) : List (String × ByteArray) :=
  (d.tree.below l).filterMap fun (m, n) =>
    match n with
    | .file content _ => some ("/".intercalate m, content)
    | .directory => none

def bugLine (s : Run.Summary) (kind : Oracle.VerdictKind) : String :=
  let blanks := String.ofList (List.replicate (16 - kind.label.length) ' ')
  "  " ++ kind.label ++ blanks ++ s!" {s.bugs.get kind.label}"

/-- What is printed at the end of a run. -/
def report (s : Run.Summary) : List String :=
  let seconds := Decimal.fixedText 2 (.ofFloat s.elapsedSeconds)
  let percent := Decimal.fixedText 1 (.ofFloat s.grammarCoverage)
  ["", "Fuzzing " ++ (if s.interrupted then "interrupted" else "finished") ++
      s!" after {s.trialsRun} of {s.trialsRequested} trials in {seconds}s (seed {s.seed}).",
    s!"Candidates: {s.seeded} seeded, {s.generated} generated, {s.mutated} mutated " ++
      s!"({s.fallbacks} mutation fallbacks)",
    s!"Discards: {s.notNovel} not novel, {s.skipped} skipped, " ++
      s!"{s.executionFailures} execution failures",
    s!"Corpus: {s.corpusSize} entries, {s.frontierSize} coverage units, " ++
      s!"grammar coverage {percent}% ({s.rulesCovered} rules)",
    s!"Bugs found: {s.bugsFound}"] ++
  (Oracle.VerdictKind.all.filter (·.isBug)).map (bugLine s) ++
  if s.bundles.isEmpty then ["No reproducer bundles written."]
  else ("Reproducer bundles under " ++ s.outputDirectory ++ ":") :: s.bundles.map ("  " ++ ·)

end CommandLine
end QueryFuzz
