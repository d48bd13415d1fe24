import QueryFuzz.Coverage.Probe
import QueryFuzz.Engine.Exchange
import QueryFuzz.Engine.Machine

/-!
# Engines that are programs

A program is started once for each query, in a temporary directory with a copy of the database in
it. The query reaches it through its input or through a file. Exit codes outside of an accepted
set count as crashes, text on the error output as an error, and a run that is too long, or whose
output stays open for too long, as a timeout.
-/

namespace QueryFuzz
namespace Engine
namespace Command

open Storage

/-- How a query reaches the program. -/
inductive Delivery where
  | input
  | file
  deriving DecidableEq, Repr

structure Config where
  /-- The program and its arguments, with marks for the paths of the database and the query. -/
  command : List String
  version : String
  delivery : Delivery
  /-- In milliseconds. -/
  timeout : Nat
  okExitCodes : List Int
  wrap : Bool
  separator : String
  deriving DecidableEq, Repr

def databaseFile : String := "test.db"

def queryFile : String := "query.sql"

/-- Where temporary directories are made. -/
def temporaryRoot : Location := ["tmp"]

/-- The time that output is given to close after a program has ended, in milliseconds. -/
def grace : Nat := 100

namespace Config

variable (c : Config)

/-- The text that is sent to the program. -/
def script (sql : String) : String :=
  if c.wrap then wrapInTransaction sql else sql ++ "\n"

/-- An argument with the paths in place of their marks. -/
def substituted (directory : Location) (argument : String) : String :=
  Text.replaceAll
    (Text.replaceAll argument "\x7bdb\x7d" (Location.path (directory ++ [databaseFile])))
    "\x7bquery\x7d" (Location.path (directory ++ [queryFile]))

def invocation? (directory : Location) (script : String) : Option Invocation :=
  match c.command.map (substituted directory) with
  | [] => none
  | program :: arguments =>
    some ⟨program, arguments, directory, [],
      if c.delivery = .input then script.toUTF8 else .empty, some c.timeout⟩

def timedOut (elapsed : Nat) : Outcome :=
  { Outcome.blank c.version with status := .timedOut, timedOut := true, elapsedMs := elapsed }

/-- Did the run or its output take too long? -/
def overran (done : Completion) : Bool :=
  done.ending = .overran || max c.timeout (done.elapsed + grace) < done.closed

/-- The outcome of a run that ended in time. -/
def outcome (done : Completion) (status : Status) (coverage : List String) : Outcome :=
  let stdout := Text.decodeUtf8 done.stdout
  let stderr := Text.decodeUtf8 done.stderr
  let crashed := match status with
    | .exited code => !c.okExitCodes.contains code
    | _ => true
  let error := if Text.trim stderr = "" then none else some (Text.trim stderr)
  let rows := if crashed || error.isSome then none else some (parseRows stdout c.separator)
  ⟨c.version, status, crashed, false, rows, error, stdout, stderr, done.elapsed, coverage⟩

end Config

abbrev Running := ExceptT ExecutionError (StateM Disk)

variable (c : Config) (system : System) (probe : Coverage.Probe)

/-- What is prepared in the working directory before the start. -/
def prepare (request : Request) (directory : Location) : Running Invocation := do
  let copy : Action Unit := do
    Disk.copy (← Disk.locate request.snapshot) (directory ++ [databaseFile])
  copy.adapt (.snapshot request.snapshot)
  let script := c.script request.sql
  if c.delivery = .file then
    (Disk.writeText (directory ++ [queryFile]) script).adapt .workspace
  match c.invocation? directory script with
  | none => throw .emptyCommand
  | some invocation =>
    let environment ← (probe.prepare directory).adapt (.probe probe.name)
    return { invocation with environment := environment }

/-- Runs a query in a working directory. -/
def runIn (isCancelled : Bool) (request : Request) (directory : Location) : Running Outcome := do
  let invocation ← prepare c probe request directory
  let done ← (system invocation).adapt (.spawn (" ".intercalate c.command))
  if isCancelled then throw .cancelled
  if c.overran done then return c.timedOut done.elapsed
  let status := match done.ending with
    | .exited code => .exited code
    | .signaled signal => .signaled signal
    | .overran => .timedOut
  let coverage ← (probe.collect system directory).adapt (.probe probe.name)
  return c.outcome done status coverage

/-- The engine that runs a command on a machine. -/
def engine {ε : Type} : Engine (Machine ε) where
  version := c.version
  execute request := fun m =>
    Machine.onDisk (Disk.withTemporary temporaryRoot "exec-" .workspace
      (runIn c system probe m.stopped request)) m

end Command
end Engine
end QueryFuzz
