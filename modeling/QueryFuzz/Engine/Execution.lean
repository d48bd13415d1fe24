import QueryFuzz.Engine.Outcome
import QueryFuzz.Storage.Disk

/-!
# Executions

An engine runs one query at a time on a copy of a database. What engines keep between runs, and
whatever else they touch, is the state `σ`. A crash or a timeout is an outcome; an error means
that the run could not take place or was abandoned.
-/

namespace QueryFuzz
namespace Engine

/-- Why the coverage of an execution could not be collected. -/
inductive ProbeError where
  | storage (failure : Storage.Failure)
  | toolFailed (tool message : String)
  deriving DecidableEq, Repr

def ProbeError.message : ProbeError → String
  | storage failure => "Coverage probe I/O error: " ++ failure.message
  | toolFailed tool message => "Coverage tool '" ++ tool ++ "' failed: " ++ message

inductive ExecutionError where
  | emptyCommand
  /-- The working directory could not be prepared. -/
  | workspace (failure : Storage.Failure)
  | snapshot (path : String) (failure : Storage.Failure)
  | spawn (command : String) (failure : Storage.Failure)
  | probe (name : String) (error : ProbeError)
  | cancelled
  deriving DecidableEq, Repr

def ExecutionError.message : ExecutionError → String
  | emptyCommand => "Engine command is empty"
  | workspace failure => "Failed to prepare working directory: " ++ failure.message
  | snapshot path failure =>
    "Failed to copy database snapshot " ++ path ++ ": " ++ failure.message
  | spawn command failure =>
    "Failed to spawn command '" ++ command ++ "': " ++ failure.message
  | probe name error => "Coverage probe '" ++ name ++ "' failed: " ++ error.message
  | cancelled => "Execution cancelled"

structure Request where
  sql : String
  /-- The file of the database. -/
  snapshot : String
  deriving DecidableEq, Repr

end Engine

abbrev Engine.Execution (σ α : Type) := ExceptT Engine.ExecutionError (StateM σ) α

structure Engine (σ : Type) where
  version : String
  execute : Engine.Request → Engine.Execution σ Engine.Outcome

namespace Engine

variable {σ : Type}

/-- What an engine inside the process answers. -/
inductive Answer where
  | rows (rows : List Row)
  | error (message : String)
  | panic (message : String)
  deriving DecidableEq, Repr

/-- An outcome before anything is known of it but the engine. -/
def Outcome.blank (version : String) : Outcome :=
  ⟨version, .exited 0, false, false, none, none, "", "", 0, []⟩

def Outcome.ofAnswer (version : String) (answer : Answer) (coverage : List String) : Outcome :=
  let blank := { Outcome.blank version with coverage := coverage }
  match answer with
  | .rows rows => { blank with rows := some rows }
  | .error message =>
    { blank with status := .exited 1, stderr := message, error := some message }
  | .panic message => { blank with status := .panicked message, crashed := true }

/-- An engine that is a function from queries to answers and covered units. -/
def inProcess (version : String) (isCancelled : σ → Bool)
    (harness : String → StateM σ (Answer × List String)) : Engine σ where
  version := version
  execute request := do
    if isCancelled (← get) then throw .cancelled
    let (answer, coverage) ← harness request.sql
    return .ofAnswer version answer coverage

/-- Two engines that run the same queries. -/
structure Pair (σ : Type) where
  primary : Engine σ
  reference : Engine σ
  /-- Run the reference engine also after a crash of the primary one. -/
  confirmCrash : Bool

/-- Is a run of the reference engine pointless after this outcome? -/
def Pair.skipsReference (p : Pair σ) (primary : Outcome) : Bool :=
  primary.timedOut || (primary.crashed && !p.confirmCrash)

/-- Runs a query on the primary engine, then on the reference engine. -/
def Pair.run (p : Pair σ) (request : Request) : Execution σ DualOutcome := do
  let primary ← p.primary.execute request
  if p.skipsReference primary then return ⟨primary, none⟩
  return ⟨primary, some (← p.reference.execute request)⟩

end Engine
end QueryFuzz
