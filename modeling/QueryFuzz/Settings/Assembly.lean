import QueryFuzz.Report.Sink
import QueryFuzz.Run.Statistics
import QueryFuzz.Settings.Validation

/-!
# From settings to a run

Checked settings and the files they name make up a fuzzer whose engines are programs. Its seed
queries are the statements of the query files; a file that cannot be parsed counts as one query.
-/

namespace QueryFuzz
namespace Settings

open Storage

/-- Why a run could not be set up. -/
inductive AssemblyError where
  | setup (e : SetupError)
  | seedQuery (path : String) (failure : Failure)
  deriving DecidableEq, Repr

def AssemblyError.message : AssemblyError → String
  | setup e => "Setup failed: " ++ e.message
  | seedQuery path failure =>
    "Failed to read seed query file " ++ Text.quoted path ++ ": " ++ failure.message

/-- The queries in the text of a query file. -/
def splitQueries (text : String) : List String :=
  match Sql.parseScript text with
  | .ok statements => (statements.map Sql.Statement.render).filter (· ≠ "")
  | .error _ => [Text.trim text].filter (· ≠ "")

/-- Reads the queries of all query files. -/
def readQueries : List String → ExceptT AssemblyError (StateM Disk) (List String)
  | [] => return []
  | path :: paths => do
    let text ← ExceptT.adapt (.seedQuery path) do Disk.readText (← Disk.locate path)
    return splitQueries text ++ (← readQueries paths)

/-- A fuzzer whose engines are run by a system. -/
def fuzzer {ε : Type} (s : Settings) (system : Engine.System) (disk : Disk)
    (seedQueries : List String) (observe : Run.Trial → StateM (Machine ε) Unit) :
    Run.Fuzzer (Machine ε) where
  options := s.options
  databases := s.databases
  seedQueries := seedQueries
  grammar := s.grammar
  mutator := s.mutator
  policy := s.policy
  oracle := s.judging.oracle
  maxAttempts := s.reducing.maxAttempts
  engines :=
    ⟨Engine.Command.engine (s.command s.engines.primary) system s.probe,
      Engine.Command.engine (s.command s.engines.reference) system .none, s.judging.confirmCrash⟩
  isStopped := (·.stopped)
  now := Machine.now
  file := Report.fileOn (disk.lexical s.reporting.directory)
  observe := observe
  outputDirectory := s.reporting.directory

/-- Checks settings and makes the fuzzer they describe. -/
def assemble {ε : Type} (s : Settings) (system : Engine.System) (search : List String)
    (observe : Run.Trial → StateM (Machine ε) Unit) :
    ExceptT AssemblyError (StateM Disk) (Run.Fuzzer (Machine ε)) := do
  let disk ← get
  match s.validate disk search with
  | .error e => throw (.setup e)
  | .ok () => return s.fuzzer system disk (← readQueries s.seedQueries) observe

/-- Writes the statistics of a run if they are wanted. -/
def saveStatistics (s : Settings) (summary : Run.Summary) : Action Unit := do
  if s.reporting.writeStatistics then
    summary.save ((← get).lexical s.reporting.directory)

end Settings
end QueryFuzz
