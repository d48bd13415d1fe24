import QueryFuzz.Coverage.LineReport
import QueryFuzz.Engine.Execution
import QueryFuzz.Engine.Process
import QueryFuzz.Text.Utf8

/-!
# Coverage probes

A probe learns which units the primary engine covered. Before the engine is started it clears what
an earlier run left behind and may set an environment variable; after the run it reads the units.
An instrumented engine either writes its trace to a file, or leaves counters from which a tool
makes one line report for each source file.
-/

namespace QueryFuzz
namespace Coverage

open Storage Engine

inductive Probe where
  | none
  /-- The engine writes a unit a line to a file whose path it finds in an environment variable. -/
  | traceFile (environment file : String)
  /-- A tool makes line reports from the counters in a directory. -/
  | gcov (objects source tool : String)
  deriving DecidableEq, Repr

abbrev Probing := ExceptT ProbeError (StateM Disk)

/-- The names in a directory that have an extension. -/
def namesWith (ext : String) (names : List String) : List String :=
  names.filter fun name => (splitExtension name).2 == some ext

/-- Takes a failure that nothing was there for a value. -/
def ifMissing {α : Type} (value : α) (action : Action α) : Probing α := fun d =>
  match action d with
  | (.ok a, d) => (.ok a, d)
  | (.error .missing, d) => (.ok value, d)
  | (.error e, d) => (.error (.storage e), d)

/-- The path of the trace file, seen from a working directory. -/
def tracePath (directory : Location) (file : String) : String :=
  joinPath directory.path file

/-- The units of a trace, one a line. -/
def traceUnits (text : String) : List String :=
  ((Text.lines text).map Text.trim).filter (· ≠ "")

namespace Probe

def name : Probe → String
  | none => "none"
  | traceFile .. => "trace-file"
  | gcov .. => "gcov"

/-- Prepares a run in a working directory; the result is the environment of the engine. -/
def prepare (directory : Location) : Probe → Probing (List (String × String))
  | none => return []
  | traceFile var file => do
    let path := tracePath directory file
    ifMissing () do Disk.removeFile (← Disk.locate path)
    return [(var, path)]
  | gcov objects _ _ => do
    let l ← (Disk.locate objects).adapt .storage
    let names ← (Disk.list l).adapt .storage
    (namesWith "gcda" names).forM fun name => (Disk.removeFile (l ++ [name])).adapt .storage
    return []

/-- The units that the last run covered. Their order matters only for whole paths. -/
def collect (system : System) (directory : Location) : Probe → Probing (List String)
  | none => return []
  | traceFile _ file =>
    ifMissing [] do
      return traceUnits (← Disk.readText (← Disk.locate (tracePath directory file)))
  | gcov objects source tool => do
    let done ← (system ⟨tool, ["-o", objects, source], directory, [], .empty, .none⟩).adapt .storage
    if done.ending ≠ .exited 0 then
      throw (.toolFailed tool (Text.trim (Text.decodeUtf8 done.stderr)))
    let names ← (Disk.list directory).adapt .storage
    let units ← (namesWith "gcov" names).mapM fun name => do
      let report ← (Disk.readText (directory ++ [name])).adapt .storage
      return executedLines (splitExtension name).1 report
    return units.flatten.mergeSort (· ≤ ·)

end Probe
end Coverage
end QueryFuzz
