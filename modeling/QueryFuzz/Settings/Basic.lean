import QueryFuzz.Coverage.Signature
import QueryFuzz.Engine.Command
import QueryFuzz.Oracle.Comparison
import QueryFuzz.Run.Fuzzer
import QueryFuzz.Settings.Toml.Reader

/-!
# Settings

The settings of a run, in sections as they are written. Whatever is left out has a standard value;
only the two engines must be given. A field that is unknown, missing or of the wrong kind makes
the whole document unreadable. Databases, seed queries and the output directory are found from
the directory of the settings file.
-/

namespace QueryFuzz

/-- How parents of mutations are chosen. -/
inductive Settings.ParentSelection where
  | uniform
  | rarity
  deriving DecidableEq, Repr

structure Settings.Fuzzing where
  seed : Nat
  trials : Nat
  workers : Nat
  mutationProbability : Float
  leastMutations : Nat
  mostMutations : Nat
  boundaryProbability : Float
  maxDepth : Nat
  parentSelection : Settings.ParentSelection
  /-- The exponent of the hits; without one it depends on the granularity. -/
  rarityExponent : Option Float

inductive Settings.ProbeKind where
  | none
  | traceFile
  | gcov
  deriving DecidableEq, Repr

structure Settings.Covering where
  granularity : Coverage.Granularity
  grammarCoverage : Bool
  probe : Settings.ProbeKind
  /-- The environment variable that names the trace file. -/
  traceVariable : String
  traceFile : String
  gcovObjects : Option String
  gcovSource : Option String
  gcovTool : String

structure Settings.Program where
  command : List String
  version : String

structure Settings.Engines where
  primary : Settings.Program
  reference : Settings.Program
  /-- In milliseconds. -/
  timeout : Nat
  delivery : Engine.Command.Delivery
  okExitCodes : List Int
  wrap : Bool
  separator : String

structure Settings.Judging where
  oracle : Oracle.Config
  confirmCrash : Bool

structure Settings.Reducing where
  enabled : Bool
  maxAttempts : Nat

structure Settings.Reporting where
  directory : String
  writeStatistics : Bool

structure Settings where
  fuzzing : Settings.Fuzzing
  covering : Settings.Covering
  engines : Settings.Engines
  judging : Settings.Judging
  reducing : Settings.Reducing
  reporting : Settings.Reporting
  /-- Files with queries for the first trials. -/
  seedQueries : List String
  databases : List Run.Database

namespace Settings

def Fuzzing.standard : Fuzzing := ⟨0, 1000, 1, 0.5, 1, 3, 0.3, 3, .rarity, none⟩

def Covering.standard : Covering :=
  ⟨.statement, false, .traceFile, "SQLDRIFT_TRACE", "coverage.trace", none, none, "gcov"⟩

def Judging.standard : Judging := ⟨.standard, false⟩

def Reducing.standard : Reducing := ⟨true, 200⟩

def Reporting.standard : Reporting := ⟨"./sqldrift-out", true⟩

/-! ## Reading -/

/-- A choice between named values. -/
def choiceOf? {α : Type} (choices : List (String × α)) (d : Document) : Option α :=
  (d.choice? .toml).bind fun name => choices.lookup name

/-- A field that stays empty when it is absent. -/
def maybe {α : Type} (read? : Document → Option α) : Option Document → Option (Option α) :=
  optional (fun d => (read? d).map some) none

def texts? (d : Document) : Option (List String) := d.listOf? (·.text?)

def ParentSelection.ofDocument? : Document → Option ParentSelection :=
  choiceOf? [("uniform", .uniform), ("rarity", .rarity)]

def ProbeKind.ofDocument? : Document → Option ProbeKind :=
  choiceOf? [("none", .none), ("trace-file", .traceFile), ("gcov", .gcov)]

def granularity? : Document → Option Coverage.Granularity :=
  choiceOf? [("statement", .statement), ("path", .path)]

def delivery? : Document → Option Engine.Command.Delivery :=
  choiceOf? [("std-in", .input), ("file", .file)]

def unorderedLimit? : Document → Option Oracle.UnorderedLimit :=
  choiceOf? [("strict", .strict), ("compare-counts", .compareCounts)]

def Fuzzing.ofDocument? (d : Document) : Option Fuzzing := do
  let standard := Fuzzing.standard
  match ← d.fields? .toml ["seed", "trials", "threads", "mutation-probability", "min-mutations",
    "max-mutations", "boundary-literal-probability", "max-depth", "parent-selection",
    "rarity-exponent"] with
  | [seed, trials, workers, probability, least, most, boundary, depth, selection, exponent] =>
    return {
      seed := ← optional (·.count?) standard.seed seed
      trials := ← optional (·.count?) standard.trials trials
      workers := ← optional (·.count?) standard.workers workers
      mutationProbability := ← optional (·.real?) standard.mutationProbability probability
      leastMutations := ← optional (·.count?) standard.leastMutations least
      mostMutations := ← optional (·.count?) standard.mostMutations most
      boundaryProbability := ← optional (·.real?) standard.boundaryProbability boundary
      maxDepth := ← optional (·.count?) standard.maxDepth depth
      parentSelection :=
        ← optional ParentSelection.ofDocument? standard.parentSelection selection
      rarityExponent := ← maybe (·.real?) exponent }
  | _ => none

def Covering.ofDocument? (d : Document) : Option Covering := do
  let standard := Covering.standard
  match ← d.fields? .toml ["granularity", "grammar-coverage", "probe", "trace-env-var",
    "trace-file", "gcov-object-dir", "gcov-source", "gcov-binary"] with
  | [granularity, grammar, probe, traceVariable, traceFile, objects, source, tool] =>
    return {
      granularity := ← optional granularity? standard.granularity granularity
      grammarCoverage := ← optional (·.boolean?) standard.grammarCoverage grammar
      probe := ← optional ProbeKind.ofDocument? standard.probe probe
      traceVariable := ← optional (·.text?) standard.traceVariable traceVariable
      traceFile := ← optional (·.text?) standard.traceFile traceFile
      gcovObjects := ← maybe (·.text?) objects
      gcovSource := ← maybe (·.text?) source
      gcovTool := ← optional (·.text?) standard.gcovTool tool }
  | _ => none

def Program.ofDocument? (d : Document) : Option Program := do
  match ← d.fields? .toml ["command", "version"] with
  | [command, version] => return ⟨← required texts? command, ← required (·.text?) version⟩
  | _ => none

/-- Exit codes have 32 bits. -/
def exitCode? (d : Document) : Option Int := d.integer? (Width.fitsSigned 32)

def Engines.ofDocument? (d : Document) : Option Engines := do
  match ← d.fields? .toml ["primary", "reference", "timeout-ms", "input-delivery",
    "ok-exit-codes", "wrap-in-transaction", "column-separator"] with
  | [primary, reference, timeout, delivery, codes, wrap, separator] =>
    return {
      primary := ← required Program.ofDocument? primary
      reference := ← required Program.ofDocument? reference
      timeout := ← optional (·.count?) 5000 timeout
      delivery := ← optional delivery? .input delivery
      okExitCodes := ← optional (·.listOf? exitCode?) [0, 1] codes
      wrap := ← optional (·.boolean?) true wrap
      separator := ← optional (·.text?) "|" separator }
  | _ => none

def Judging.ofDocument? (d : Document) : Option Judging := do
  let standard := Oracle.Config.standard
  match ← d.fields? .toml ["float-digits", "unordered-limit", "ignorable-errors",
    "confirm-crash-with-reference"] with
  | [digits, limit, ignorable, confirm] =>
    return {
      oracle := {
        floatDigits := ← optional (·.count?) standard.floatDigits digits
        unorderedLimit := ← optional unorderedLimit? standard.unorderedLimit limit
        ignorableErrors := ← optional texts? standard.ignorableErrors ignorable }
      confirmCrash := ← optional (·.boolean?) Judging.standard.confirmCrash confirm }
  | _ => none

def Reducing.ofDocument? (d : Document) : Option Reducing := do
  let standard := Reducing.standard
  match ← d.fields? .toml ["enabled", "max-attempts"] with
  | [enabled, attempts] =>
    return ⟨← optional (·.boolean?) standard.enabled enabled,
      ← optional (·.count?) standard.maxAttempts attempts⟩
  | _ => none

def Reporting.ofDocument? (d : Document) : Option Reporting := do
  let standard := Reporting.standard
  match ← d.fields? .toml ["output-dir", "write-stats"] with
  | [directory, statistics] =>
    return ⟨← optional (·.text?) standard.directory directory,
      ← optional (·.boolean?) standard.writeStatistics statistics⟩
  | _ => none

/-- The files of the section on the corpus. -/
def seedQueries? (d : Document) : Option (List String) := do
  match ← d.fields? .toml ["seed-queries"] with
  | [files] => optional texts? [] files
  | _ => none

def database? (d : Document) : Option Run.Database := do
  match ← d.fields? .toml ["name", "path", "tables"] with
  | [name, path, tables] =>
    return ⟨← required (·.text?) name, ← required (·.text?) path,
      ← required (Schema.ofDocument? .toml) tables⟩
  | _ => none

def ofDocument? (d : Document) : Option Settings := do
  match ← d.fields? .toml ["fuzzer", "coverage", "engines", "oracle", "reducer", "report",
    "corpus", "seed-databases"] with
  | [fuzzing, covering, engines, judging, reducing, reporting, corpus, databases] =>
    return {
      fuzzing := ← optional Fuzzing.ofDocument? .standard fuzzing
      covering := ← optional Covering.ofDocument? .standard covering
      engines := ← required Engines.ofDocument? engines
      judging := ← optional Judging.ofDocument? .standard judging
      reducing := ← optional Reducing.ofDocument? .standard reducing
      reporting := ← optional Reporting.ofDocument? .standard reporting
      seedQueries := ← optional seedQueries? [] corpus
      databases := ← optional (·.listOf? database?) [] databases }
  | _ => none

/-- The settings with the paths of their files seen from a directory. -/
def resolved (s : Settings) (base : String) : Settings :=
  { s with
    databases := s.databases.map fun db => { db with path := Storage.joinPath base db.path }
    seedQueries := s.seedQueries.map (Storage.joinPath base)
    reporting := { s.reporting with
      directory := Storage.joinPath base s.reporting.directory } }

/-- Reads settings that are written in a file of a directory. -/
def read? (base text : String) : Option Settings :=
  ((Toml.read? text).bind ofDocument?).map (·.resolved base)

/-! ## The parts of a run -/

variable (s : Settings)

/-- Whole paths are rare, so an entry fades faster where they are counted. -/
def rarityExponent : Float :=
  s.fuzzing.rarityExponent.getD
    (match s.covering.granularity with
    | .path => 5.0
    | .statement => 1.0)

def policy : Scheduling.Policy :=
  match s.fuzzing.parentSelection with
  | .uniform => .uniform
  | .rarity => .rarity s.rarityExponent

/-- The probe of the primary engine. Without both of its directories a line report cannot be
made. -/
def probe : Coverage.Probe :=
  match s.covering.probe with
  | .none => .none
  | .traceFile => .traceFile s.covering.traceVariable s.covering.traceFile
  | .gcov =>
    match s.covering.gcovObjects, s.covering.gcovSource with
    | some objects, some source => .gcov objects source s.covering.gcovTool
    | _, _ => .none

def grammar : Grammar.Config :=
  ⟨s.fuzzing.maxDepth, s.fuzzing.boundaryProbability, s.covering.grammarCoverage⟩

def mutator : Mutation.Config :=
  ⟨s.fuzzing.leastMutations, s.fuzzing.mostMutations, s.fuzzing.boundaryProbability⟩

def options : Run.Options :=
  ⟨s.fuzzing.seed, s.fuzzing.trials, s.fuzzing.workers, s.fuzzing.mutationProbability,
    s.covering.granularity, s.covering.grammarCoverage, s.reducing.enabled⟩

/-- How a program is run as an engine. -/
def command (p : Program) : Engine.Command.Config :=
  ⟨p.command, p.version, s.engines.delivery, s.engines.timeout, s.engines.okExitCodes,
    s.engines.wrap, s.engines.separator⟩

end Settings
end QueryFuzz
