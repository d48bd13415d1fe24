import QueryFuzz.Engine.Execution
import QueryFuzz.Grammar.Generator
import QueryFuzz.Mutation.Mutator
import QueryFuzz.Reduction
import QueryFuzz.Run.Summary
import QueryFuzz.Scheduling

/-!
# Fuzzing runs

A trial produces a candidate, runs it on both engines, judges the outcomes, and either offers the
candidate to the corpus or reduces it and files a bug report. Each trial draws from a source of
its own, so a sequential run is determined by its seed, its settings and what the engines do. A
trial that is cut short by a stop is abandoned and leaves no record.
-/

namespace QueryFuzz
namespace Run

open Draw (Sampling Source)

/-- A database that candidates run on. -/
structure Database where
  name : String
  path : String
  schema : Schema
  deriving DecidableEq

structure Options where
  seed : Nat
  trials : Nat
  /-- With one worker or none the trials run one after the other. -/
  workers : Nat
  mutationProbability : Float
  granularity : Coverage.Granularity
  grammarCoverage : Bool
  reduce : Bool

structure Fuzzer (σ : Type) where
  options : Options
  databases : List Database
  seedQueries : List String
  grammar : Grammar.Config
  mutator : Mutation.Config
  policy : Scheduling.Policy
  oracle : Oracle.Config
  /-- How many variants the reduction of one bug may try. -/
  maxAttempts : Nat
  engines : Engine.Pair σ
  isStopped : σ → Bool
  now : StateM σ Report.Timestamp
  /-- Writes a report; none if it could not be written. -/
  file : Report.BugReport → StateM σ (Option Report.BundlePath)
  /-- Is told of every completed trial. -/
  observe : Trial → StateM σ Unit
  outputDirectory : String

/-- What a run changes: its corpus, and all that the engines touch. -/
structure State (σ : Type) where
  corpus : Corpus
  world : σ

/-- How many entries at most are offered to a mutation for its splices. -/
def maxDonors : Nat := 8

/-- A parent and the donors of its mutation. -/
structure Plan where
  parent : Corpus.Entry
  donors : List Corpus.Entry

/-- A produced candidate. -/
structure Product where
  source : TrialSource
  candidate : Candidate
  fallback : Bool

namespace Fuzzer

variable {σ : Type} (f : Fuzzer σ)

/-- Draws one donor of a corpus. -/
def donor (corpus : Corpus) (_ : Nat) : Sampling (Option Corpus.Entry) := do
  return (corpus.get (← Sampling.index "donor" corpus.size)).toOption

/-- Chooses a parent and donors if the trial is to mutate. -/
def plan (corpus : Corpus) : Sampling (Option Plan) := do
  match ← Scheduling.chooseStrategy corpus f.options.mutationProbability with
  | .generate => return none
  | .mutate =>
    match ← Scheduling.next f.policy corpus with
    | .error _ => return none
    | .ok index =>
      match corpus.get index with
      | .error _ => return none
      | .ok parent =>
        let donors ← (List.range (min maxDonors corpus.size)).mapM (donor corpus)
        return some ⟨parent, donors.filterMap id⟩

/-- Carries out a plan; none if no mutation took effect. -/
def mutant (p : Plan) (s : Source) : Option Candidate × Source :=
  match f.databases[p.parent.candidate.database]? with
  | none => (none, s)
  | some db =>
    Mutation.mutate f.mutator p.parent.candidate p.parent.id db.schema
      (p.donors.map (·.candidate.sql)) s

/-- Generates a candidate for a database drawn at random. -/
def generated (corpus : Corpus) (s : Source) : Except Grammar.Failure Candidate × Source :=
  let frontier := if f.options.grammarCoverage then corpus.grammarFrontier else .empty
  let (index, s) := s.sample (Sampling.index "database" f.databases.length)
  match f.databases[index]? with
  | none => (.error (.noUsableTable index), s)
  | some db => Grammar.generate f.grammar index db.schema frontier s

/-- A mutation if one is due and takes effect, else a generated candidate. -/
def invented (corpus : Corpus) (s : Source) : Except Grammar.Failure Product :=
  let (plan, s) := s.sample (f.plan corpus)
  match plan with
  | none => (f.generated corpus s).1.map fun c => ⟨.generate, c, false⟩
  | some p =>
    match f.mutant p s with
    | (some c, _) => .ok ⟨.mutate, c, false⟩
    | (none, s) => (f.generated corpus s).1.map fun c => ⟨.generate, c, true⟩

/-- The candidate of a trial. The first trials take the seed queries, which go round the
databases. -/
def produce (corpus : Corpus) (index : Nat) : Except Grammar.Failure Product :=
  let s := Source.ofSeed f.options.seed index
  match f.seedQueries[index]? with
  | some sql => .ok ⟨.seed, (Candidate.ofSeed sql (index % max f.databases.length 1) s).1, false⟩
  | none => f.invented corpus s

/-- Runs a variant of a failing query for the reduction. The flag tells that a run was
cancelled. -/
def reproduce (db : Database) (sql : String) :
    StateM (σ × Bool) (Option Oracle.VerdictKind) := fun (world, cancelled) =>
  match f.engines.run ⟨sql, db.path⟩ world with
  | (.ok outcome, world) => (some (Oracle.classify f.oracle sql outcome).kind, world, cancelled)
  | (.error .cancelled, world) => (none, world, true)
  | (.error _, world) => (none, world, cancelled)

/-- The smaller text of a failing query; none if the run was stopped meanwhile. -/
def reduced (db : Database) (sql : String) (kind : Oracle.VerdictKind) :
    StateM σ (Option String) := fun world =>
  if !f.options.reduce then (some sql, world)
  else
    let (result, world, cancelled) :=
      Reduction.reduce f.maxAttempts sql kind (f.reproduce db) (world, false)
    (if cancelled || f.isStopped world then none else some result.sql, world)

/-- Reduces a failing candidate and files a report. Without a result the trial is abandoned. -/
def fileBug (db : Database) (candidate : Candidate) (verdict : Oracle.Verdict)
    (outcome : Engine.DualOutcome) : StateM σ (Option Disposition) := do
  match ← f.reduced db candidate.sql verdict.kind with
  | none => return none
  | some sql =>
    let report : Report.BugReport :=
      ⟨verdict.kind, verdict.detail, candidate, candidate.reduced sql, db.path,
        f.engines.primary.version, f.engines.reference.version, ← f.now, outcome⟩
    return some (.reported verdict.kind (← f.file report))

/-- Offers a candidate with nothing wrong to the corpus. -/
def offer (candidate : Candidate) (trace : List String) : StateM (State σ) Disposition :=
  fun s =>
    let signature := (Coverage.Signature.ofTrace f.options.granularity trace).withRules
      candidate.rules
    let (entry, corpus) := s.corpus.submit candidate signature
    (match entry with | some id => .admitted id | none => .notNovel, { s with corpus := corpus })

/-- Runs something that leaves the corpus alone. -/
def inWorld {α : Type} (action : StateM σ α) : StateM (State σ) α := fun s =>
  let (a, world) := action s.world
  (a, { s with world := world })

/-- What becomes of a candidate after its execution. -/
def judge (db : Database) (t : Trial) (candidate : Candidate) (outcome : Engine.DualOutcome) :
    StateM (State σ) (Option Trial) := do
  let verdict := Oracle.classify f.oracle candidate.sql outcome
  let t := { t with verdict := some verdict.kind, reason := verdict.reason }
  if verdict.kind.isBug then
    return (← inWorld (f.fileBug db candidate verdict outcome)).map
      fun d => { t with disposition := d }
  else return some { t with disposition := ← f.offer candidate outcome.primary.coverage }

/-- Runs the candidate of a trial. -/
def conduct (index : Nat) (p : Product) : StateM (State σ) (Option Trial) := do
  let t : Trial := ⟨index, p.source, p.fallback, some p.candidate, none, none, .notNovel⟩
  match f.databases[p.candidate.database]? with
  | none =>
    return some { t with disposition := .skipped s!"no seed database {p.candidate.database}" }
  | some db =>
    match ← inWorld (f.engines.run ⟨p.candidate.sql, db.path⟩) with
    | .error .cancelled => return none
    | .error e => return some { t with disposition := .executionFailed e.message }
    | .ok outcome => f.judge db t p.candidate outcome

/-- One trial; none if it was abandoned. -/
def trial (index : Nat) : StateM (State σ) (Option Trial) := do
  let s ← get
  if f.isStopped s.world then return none
  match f.produce s.corpus index with
  | .error e => return some ⟨index, .generate, false, none, none, none, .skipped e.message⟩
  | .ok p => f.conduct index p

/-- The trials from an index on, one after the other, until one is abandoned. -/
def sequential (index : Nat) : Nat → StateM (State σ) (List Trial)
  | 0 => return []
  | remaining + 1 => do
    match ← f.trial index with
    | none => return []
    | some t =>
      inWorld (f.observe t)
      return t :: (← sequential (index + 1) remaining)

/-- The trials of several workers. At each step the schedule names a worker and the index it
takes; a worker that abandoned a trial takes no other. -/
def scheduled (schedule : Nat → Nat × Nat) (gone : List Nat) (step : Nat) :
    Nat → StateM (State σ) (List (Nat × Trial))
  | 0 => return []
  | remaining + 1 => do
    let (worker, index) := schedule step
    if gone.contains worker then scheduled schedule gone (step + 1) remaining
    else
      match ← f.trial index with
      | none => scheduled schedule (worker :: gone) (step + 1) remaining
      | some t =>
        inWorld (f.observe t)
        return (worker, t) :: (← scheduled schedule gone (step + 1) remaining)

/-- The summaries of the workers, added up. -/
def mergedSummary (workers : Nat) (trials : List (Nat × Trial)) : Summary :=
  (List.range workers).foldl (fun merged worker =>
    merged.merge (.ofTrials f.outputDirectory
      ((trials.filter (·.1 == worker)).map (·.2)))) (.start f.outputDirectory)

/-- A summary with what is known at the end of the run. -/
def complete (summary : Summary) (s : State σ) : Summary :=
  { summary with
    seed := f.options.seed
    trialsRequested := f.options.trials
    interrupted := summary.trialsRun < f.options.trials && f.isStopped s.world
    corpusSize := s.corpus.size
    frontierSize := s.corpus.frontier.size
    rulesCovered := s.corpus.grammarFrontier.size
    grammarCoverage := Grammar.coverage s.corpus.grammarFrontier }

/-- All trials of a run, in the order they were completed, and the summary. -/
def run : StateM (State σ) (List Trial × Summary) := do
  let workers := f.options.workers
  if workers ≤ 1 then
    let trials ← f.sequential 0 f.options.trials
    return (trials, f.complete (.ofTrials f.outputDirectory trials) (← get))
  else
    let trials ← f.scheduled (fun step => (step % workers, step)) [] 0 f.options.trials
    return (trials.map (·.2), f.complete (f.mergedSummary workers trials) (← get))

end Fuzzer
end Run
end QueryFuzz
