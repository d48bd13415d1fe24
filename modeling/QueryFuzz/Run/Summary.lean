import QueryFuzz.Run.Tally
import QueryFuzz.Run.Trial

/-!
# Run summaries

The counts of a run. A summary grows by one trial at a time; the summaries of several workers add
up to that of the run.
-/

namespace QueryFuzz
namespace Run

structure Summary where
  seed : Nat
  trialsRequested : Nat
  trialsRun : Nat
  interrupted : Bool
  seeded : Nat
  generated : Nat
  mutated : Nat
  fallbacks : Nat
  admitted : Nat
  notNovel : Nat
  skipped : Nat
  executionFailures : Nat
  /-- Bugs by the label of their kind. -/
  bugs : Tally
  /-- Other verdicts by the label of their reason. -/
  normal : Tally
  corpusSize : Nat
  frontierSize : Nat
  rulesCovered : Nat
  grammarCoverage : Float
  outputDirectory : String
  /-- Paths of the bundles that were written. -/
  bundles : List String
  elapsedSeconds : Float

namespace Summary

/-- The summary of a run that reports to a directory, before its first trial. -/
def start (outputDirectory : String) : Summary :=
  ⟨0, 0, 0, false, 0, 0, 0, 0, 0, 0, 0, 0, .empty, .empty, 0, 0, 0, 0.0, outputDirectory, [], 0.0⟩

def bugsFound (s : Summary) : Nat := s.bugs.total

/-- Trials that ended in an admission, a rejection, a skip, a failure or a bug. -/
def accounted (s : Summary) : Nat :=
  s.admitted + s.notNovel + s.skipped + s.executionFailures + s.bugsFound

def countSource (s : Summary) : TrialSource → Summary
  | .seed => { s with seeded := s.seeded + 1 }
  | .generate => { s with generated := s.generated + 1 }
  | .mutate => { s with mutated := s.mutated + 1 }

def countDisposition (s : Summary) : Disposition → Summary
  | .admitted _ => { s with admitted := s.admitted + 1 }
  | .notNovel => { s with notNovel := s.notNovel + 1 }
  | .reported kind bundle =>
    { s with
      bugs := s.bugs.add kind.label 1
      bundles := s.bundles ++
        (bundle.map fun p => Storage.joinPath s.outputDirectory p.text).toList }
  | .skipped _ => { s with skipped := s.skipped + 1 }
  | .executionFailed _ => { s with executionFailures := s.executionFailures + 1 }

def countReason (s : Summary) : Option Oracle.NormalReason → Summary
  | some reason => { s with normal := s.normal.add reason.label 1 }
  | none => s

def record (s : Summary) (t : Trial) : Summary :=
  let counted := ((s.countSource t.source).countReason t.reason).countDisposition t.disposition
  { counted with
    trialsRun := s.trialsRun + 1
    fallbacks := s.fallbacks + if t.fallback then 1 else 0 }

/-- The counts of both; all else is that of the first. -/
def merge (s t : Summary) : Summary :=
  { s with
    trialsRun := s.trialsRun + t.trialsRun
    seeded := s.seeded + t.seeded
    generated := s.generated + t.generated
    mutated := s.mutated + t.mutated
    fallbacks := s.fallbacks + t.fallbacks
    admitted := s.admitted + t.admitted
    notNovel := s.notNovel + t.notNovel
    skipped := s.skipped + t.skipped
    executionFailures := s.executionFailures + t.executionFailures
    bugs := s.bugs.merge t.bugs
    normal := s.normal.merge t.normal
    bundles := s.bundles ++ t.bundles }

def ofTrials (outputDirectory : String) (trials : List Trial) : Summary :=
  trials.foldl record (start outputDirectory)

end Summary
end Run
end QueryFuzz
