import QueryFuzz.Candidate
import QueryFuzz.Report.Sink

/-!
# Trials

What is recorded of a trial: where its candidate came from, what the verdict was and what became
of the candidate. Every completed trial ends in exactly one disposition.
-/

namespace QueryFuzz
namespace Run

inductive TrialSource where
  | seed
  | generate
  | mutate
  deriving DecidableEq, Repr

def TrialSource.name : TrialSource → String
  | seed => "seed"
  | generate => "generate"
  | mutate => "mutate"

inductive Disposition where
  /-- Nothing wrong and something new covered: the candidate is an entry of the corpus. -/
  | admitted (entry : Nat)
  /-- Nothing wrong and nothing new. -/
  | notNovel
  /-- A bug; without a bundle if it could not be written. -/
  | reported (kind : Oracle.VerdictKind) (bundle : Option Report.BundlePath)
  /-- There was no candidate, or no database for it. -/
  | skipped (reason : String)
  /-- The engines could not be run. -/
  | executionFailed (reason : String)
  deriving DecidableEq, Repr

structure Trial where
  index : Nat
  source : TrialSource
  /-- A mutation was due but came to nothing, so the candidate was generated. -/
  fallback : Bool
  candidate : Option Candidate
  verdict : Option Oracle.VerdictKind
  reason : Option Oracle.NormalReason
  disposition : Disposition
  deriving DecidableEq

end Run
end QueryFuzz
