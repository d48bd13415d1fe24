import QueryFuzz.Oracle.Comparison
import QueryFuzz.Text.LetterCase

/-!
# Verdicts

What the outcomes of a query on both engines mean. The checks are made in order of severity: a
crash of the primary engine, a hang, a failure of the reference engine, and at last a difference
of results. Where both engines fail alike, nothing is wrong with either.
-/

namespace QueryFuzz
namespace Oracle

inductive VerdictKind where
  | crash
  | hang
  | referenceError
  | logicBug
  | normal
  deriving DecidableEq, Repr

namespace VerdictKind

def all : List VerdictKind := [crash, hang, referenceError, logicBug, normal]

def isBug (k : VerdictKind) : Bool := k ≠ normal

/-- The name in statistics and in the names of bundles. -/
def label : VerdictKind → String
  | crash => "crash"
  | hang => "hang"
  | referenceError => "reference_error"
  | logicBug => "logic_bug"
  | normal => "normal"

/-- The directory that bundles of this kind go into. -/
def category : VerdictKind → String
  | crash => "crashes"
  | hang => "hangs"
  | referenceError => "reference_errors"
  | logicBug => "logic_bugs"
  | normal => "normal"

end VerdictKind

/-- Why nothing is wrong. -/
inductive NormalReason where
  | agreed
  | rejectedByBoth
  /-- An error that stems from differing versions. -/
  | ignoredError
  /-- Both engines ended abnormally. -/
  | sharedFailure
  /-- Only the primary engine ran, without fault. -/
  | unchecked
  deriving DecidableEq, Repr

def NormalReason.label : NormalReason → String
  | agreed => "agreed"
  | rejectedByBoth => "rejected_by_both"
  | ignoredError => "ignored_error"
  | sharedFailure => "shared_failure"
  | unchecked => "unchecked"

structure Verdict where
  kind : VerdictKind
  /-- Only of a normal verdict. -/
  reason : Option NormalReason
  detail : String
  deriving DecidableEq, Repr

namespace Verdict

def bug (kind : VerdictKind) (detail : String) : Verdict := ⟨kind, none, detail⟩

def normal (reason : NormalReason) : Verdict := ⟨.normal, some reason, ""⟩

end Verdict

/-- Does an error text hold one of the fragments, whatever the letter case? -/
def isIgnorable (config : Config) (error : String) : Bool :=
  let lower := Text.lowercase error
  config.ignorableErrors.any fun marker => Text.contains lower (Text.lowercase marker)

/-- Exactly one engine reported an error. -/
def oneSided (config : Config) (side version error : String) : Verdict :=
  if isIgnorable config error then .normal .ignoredError
  else .bug .logicBug
    ("Only the " ++ side ++ " engine " ++ version ++ " reported an error: " ++ error)

/-- Both engines ran to their end. -/
def classifyCompleted (config : Config) (sql : String) (primary reference : Engine.Outcome) :
    Verdict :=
  match primary.error, reference.error with
  | some _, some _ => .normal .rejectedByBoth
  | some e, none => oneSided config "primary" primary.version e
  | none, some e => oneSided config "reference" reference.version e
  | none, none =>
    match compare config sql primary reference with
    | some detail => .bug .logicBug detail
    | none => .normal .agreed

/-- Classifies the outcomes of a query. -/
def classify (config : Config) (sql : String) (o : Engine.DualOutcome) : Verdict :=
  if o.primary.crashed then
    if o.reference.any (!·.completed) then .normal .sharedFailure
    else .bug .crash ("Primary engine " ++ o.primary.version ++ " " ++ o.primary.status.text)
  else if o.primary.timedOut then
    .bug .hang ("Primary engine " ++ o.primary.version ++
      s!" exceeded its timeout after {o.primary.elapsedMs} ms")
  else match o.reference with
    | none => .normal .unchecked
    | some reference =>
      if reference.completed then classifyCompleted config sql o.primary reference
      else .bug .referenceError
        ("Reference engine " ++ reference.version ++ " " ++ reference.status.text)

end Oracle
end QueryFuzz
