import QueryFuzz.Candidate
import QueryFuzz.Coverage.Digest
import QueryFuzz.Oracle.Verdict
import QueryFuzz.Report.Timestamp

/-!
# Bug reports

A bug together with everything needed to see it again: the query as found and as reduced, the
database it was run on and what both engines did with it. The description is the text that a
person reads first.
-/

namespace QueryFuzz
namespace Report

structure BugReport where
  kind : Oracle.VerdictKind
  detail : String
  /-- The candidate that showed the bug. -/
  found : Candidate
  reduced : Candidate
  /-- The file of the database that the query was run on. -/
  snapshot : String
  engineVersion : String
  referenceVersion : String
  time : Timestamp
  outcome : Engine.DualOutcome

/-- A text as part of a file name: only plain letters, digits, points, dashes and underscores. -/
def pathComponent (text : String) : String :=
  let keep := fun c : Char => c.isAlphanum || c == '.' || c == '-' || c == '_'
  let cleaned := text.toList.map fun c => if keep c then c else '_'
  if cleaned.all (· == '.') then "unknown" else String.ofList cleaned

def title : Oracle.VerdictKind → String
  | .crash => "Crash"
  | .hang => "Hang"
  | .referenceError => "Reference engine failure"
  | .logicBug => "Logic bug"
  | .normal => "Normal execution"

/-- One section about what an engine did. -/
def outcomeSection (heading : String) (o : Engine.Outcome) : String :=
  "## " ++ heading ++ " (" ++ o.version ++ ")\n\n" ++
    "- Status: " ++ o.status.text ++ "\n" ++
    s!"- Elapsed: {o.elapsedMs} ms\n" ++
    (match o.rows with | some rows => s!"- Rows: {rows.length}\n" | none => "") ++
    (match o.error with | some e => "- Error: " ++ e ++ "\n" | none => "") ++ "\n"

/-- A section with a query in it. -/
def querySection (heading sql : String) : String :=
  "## " ++ heading ++ "\n\n```sql\n" ++ sql ++ "\n```\n\n"

/-- Where the candidate came from. -/
def originLines (c : Candidate) : String :=
  "- Origin: " ++ c.origin.name ++ "\n" ++
    s!"- Seed: {c.seed} (trial stream {c.stream})\n" ++
    (match c.parent with | some id => s!"- Parent corpus entry: {id}\n" | none => "") ++
    (if c.operators.isEmpty then ""
    else "- Mutation operators: " ++ ", ".intercalate c.operators ++ "\n")

namespace BugReport

/-- A digest of the reduced query, by which bundles of the same bug are recognised. -/
def fingerprint (r : BugReport) : String := Coverage.digest r.reduced.sql

/-- The directory name of the bundle. -/
def bundleName (r : BugReport) : String :=
  r.kind.label ++ "_" ++ pathComponent r.engineVersion ++ "_" ++ r.time.compact

def description (r : BugReport) : String :=
  "# " ++ title r.kind ++ " in " ++ r.engineVersion ++ "\n\n" ++
    "- Kind: " ++ r.kind.label ++ "\n" ++
    "- Engine version: " ++ r.engineVersion ++ "\n" ++
    "- Reference version: " ++ r.referenceVersion ++ "\n" ++
    "- Found: " ++ r.time.standard ++ "\n" ++
    "- Fingerprint: " ++ r.fingerprint ++ "\n" ++
    originLines r.found ++
    "\n## Description\n\n" ++ r.detail ++ "\n\n" ++
    querySection "Reduced query" r.reduced.sql ++
    querySection "Original query" r.found.sql ++
    outcomeSection "Primary engine" r.outcome.primary ++
    (match r.outcome.reference with
      | some o => outcomeSection "Reference engine" o
      | none => "## Reference engine\n\nNot run.\n\n") ++
    "## Reproduce\n\nRun `reduced_test.sql` against a copy of `test.db` " ++
    "with both engine versions.\n"

end BugReport
end Report
end QueryFuzz
