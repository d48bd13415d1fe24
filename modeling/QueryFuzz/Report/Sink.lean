import QueryFuzz.Engine.Machine
import QueryFuzz.Report.BugReport

/-!
# Filing bug reports

A report is filed as a bundle: a directory with the description, both queries, a copy of the
database and the version of the engine. A bundle is put together in a staging directory beside the
categories and then moved to its name in one step, so a reader sees all of it or nothing. A name
that is taken gets a number behind it.
-/

namespace QueryFuzz
namespace Report

open Storage

/-- Where a bundle is kept below the root of all reports. -/
structure BundlePath where
  version : String
  category : String
  name : String
  deriving DecidableEq, Repr

namespace BundlePath

def location (root : Location) (p : BundlePath) : Location :=
  root ++ [p.version, p.category, p.name]

def text (p : BundlePath) : String :=
  p.version ++ "/" ++ p.category ++ "/" ++ p.name

end BundlePath

/-- Why a report was not filed. -/
inductive FilingError where
  | storage (failure : Failure)
  | notABug (kind : Oracle.VerdictKind)
  /-- Every name that was tried is taken. -/
  | nameExhausted (base : BundlePath)
  deriving DecidableEq, Repr

def FilingError.message : FilingError → String
  | storage failure => "Failed to write bundle file: " ++ failure.message
  | notABug kind => "A " ++ kind.label ++ " report cannot be filed, it is not a bug"
  | nameExhausted base => "Could not find a free bundle name for " ++ Text.quoted base.text

abbrev Filing := ExceptT FilingError (StateM Disk)

/-- How many names are tried for one bundle. -/
def maxNames : Nat := 1000

namespace BugReport

/-- The text files of a bundle, by name. -/
def textFiles (r : BugReport) : List (String × String) :=
  [("README.md", r.description), ("original_test.sql", r.found.sql ++ "\n"),
    ("reduced_test.sql", r.reduced.sql ++ "\n"), ("version.txt", r.engineVersion ++ "\n")]

/-- The name under which the database is copied. -/
def databaseFile : String := "test.db"

/-- The name that is tried after a number of taken ones. -/
def bundlePath (r : BugReport) (taken : Nat) : BundlePath :=
  ⟨pathComponent r.engineVersion, r.kind.category,
    if taken = 0 then r.bundleName else r.bundleName ++ "_" ++ toString taken⟩

/-- Puts the files of the bundle into a directory. -/
def assemble (r : BugReport) (directory : Location) : Action Unit := do
  r.textFiles.forM fun (name, content) => Disk.writeText (directory ++ [name]) content
  let snapshot ← Disk.locate r.snapshot
  Disk.copy snapshot (directory ++ [databaseFile])

/-- Moves an assembled bundle to the first of the names that is free. A name may be taken between
the look at it and the move. -/
def moveIntoPlace (r : BugReport) (root staging : Location) : List Nat → Filing BundlePath
  | [] => throw (.nameExhausted (r.bundlePath 0))
  | taken :: later => do
    let target := (r.bundlePath taken).location root
    if ((← Disk.current.adapt .storage).get? target).isSome then
      moveIntoPlace r root staging later
    else
      match ← (Disk.rename staging target).run with
      | .ok () => return r.bundlePath taken
      | .error .occupied => moveIntoPlace r root staging later
      | .error failure => throw (.storage failure)

/-- Files a report below a root. -/
def file (root : Location) (r : BugReport) : Filing BundlePath := do
  if !r.kind.isBug then throw (.notABug r.kind)
  let version := root ++ [pathComponent r.engineVersion]
  (Disk.makeDirectories (version ++ [r.kind.category])).adapt .storage
  Disk.withTemporary version ".staging-" .storage fun staging => do
    (r.assemble staging).adapt .storage
    r.moveIntoPlace root staging (List.range maxNames)

end BugReport

/-- Files a report on the disk of a machine; none if it could not be written. -/
def fileOn {ε : Type} (root : Location) (r : BugReport) :
    StateM (Machine ε) (Option BundlePath) :=
  Except.toOption <$> Machine.onDisk (r.file root)

end Report
end QueryFuzz
