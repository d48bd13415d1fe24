import QueryFuzz.Decimal.Digits
import QueryFuzz.Settings.Basic

/-!
# Checking settings

Before the first trial the settings are checked against themselves and against the disk. The
checks are made in a fixed order and the first that fails is reported. Settings that pass have a
database, and a table with a column in each of them, so every trial finds what it needs.
-/

namespace QueryFuzz
namespace Settings

inductive Role where
  | primary
  | reference
  deriving DecidableEq, Repr

def Role.name : Role → String
  | primary => "primary"
  | reference => "reference"

/-- Why a run is refused. -/
inductive SetupError where
  | noDatabases
  | missingSnapshot (database path : String)
  | emptySchema (database : String)
  | emptyCommand (role : Role)
  | engineNotFound (role : Role) (program : String)
  | missingSeedQuery (path : String)
  | invalid (setting reason : String)
  deriving DecidableEq, Repr

def SetupError.message : SetupError → String
  | noDatabases => "No seed databases configured"
  | missingSnapshot database path =>
    "Seed database '" ++ database ++ "' snapshot not found at " ++ Text.quoted path
  | emptySchema database =>
    "Seed database '" ++ database ++ "' declares no table with columns"
  | emptyCommand role => "The " ++ role.name ++ " engine command is empty"
  | engineNotFound role program =>
    "The " ++ role.name ++ " engine binary '" ++ program ++ "' was not found"
  | missingSeedQuery path => "Seed query file not found at " ++ Text.quoted path
  | invalid setting reason => "Invalid setting " ++ setting ++ ": " ++ reason

/-- Passes if a condition holds. -/
def ensure (condition : Bool) (e : SetupError) : Except SetupError Unit :=
  if condition then .ok () else .error e

def isProbability (p : Float) : Bool := 0.0 ≤ p && p ≤ 1.0

def numberText (x : Float) : String := Decimal.plainText (.ofFloat x)

def Fuzzing.validate (f : Fuzzing) : Except SetupError Unit := do
  ensure (f.workers ≠ 0) (.invalid "fuzzer.threads" "must be at least 1")
  [("fuzzer.mutation-probability", f.mutationProbability),
    ("fuzzer.boundary-literal-probability", f.boundaryProbability)].forM fun (setting, p) =>
      ensure (isProbability p) (.invalid setting (numberText p ++ " is not a probability"))
  ensure (1 ≤ f.leastMutations ∧ f.leastMutations ≤ f.mostMutations)
    (.invalid "fuzzer.min-mutations"
      s!"need 1 <= min ({f.leastMutations}) <= max ({f.mostMutations})")
  if let some x := f.rarityExponent then
    ensure (x.isFinite && 0.0 ≤ x)
      (.invalid "fuzzer.rarity-exponent" (numberText x ++ " is not a non-negative number"))

/-- Is a program there? One with a directory in its path is looked for where it says, any other
in the directories of the search path. -/
def programExists (disk : Storage.Disk) (search : List String) (program : String) : Bool :=
  if 1 < Storage.componentCount program || Storage.isAbsolute program then
    disk.isFileAt program
  else search.any fun directory => disk.isFileAt (Storage.joinPath directory program)

def Program.validate (disk : Storage.Disk) (search : List String) (role : Role) (p : Program) :
    Except SetupError Unit :=
  match p.command with
  | [] => .error (.emptyCommand role)
  | program :: _ => ensure (programExists disk search program) (.engineNotFound role program)

/-- The counters of line reports are shared, so only one engine may run at a time. -/
def Covering.validate (c : Covering) (workers : Nat) : Except SetupError Unit := do
  if c.probe = .gcov then
    ensure (workers = 1) (.invalid "coverage.probe" "gcov coverage requires threads = 1")
    ensure (c.gcovObjects.isSome && c.gcovSource.isSome)
      (.invalid "coverage.probe" "gcov needs gcov-object-dir and gcov-source")

def validateDatabase (disk : Storage.Disk) (db : Run.Database) : Except SetupError Unit := do
  ensure (disk.isFileAt db.path) (.missingSnapshot db.name db.path)
  ensure (!db.schema.usableTables.isEmpty) (.emptySchema db.name)

/-- Checks settings; the programs of the engines may be in the directories of a search path. -/
def validate (s : Settings) (disk : Storage.Disk) (search : List String) :
    Except SetupError Unit := do
  s.fuzzing.validate
  ensure (s.engines.timeout ≠ 0) (.invalid "engines.timeout-ms" "must be positive")
  ensure (1 ≤ s.judging.oracle.floatDigits ∧ s.judging.oracle.floatDigits ≤ 17)
    (.invalid "oracle.float-digits" "must be between 1 and 17")
  s.engines.primary.validate disk search .primary
  s.engines.reference.validate disk search .reference
  s.covering.validate s.fuzzing.workers
  ensure (!s.databases.isEmpty) .noDatabases
  s.databases.forM (validateDatabase disk)
  s.seedQueries.forM fun path => ensure (disk.isFileAt path) (.missingSeedQuery path)

end Settings
end QueryFuzz
