import QueryFuzz.CommandLine

/-!
# The program

Reads the settings and the files they name, carries out the run in memory, writes what it filed
and prints a summary.
-/

namespace QueryFuzz

/-- The files among some paths that can be read. -/
def readAll (paths : List String) : IO (List (String × ByteArray)) :=
  paths.filterMapM fun (path : String) => do
    try
      return some (path, ← IO.FS.readBinFile path)
    catch _ => return none

/-- Writes files into a directory. -/
def writeInto (directory : String) (files : List (String × ByteArray)) : IO Unit :=
  files.forM fun (name, content) => do
    let path := Storage.joinPath directory name
    IO.FS.createDirAll (Storage.parentPath path)
    IO.FS.writeBinFile path content

/-- Runs with settings and keeps the results. -/
def fuzz (s : Settings) : IO UInt32 := do
  let disk := CommandLine.diskOf (← readAll s.files)
  let started ← IO.monoMsNow
  match ← IO.lazyPure fun _ => CommandLine.conduct s disk with
  | .error e =>
    IO.eprintln ("Error: Refusing to start fuzzing: " ++ e.message)
    return 1
  | .ok (summary, disk) =>
    let elapsed := ((← IO.monoMsNow) - started).toFloat / 1000.0
    let summary := { summary with elapsedSeconds := elapsed }
    let (_, disk) := (s.saveStatistics summary).run disk
    let directory := s.reporting.directory
    writeInto directory (CommandLine.filesBelow disk (disk.lexical directory))
    (CommandLine.report summary).forM IO.println
    return 0

/-- Runs the program with its arguments. -/
def start (arguments : List String) : IO UInt32 := do
  match CommandLine.parse arguments with
  | .error e =>
    IO.eprintln ("error: " ++ e.message)
    return 2
  | .ok c =>
    match (← readAll [c.settingsFile]).map fun (_, content) => String.fromUTF8? content with
    | [some text] =>
      match Settings.read? c.base text with
      | some s => fuzz (c.apply s)
      | none =>
        IO.eprintln ("Error: Failed to parse settings file " ++ c.settingsFile)
        return 1
    | _ =>
      IO.eprintln ("Error: Failed to read settings file " ++ c.settingsFile)
      return 1

end QueryFuzz

def main (arguments : List String) : IO UInt32 := QueryFuzz.start arguments
