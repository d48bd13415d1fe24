import QueryFuzz.Decimal.Digits
import QueryFuzz.Run.Summary

/-!
# Run statistics

The written form of a summary: one document with a field for each count, in a fixed order, indented
by two blanks a level.
-/

namespace QueryFuzz
namespace Run

open Decimal

/-- Four digits in hexadecimal. -/
def fourDigits (n : Nat) : String :=
  let digits := Nat.toDigits 16 n
  String.ofList (List.replicate (4 - digits.length) '0' ++ digits)

/-- A character between quotation marks; only control characters, quotes and backslashes change. -/
def documentChar (c : Char) : String :=
  match c with
  | '"' => "\\\""
  | '\\' => "\\\\"
  | '\n' => "\\n"
  | '\r' => "\\r"
  | '\t' => "\\t"
  | '\x08' => "\\b"
  | '\x0c' => "\\f"
  | c => if c.toNat < 32 then "\\u" ++ fourDigits c.toNat else c.toString

def documentText (s : String) : String :=
  "\"" ++ String.join (s.toList.map documentChar) ++ "\""

/-- The shortest digits: in their places from `1e-5` up to `1e16`, else with an exponent. What is
not finite has no written form. -/
def documentNumber : Binary64 → String
  | .nan | .infinite _ => "null"
  | .finite negative 0 _ => signText negative ++ "0.0"
  | .finite negative significand exponent =>
    let f := Figures.shortest significand exponent
    signText negative ++
      if -5 ≤ f.order ∧ f.order < 16 then f.positional ++ if 0 ≤ f.exponent then ".0" else ""
      else f.scientific true

/-- The value of a field. -/
inductive Item where
  | count (n : Nat)
  | flag (b : Bool)
  | number (x : Float)
  | text (s : String)
  | counts (t : Tally)
  | texts (items : List String)

/-- Lines between two marks; without lines the marks stand together. -/
def bracketed (left right : String) (lines : List String) : String :=
  if lines.isEmpty then left ++ right
  else left ++ "\n    " ++ ",\n    ".intercalate lines ++ "\n  " ++ right

def Item.render : Item → String
  | count n => toString n
  | flag b => if b then "true" else "false"
  | number x => documentNumber (.ofFloat x)
  | text s => documentText s
  | counts t =>
    bracketed "\x7b" "\x7d" (t.entries.map fun e => documentText e.1 ++ ": " ++ toString e.2)
  | texts items => bracketed "[" "]" (items.map documentText)

namespace Summary

def fields (s : Summary) : List (String × Item) :=
  [("seed", .count s.seed), ("trials_requested", .count s.trialsRequested),
    ("trials_run", .count s.trialsRun), ("interrupted", .flag s.interrupted),
    ("seeded", .count s.seeded), ("generated", .count s.generated),
    ("mutated", .count s.mutated), ("mutation_fallbacks", .count s.fallbacks),
    ("admitted", .count s.admitted), ("not_novel", .count s.notNovel),
    ("skipped", .count s.skipped), ("execution_failures", .count s.executionFailures),
    ("bugs", .counts s.bugs), ("normal", .counts s.normal),
    ("corpus_size", .count s.corpusSize), ("frontier_size", .count s.frontierSize),
    ("grammar_rules_covered", .count s.rulesCovered),
    ("grammar_coverage_percent", .number s.grammarCoverage),
    ("output_dir", .text s.outputDirectory), ("bundles", .texts s.bundles),
    ("elapsed_secs", .number s.elapsedSeconds)]

/-- The text of the statistics file. -/
def document (s : Summary) : String :=
  let lines := s.fields.map fun (name, item) => documentText name ++ ": " ++ item.render
  "\x7b\n  " ++ ",\n  ".intercalate lines ++ "\n\x7d"

/-- The name of the statistics file in the directory of the reports. -/
def file : String := "stats.json"

/-- Writes the statistics into a directory, which is made if need be. -/
def save (s : Summary) (directory : Storage.Location) : Storage.Action Unit := do
  Storage.Disk.makeDirectories directory
  Storage.Disk.writeText (directory ++ [file]) s.document

end Summary

end Run
end QueryFuzz
