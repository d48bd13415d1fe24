import QueryFuzz.Shell.Expression
import QueryFuzz.Shell.Tool.Basic

/-!
# Searching lines

`grep` prints the lines in which one of some expressions occurs. It ends with the exit code zero if
there are any, one if there are none, and two after an error.
-/

namespace QueryFuzz
namespace Shell
namespace Tool

/-- What is looked for. -/
structure Quest where
  expressions : List Expression
  foldsCase : Bool
  /-- No word character may touch a match. -/
  wholeWords : Bool
  wholeLines : Bool

namespace Quest

/-- The longest match that starts at a position. -/
def matchAt? (q : Quest) (text : Array Char) (i : Nat) : Option (Nat × Nat) :=
  let ends := (q.expressions.map fun e => (e.reaches text q.foldsCase ⟨i, []⟩).map (·.position))
  let allowed := ends.flatten.filter fun j =>
    (!q.wholeLines || (i = 0 && j = text.size)) &&
      (!q.wholeWords || (!Expression.isBehindWord text i && !Expression.isWord text j))
  if allowed.isEmpty then none else some (i, allowed.foldl max 0)

/-- The first match from a position on. -/
def match? (q : Quest) (text : Array Char) (i : Nat) : Option (Nat × Nat) :=
  (List.range (text.size + 1 - i)).findSome? fun k => q.matchAt? text (i + k)

/-- All matches that are not empty. -/
def allMatches (q : Quest) (text : Array Char) : Nat → Nat → List String
  | 0, _ => []
  | fuel + 1, i =>
    match q.match? text i with
    | none => []
    | some (i, j) =>
      if i = j then (if i < text.size then q.allMatches text fuel (i + 1) else [])
      else String.ofList (text.extract i j).toList :: q.allMatches text fuel j

end Quest

/-- A pattern that stands for itself. -/
def literalExpression (s : String) : Expression :=
  s.toList.foldr (fun c e => .both (.char c) e) .empty

/-- The patterns among the arguments, and the files. -/
def patternsOf (g : Given) : Step (Option (List String × List String)) := do
  let mut found := g.values 'e'
  for path in g.values 'f' do
    match ← readNamed path with
    | .ok text => found := found ++ contentsOf text
    | .error e => complain "grep" (shown path ++ ": " ++ reason e)
  if g.has 'e' || g.has 'f' then return some (found, g.operands)
  else return match g.operands with
    | p :: paths => some ([p], paths)
    | [] => none

/-- How lines are shown. -/
structure Listing where
  /-- What a line starts with, by the mark behind it. -/
  lead : Nat → Char → String
  before : Nat
  after : Nat

/-- Lines with the lines around them; two dashes stand where some are left out. -/
def Listing.render (l : Listing) (lines : List (String × Bool)) : List String :=
  let hits := (lines.zipIdx.filter fun ((_, hit), _) => hit).map (·.2)
  let isNear := fun (i : Nat) => hits.any fun h => h ≤ i + l.before && i ≤ h + l.after
  let chosen := lines.zipIdx.filter fun (_, i) => isNear i
  let gaps := 0 < l.before + l.after
  (chosen.foldl (fun ((out, last) : List String × Option Nat) ((line, hit), i) =>
    let out := if gaps && last.any (· + 1 < i) then "--" :: out else out
    ((l.lead (i + 1) (if hit then ':' else '-') ++ line) :: out, some i)) ([], none)).1.reverse

def grep : Tool := fun arguments =>
  let m : Manual := ⟨"grep", "EFGivcnqsowxlLHhaybUzrR", "efmABC",
    [("extended-regexp", 'E'), ("fixed-strings", 'F'), ("ignore-case", 'i'),
      ("invert-match", 'v'), ("count", 'c'), ("line-number", 'n'), ("quiet", 'q'),
      ("silent", 'q'), ("only-matching", 'o'), ("word-regexp", 'w'), ("line-regexp", 'x'),
      ("files-with-matches", 'l'), ("regexp", 'e'), ("file", 'f'), ("max-count", 'm'),
      ("after-context", 'A'), ("before-context", 'B'), ("context", 'C'), ("no-messages", 's'),
      ("text", 'a'), ("no-filename", 'h'), ("with-filename", 'H')], 2⟩
  ofManual m (fun g => do
    match ← patternsOf g with
    | none =>
      Step.report "Usage: grep [OPTION]... PATTERNS [FILE]..."
      Step.report "Try 'grep --help' for more information."
      return 2
    | some (patterns, paths) =>
      let spelled := (patterns.map fun p =>
        (Text.splitOn '\n' p.toList).map String.ofList).flatten
      let kind := ((g.options.map (·.1)).reverse.find? ['E', 'F', 'G'].contains).getD 'G'
      match spelled.mapM fun p =>
          if kind = 'F' then .ok (literalExpression p) else Expression.read (kind = 'E') p with
      | .error e =>
        complain "grep" e
        return 2
      | .ok expressions =>
        searchAll g ⟨expressions, g.has 'i' || g.has 'y', g.has 'w', g.has 'x'⟩ paths) arguments
where
  searchAll (g : Given) (q : Quest) (paths : List String) : Step Nat := do
    let named := (1 < paths.length || g.has 'H') && !g.has 'h'
    let mut complete := true
    let mut found := false
    for path in if paths.isEmpty then ["-"] else paths do
      if !(g.has 'q' && found) then
        match ← readNamed path with
        | .error e =>
          if !g.has 's' then complain "grep" (path ++ ": " ++ reason e)
          complete := false
        | .ok text =>
          if ← search g q (if path = "-" then "(standard input)" else path) named text then
            found := true
    return if found && (complete || g.has 'q') then 0 else if complete then 1 else 2
  /-- Searches one file. -/
  search (g : Given) (q : Quest) (name : String) (named : Bool) (text : String) : Step Bool := do
    let limit := (g.value? 'm').bind natural?
    let marked := (contentsOf text).map fun line =>
      (line, (q.match? line.toList.toArray 0).isSome != g.has 'v')
    let (_, marked) := marked.foldl (fun (n, kept) (line, hit) =>
      if limit.any (· ≤ n) then (n, (line, false) :: kept)
      else (n + (if hit then 1 else 0), (line, hit) :: kept)) (0, ([] : List (String × Bool)))
    let marked := marked.reverse
    let count := marked.countP (·.2)
    let lead := fun (n : Nat) (mark : Char) =>
      (if named then name ++ mark.toString else "") ++
        (if g.has 'n' then toString n ++ mark.toString else "")
    if g.has 'q' then return 0 < count
    if g.has 'l' then
      if 0 < count then Step.print (name ++ "\n")
    else if g.has 'L' then
      if count = 0 then Step.print (name ++ "\n")
    else if g.has 'c' then
      Step.print ((if named then name ++ ":" else "") ++ toString count ++ "\n")
    else if text.toList.contains '\x00' && !g.has 'a' && 0 < count then
      Step.print ("grep: " ++ name ++ ": binary file matches\n")
    else if g.has 'o' then
      for ((line, hit), i) in marked.zipIdx do
        if hit && !g.has 'v' then
          for part in q.allMatches line.toList.toArray (line.length + 2) 0 do
            Step.print (lead (i + 1) ':' ++ part ++ "\n")
    else
      let around := fun c => (((g.value? c).or (g.value? 'C')).bind natural?).getD 0
      Step.print (joinLines ((⟨lead, around 'B', around 'A'⟩ : Listing).render marked))
    return 0 < count

end Tool
end Shell
end QueryFuzz
