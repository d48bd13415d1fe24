import QueryFuzz.Shell.Tool.Basic

/-!
# Sorting lines

Lines are compared by keys, which are parts of them, and as a last resort as a whole. Keys are
compared by bytes or as numbers.
-/

namespace QueryFuzz
namespace Shell
namespace Tool
namespace Sorting

/-- A position in a line: a field, and a character in it, both counted from one; the character
zero stands for the last one. -/
structure Position where
  field : Nat
  char : Nat
  skipsBlanks : Bool

structure Key where
  start : Position
  stop : Option Position
  /-- Letters of options that belong to the key alone. -/
  options : List Char

/-- A position with the letters behind it. -/
def position? (cs : List Char) (char : Nat) : Option (Nat × Nat × List Char × List Char) :=
  let digits := cs.takeWhile Char.isDigit
  let rest := cs.drop digits.length
  let (char, rest) := match rest with
    | '.' :: more =>
      let d := more.takeWhile Char.isDigit
      ((natural? (String.ofList d)).getD 0, more.drop d.length)
    | rest => (char, rest)
  let letters := rest.takeWhile Char.isAlpha
  (natural? (String.ofList digits)).map fun field =>
    (field, char, letters, rest.drop letters.length)

def key? (s : String) : Option Key :=
  match position? s.toList 1 with
  | some (field, char, letters, rest) =>
    if field = 0 || char = 0 then none
    else
      let start : Position := ⟨field, char, letters.contains 'b'⟩
      match rest with
      | [] => some ⟨start, none, letters⟩
      | ',' :: more =>
        match position? more 0 with
        | some (field, char, more, []) =>
          if field = 0 then none
          else some ⟨start, some ⟨field, char, more.contains 'b'⟩, letters ++ more⟩
        | _ => none
      | _ => none
  | none => none

/-- Where each field of a line starts and ends. Without a mark a field starts with the blanks in
front of it. -/
def fieldsOf (mark : Option Char) (line : List Char) : List (List Char) :=
  match mark with
  | some c => Text.splitOn c line
  | none => byBlanks (line.length + 1) line
where
  byBlanks : Nat → List Char → List (List Char)
    | 0, _ => []
    | fuel + 1, cs =>
      if cs.isEmpty then []
      else
        let blanks := cs.takeWhile Reading.isBlank
        let body := (cs.drop blanks.length).takeWhile (!Reading.isBlank ·)
        (blanks ++ body) :: byBlanks fuel (cs.drop (blanks.length + body.length))

/-- How many characters stand in front of a field. -/
def offset (mark : Option Char) (fields : List (List Char)) (n : Nat) : Nat :=
  let gap := if mark.isSome then 1 else 0
  (fields.take n).foldl (fun k f => k + f.length + gap) 0

/-- The part of a line that a key means. -/
def Key.part (k : Key) (mark : Option Char) (line : List Char) : List Char :=
  let fields := fieldsOf mark line
  let blanksAt := fun (n : Nat) => (((fields[n - 1]?).getD []).takeWhile Reading.isBlank).length
  let place := fun (p : Position) =>
    offset mark fields (p.field - 1) + if p.skipsBlanks then blanksAt p.field else 0
  let start := if fields.length < k.start.field then line.length
    else place k.start + (k.start.char - 1)
  let stop := match k.stop with
    | none => line.length
    | some p =>
      if fields.length < p.field then line.length
      else if p.char = 0 then
        offset mark fields (p.field - 1) + ((fields[p.field - 1]?).getD []).length
      else place p + p.char
  (line.take stop).drop start

/-- A number with a fraction as a whole number of the given decimal unit. -/
def decimal (places : Nat) (cs : List Char) : Int :=
  let cs := cs.dropWhile Reading.isBlank
  let (negative, cs) := match cs with
    | '-' :: rest => (true, rest)
    | cs => (false, cs)
  let whole := cs.takeWhile Char.isDigit
  let fraction := match cs.drop whole.length with
    | '.' :: rest => rest.takeWhile Char.isDigit
    | _ => []
  let digits := whole ++ (fraction ++ List.replicate places '0').take places
  let n : Int := ((String.ofList digits).toNat?).getD 0
  if negative then -n else n

/-- The order of two texts under the letters of options. -/
def order (options : List Char) (a b : List Char) : Ordering :=
  let has := options.contains
  let result :=
    if has 'n' || has 'g' || has 'h' then
      let places := max a.length b.length
      compareNumbers (decimal places a) (decimal places b)
    else
      let prepared := fun (cs : List Char) =>
        let cs := if has 'b' then cs.dropWhile Reading.isBlank else cs
        let cs := if has 'd' then cs.filter fun c => c.isAlphanum || Reading.isBlank c else cs
        if has 'f' then cs.map Char.toUpper else cs
      compareTexts (prepared a) (prepared b)
  if has 'r' then result.swap else result

/-- The order of two lines under all keys. -/
def orderBy (options : List Char) (mark : Option Char) (keys : List Key) (a b : List Char) :
    Ordering :=
  match keys with
  | [] => .eq
  | k :: rest =>
    let own := if k.options.any (· ≠ 'b') then k.options else options ++ k.options
    match order own (k.part mark a) (k.part mark b) with
    | .eq => orderBy options mark rest a b
    | o => o

end Sorting

open Sorting

def sort : Tool := fun arguments =>
  let m : Manual := ⟨"sort", "bcCdfghinrsuzVM", "kotST",
    [("numeric-sort", 'n'), ("reverse", 'r'), ("unique", 'u'), ("key", 'k'), ("output", 'o'),
      ("field-separator", 't'), ("ignore-case", 'f'), ("stable", 's'), ("check", 'c')], 2⟩
  ofManual m (fun g => do
    let letters := g.options.map (·.1)
    let options := letters.filter ['b', 'd', 'f', 'g', 'h', 'i', 'n', 'r'].contains
    let mark := (g.value? 't').bind fun s => if s = "\\0" then some '\x00' else s.toList.head?
    let (parts, complete) ← sources "sort" g.operands
    match (g.values 'k').mapM key? with
    | none =>
      complain "sort" "invalid field specification"
      return 2
    | some keys =>
      if !complete then return 2
      let lines := (contentsOf (String.join (parts.map (·.2)))).map String.toList
      let byKeys : List Char → List Char → Ordering := fun a b =>
        if keys.isEmpty then order options a b else orderBy options mark keys a b
      let whole : List Char → List Char → Ordering := fun a b =>
        match byKeys a b with
        | .eq =>
          if g.has 's' || g.has 'u' then .eq
          else
            let o := compareTexts a b
            if options.contains 'r' then o.swap else o
        | o => o
      if g.has 'c' || g.has 'C' then
        let bad := (lines.zip (lines.drop 1)).zipIdx.find? fun ((a, b), _) =>
          if g.has 'u' then (byKeys a b).isGE else whole a b = .gt
        match bad with
        | some ((_, b), i) =>
          if g.has 'c' then
            complain "sort" ((g.operands.head?.getD "-") ++ ":" ++ toString (i + 2) ++
              ": disorder: " ++ String.ofList b)
          return 1
        | none => return 0
      let sorted := lines.mergeSort fun a b => (whole a b).isLE
      let kept := if !g.has 'u' then sorted
        else (sorted.foldl (fun (kept : List (List Char)) line =>
          match kept with
          | last :: _ => if byKeys last line = .eq then kept else line :: kept
          | [] => [line]) []).reverse
      let text := joinLines (kept.map String.ofList)
      match g.value? 'o' with
      | some path =>
        let _ ← Step.onDisk do
          Storage.Disk.write (← locate path) (Text.ofOctets text) false
      | none => Step.print text
      return 0) arguments

end Tool
end Shell
end QueryFuzz
