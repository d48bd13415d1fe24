import QueryFuzz.Shell.Pattern
import QueryFuzz.Shell.Printing
import QueryFuzz.Shell.Tool.Basic

/-!
# Tools for characters

Exchanging characters, cutting lines at positions, and showing bytes as numbers.
-/

namespace QueryFuzz
namespace Shell
namespace Tool

/-! ### Sets of characters -/

/-- One part of a set. -/
inductive SetPart where
  | chars (cs : List Char)
  /-- A class, whose letters may be exchanged for those of the other case. -/
  | named (name : String)
  /-- A character that is repeated so often, or as often as needed. -/
  | again (c : Char) (count : Option Nat)

def allOctets : List Char := (List.range 256).map Char.ofNat

def SetPart.members : SetPart → List Char
  | .chars cs => cs
  | .named name => allOctets.filter (isInClass name)
  | .again c count => List.replicate (count.getD 1) c

/-- A character of a set with its escape, and how long it is. -/
def setChar : List Char → Char × Nat
  | '\\' :: rest =>
    let digits := (rest.takeWhile isOctal).take 3
    if !digits.isEmpty then (octalChar digits, digits.length + 1)
    else match rest with
      | c :: _ => ((escapeLetter? c).getD c, 2)
      | [] => ('\\', 1)
  | c :: _ => (c, 1)
  | [] => ('\x00', 0)

/-- The part of a set in brackets with colons, equals signs or a star, and what follows it. -/
def bracketPart? : List Char → Option (SetPart × List Char)
  | '[' :: ':' :: rest =>
    let name := rest.takeWhile Char.isAlpha
    match rest.drop name.length with
    | ':' :: ']' :: behind => some (.named (String.ofList name), behind)
    | _ => none
  | '[' :: '=' :: c :: '=' :: ']' :: behind => some (.chars [c], behind)
  | '[' :: rest =>
    let (c, n) := setChar rest
    match rest.drop n with
    | '*' :: more =>
      let digits := more.takeWhile Char.isDigit
      match more.drop digits.length with
      | ']' :: behind =>
        let base := if digits.head? = some '0' then 8 else 10
        let count := (digitsFrom base digits).1
        some (.again c (if count = 0 then none else some count), behind)
      | _ => none
    | _ => none
  | _ => none

/-- The parts of a set. -/
def setParts : Nat → List Char → Except String (List SetPart)
  | 0, _ => .ok []
  | fuel + 1, cs =>
    if cs.isEmpty then .ok []
    else match bracketPart? cs with
      | some (p, behind) => (setParts fuel behind).map (p :: ·)
      | none =>
        let (low, n) := setChar cs
        match cs.drop n with
        | '-' :: d :: rest =>
          let (high, m) := setChar (d :: rest)
          if high < low then
            .error ("range-endpoints of '" ++ low.toString ++ "-" ++ high.toString ++
              "' are in reverse collating sequence order")
          else
            let range := (List.range (high.toNat + 1 - low.toNat)).map fun i =>
              Char.ofNat (low.toNat + i)
            (setParts fuel ((d :: rest).drop m)).map (.chars range :: ·)
        | behind => (setParts fuel behind).map (.chars [low] :: ·)

/-- Drops each character of a set that equals the one before it. -/
def squeezed (isMember : Char → Bool) : List Char → List Char
  | c :: d :: rest =>
    if c = d && isMember c then squeezed isMember (d :: rest)
    else c :: squeezed isMember (d :: rest)
  | cs => cs

/-- The characters of a set that is put in the place of another of a size. -/
def replacements (size : Nat) (parts : List SetPart) : List Char :=
  let fixed := parts.foldl (fun n p => match p with
    | .again _ none => n
    | p => n + p.members.length) 0
  (parts.map fun p => match p with
    | .again c none => List.replicate (size - fixed) c
    | p => p.members).flatten

def tr : Tool := fun arguments =>
  let m : Manual := ⟨"tr", "cCdst", "",
    [("complement", 'c'), ("delete", 'd'), ("squeeze-repeats", 's'), ("truncate-set1", 't')], 1⟩
  ofManual m (fun g => do
    let (deletes, squeezes) := (g.has 'd', g.has 's')
    let needed := if deletes == squeezes then 2 else 1
    match g.operands with
    | [] => misused m "missing operand"
    | [first] =>
      if needed = 2 then
        complain "tr" ("missing operand after " ++ quoted first)
        Step.report (if deletes then
          "Two strings must be given when both deleting and squeezing repeats."
          else "Two strings must be given when translating.")
        Step.report "Try 'tr --help' for more information."
        return 1
      else work g first ""
    | [first, second] =>
      if deletes && !squeezes then
        complain "tr" ("extra operand " ++ quoted second)
        Step.report "Only one string may be given when deleting without squeezing repeats."
        Step.report "Try 'tr --help' for more information."
        return 1
      else work g first second
    | _ :: _ :: extra :: _ => misused m ("extra operand " ++ quoted extra)) arguments
where
  /-- Exchanges, deletes or squeezes the characters of the input. -/
  work (g : Given) (first second : String) : Step Nat := do
    match setParts (first.length + 1) first.toList, setParts (second.length + 1) second.toList with
    | .error e, _ | _, .error e =>
      complain "tr" e
      return 1
    | .ok first, .ok second =>
      let listed := (first.map SetPart.members).flatten
      let isInverted := g.has 'c' || g.has 'C'
      let members := if isInverted then allOctets.filter (!listed.contains ·) else listed
      let new := replacements members.length second
      let members := if g.has 't' then members.take new.length else members
      let exchange := fun (c : Char) =>
        match (members.zipIdx.reverse.find? fun (d, _) => d = c) with
        | some (_, i) => ((new[i]?).or new.getLast?).getD c
        | none => c
      let table := ((List.range 256).map fun n => exchange (Char.ofNat n)).toArray
      let exchanged := fun (c : Char) => (table[c.toNat]?).getD c
      let isMember := members.contains
      match ← Step.readAll 0 with
      | .error e =>
        complain "tr" ("read error: " ++ reason e)
        return 1
      | .ok text =>
        let cs := text.toList
        Step.print (String.ofList (
          if g.has 'd' then
            let kept := cs.filter (!isMember ·)
            if g.has 's' then squeezed new.contains kept else kept
          else if second.isEmpty then squeezed isMember cs
          else
            let changed := cs.map exchanged
            if g.has 's' then squeezed new.contains changed else changed))
        return 0

/-! ### Cutting -/

/-- The ranges of a list of positions; a range without an end goes to the end of the line. -/
def ranges? (s : String) : Option (List (Nat × Option Nat)) :=
  (Text.splitOn ',' s.toList).mapM fun piece =>
    let low := piece.takeWhile Char.isDigit
    let start := natural? (String.ofList low)
    match piece.drop low.length, start with
    | [], some n => if n = 0 then none else some (n, some n)
    | ['-'], some n => if n = 0 then none else some (n, none)
    | '-' :: high, start =>
      match natural? (String.ofList high) with
      | some n => if n < start.getD 1 then none else some (start.getD 1, some n)
      | none => none
    | _, _ => none

/-- What is wrong with a list of positions. -/
def rangeProblem (ofFields : Bool) (s : String) : String :=
  let digits := s.toList.filter Char.isDigit
  let isSpelled := s.toList.all fun c => c.isDigit || c = ',' || c = '-'
  if !isSpelled then
    "invalid " ++ (if ofFields then "field value " else "byte/character position ") ++ quoted s
  else if digits.isEmpty then "invalid range with no endpoint: -"
  else if (Text.splitOn ',' s.toList).any fun p => p.head? = some '0' || p.isEmpty then
    (if ofFields then "fields" else "byte/character positions") ++ " are numbered from 1"
  else "invalid decreasing range"

def isIn (ranges : List (Nat × Option Nat)) (n : Nat) : Bool :=
  ranges.any fun (low, high) => low ≤ n && high.all (n ≤ ·)

/-- The items at some positions. -/
def chosen {α : Type} (ranges : List (Nat × Option Nat)) (items : List α) : List α :=
  (items.zipIdx.filter fun (_, i) => isIn ranges (i + 1)).map (·.1)

def cut : Tool := fun arguments =>
  let m : Manual := ⟨"cut", "nsz", "bcdfO",
    [("delimiter", 'd'), ("fields", 'f'), ("bytes", 'b'), ("characters", 'c'),
      ("only-delimited", 's'), ("output-delimiter", 'O')], 1⟩
  ofManual m (fun g => do
    let lists := g.options.filter fun (c, _) => c = 'b' || c = 'c' || c = 'f'
    match lists with
    | [] => misused m "you must specify a list of bytes, characters, or fields"
    | _ :: _ :: _ => misused m "only one list may be specified"
    | [(unit, list)] =>
      match ranges? list, (g.value? 'd').getD "\t" with
      | none, _ => misused m (rangeProblem (unit = 'f') list)
      | some ranges, mark =>
        if 1 < mark.length then
          misused m "the delimiter must be a single character"
        else
          let mark := (mark.toList.head?).getD '\x00'
          let glue := (g.value? 'O').getD mark.toString
          filter "cut" g.operands fun s =>
            joinLines ((contentsOf s).filterMap fun line =>
              let fields := Text.splitOn mark line.toList
              if unit ≠ 'f' then some (String.ofList (chosen ranges line.toList))
              else if fields.length = 1 then (if g.has 's' then none else some line)
              else some (glue.intercalate ((chosen ranges fields).map String.ofList)))) arguments

/-! ### Bytes as numbers -/

/-- How `od` shows a byte or a group of bytes. -/
structure Showing where
  size : Nat
  width : Nat
  text : List Nat → String

/-- A number with leading zeros. -/
def zeroPadded (base width n : Nat) : String :=
  let digits := Nat.toDigits base n
  String.ofList (List.replicate (width - digits.length) '0' ++ digits)

/-- The number of some bytes, the first of which counts least. -/
def numberOf (bytes : List Nat) : Nat := bytes.foldr (fun b n => b + 256 * n) 0

def charName (n : Nat) : String :=
  match n with
  | 0 => "\\0"
  | 7 => "\\a"
  | 8 => "\\b"
  | 9 => "\\t"
  | 10 => "\\n"
  | 11 => "\\v"
  | 12 => "\\f"
  | 13 => "\\r"
  | n => if 32 ≤ n && n < 127 then (Char.ofNat n).toString else zeroPadded 8 3 n

/-- How the bytes are shown under the name of a format. -/
def showing? (format : String) : Option Showing :=
  match format.toList with
  | 'c' :: _ => some ⟨1, 4, fun bytes => charName (numberOf bytes)⟩
  | letter :: digits =>
    let size := (natural? (String.ofList digits)).getD (if digits.isEmpty then 4 else 1)
    match letter with
    | 'x' => some ⟨size, 2 * size + 1, fun bytes => zeroPadded 16 (2 * size) (numberOf bytes)⟩
    | 'o' =>
      let width := (8 * size + 2) / 3
      some ⟨size, width + 1, fun bytes => zeroPadded 8 width (numberOf bytes)⟩
    | 'u' =>
      let width := (toString (Nat.pow 256 size - 1)).length
      some ⟨size, width + 1, fun bytes => toString (numberOf bytes)⟩
    | 'd' =>
      let width := (toString (Nat.pow 256 size / 2)).length + 1
      some ⟨size, width + 1, fun bytes =>
        toString (Int.bmod (numberOf bytes) (Nat.pow 256 size))⟩
    | _ => none
  | [] => none

/-- Lists in groups of a size. -/
def groupsOf {α : Type} (size : Nat) : Nat → List α → List (List α)
  | 0, _ => []
  | fuel + 1, items =>
    if items.isEmpty then [] else items.take size :: groupsOf size fuel (items.drop size)

def od : Tool := fun arguments =>
  ofManual ⟨"od", "bcvxds", "AtNwj", [("address-radix", 'A'), ("format", 't')], 1⟩ (fun g => do
    let (parts, complete) ← sources "od" g.operands
    let bytes := (String.join (parts.map (·.2))).toList.map Char.toNat
    let bytes := bytes.drop (((g.value? 'j').bind natural?).getD 0)
    let bytes := match (g.value? 'N').bind natural? with
      | some n => bytes.take n
      | none => bytes
    let format := if g.has 'c' then "c" else if g.has 'b' then "o1" else if g.has 'x' then "x2"
      else if g.has 'd' then "u2" else (g.value? 't').getD "o2"
    let radix := (g.value? 'A').getD "o"
    let address := fun (n : Nat) =>
      match radix with
      | "n" => ""
      | "d" => zeroPadded 10 7 n
      | "x" => zeroPadded 16 6 n
      | _ => zeroPadded 8 7 n
    match showing? format with
    | none =>
      complain "od" ("invalid type string " ++ quoted format)
      return 1
    | some k =>
      let rows := groupsOf 16 (bytes.length + 1) bytes
      let line := fun (row : List Nat) =>
        String.join ((groupsOf k.size (row.length + 1) row).map fun b => padded k.width (k.text b))
      let (text, _) := rows.zipIdx.foldl (fun (text, before) (row, i) =>
        if !g.has 'v' && before = some row && row.length = 16 then
          (if (text.getLast?).any (· = "*\n") then text else text ++ ["*\n"], some row)
        else (text ++ [address (16 * i) ++ line row ++ "\n"], some row))
        (([] : List String), (none : Option (List Nat)))
      Step.print (String.join text)
      if radix ≠ "n" then Step.print (address bytes.length ++ "\n")
      return if complete then 0 else 1) arguments

end Tool
end Shell
end QueryFuzz
