import QueryFuzz.Shell.Tool.Basic

/-!
# Tools for lines

Tools that take, number, count or put side by side the lines of their input.
-/

namespace QueryFuzz
namespace Shell
namespace Tool

/-! ### Printing files -/

/-- A character that cannot be seen, as it is shown. -/
def visible (showsTabs : Bool) (c : Char) : String :=
  let plain := fun (n : Nat) =>
    if n = 127 then "^?"
    else if n < 32 && !(n = 9 && !showsTabs) && n ≠ 10 then "^" ++ (Char.ofNat (n + 64)).toString
    else (Char.ofNat n).toString
  let n := c.toNat
  if n < 128 then plain n
  else if n = 137 || n = 138 then "M-^" ++ (Char.ofNat (n - 64)).toString
  else "M-" ++ plain (n - 128)

/-- How `cat` changes what it prints. -/
structure Copying where
  numbers : Bool
  /-- Only lines that are not empty have a number. -/
  skipsEmpty : Bool
  squeezes : Bool
  marksEnds : Bool
  marksTabs : Bool
  marksOthers : Bool

def Copying.line (k : Copying) (number : Option Nat) (line : String) : String :=
  let (body, ended) := match line.toList.reverse with
    | '\n' :: rest => (rest.reverse, true)
    | _ => (line.toList, false)
  let shown := body.map fun c =>
    if c = '\t' then (if k.marksTabs then "^I" else "\t")
    else if k.marksOthers then visible false c
    else c.toString
  let lead := match number with
    | some n => padded 6 (toString n) ++ "\t"
    | none => ""
  lead ++ String.join shown ++ (if ended then (if k.marksEnds then "$\n" else "\n") else "")

/-- The lines as they are printed; `before` tells whether the line before was empty. -/
def Copying.lines (k : Copying) : Nat → Bool → List String → List String
  | _, _, [] => []
  | n, before, line :: rest =>
    let isEmpty := line = "\n"
    if k.squeezes && before && isEmpty then k.lines n true rest
    else if k.numbers && !(k.skipsEmpty && isEmpty) then
      k.line (some n) line :: k.lines (n + 1) isEmpty rest
    else k.line none line :: k.lines n isEmpty rest

def cat : Tool :=
  ofManual ⟨"cat", "AbeEnstTuv", "",
      [("number", 'n'), ("number-nonblank", 'b'), ("show-all", 'A'), ("show-ends", 'E'),
        ("squeeze-blank", 's'), ("show-tabs", 'T'), ("show-nonprinting", 'v')], 1⟩ fun g => do
    let has := fun (cs : List Char) => cs.any g.has
    let k : Copying := ⟨has ['n', 'b'], g.has 'b', g.has 's', has ['A', 'e', 'E'],
      has ['A', 't', 'T'], has ['A', 'e', 't', 'v']⟩
    let mut complete := true
    let mut kept := #[]
    for path in if g.operands.isEmpty then ["-"] else g.operands do
      match ← readNamed path with
      | .ok text => if g.options.isEmpty then Step.print text else kept := kept.push text
      | .error e =>
        complain "cat" (shown path ++ ": " ++ reason e)
        if path = "-" && e = .device then
          complain "cat" "closing standard input: Bad file descriptor"
        complete := false
    Step.print (String.join (k.lines 1 false (linesOf (String.join kept.toList))))
    return if complete then 0 else 1

def tac : Tool :=
  ofManual ⟨"tac", "brs", "", [], 1⟩ fun g =>
    filter "tac" g.operands fun s => String.join (linesOf s).reverse

def rev : Tool :=
  ofManual ⟨"rev", "", "", [], 1⟩ fun g =>
    filter "rev" g.operands fun s =>
      String.join ((linesOf s).map fun line =>
        match line.toList.reverse with
        | '\n' :: rest => String.ofList (rest ++ ['\n'])
        | rest => String.ofList rest)

/-! ### Beginnings and ends -/

/-- A count that may have a sign. -/
def signedSize? (s : String) : Option (Option Char × Nat) :=
  match s.toList with
  | '+' :: rest => (size? (String.ofList rest)).map (some '+', ·)
  | '-' :: rest => (size? (String.ofList rest)).map (some '-', ·)
  | _ => (size? s).map (none, ·)

/-- Arguments in which a count alone, behind a dash or a plus, is spelled as an option. -/
def withCountOption (mayPlus : Bool) : List String → List String
  | argument :: rest =>
    match argument.toList with
    | sign :: d :: more =>
      if d.isDigit && (sign = '-' || (sign = '+' && mayPlus)) then
        let digits := (d :: more).takeWhile Char.isDigit
        let letters := (d :: more).drop digits.length
        let unit := if letters.contains 'c' then "-c" else "-n"
        let sign := if sign = '+' then "+" else ""
        unit :: (sign ++ String.ofList digits) :: rest
      else argument :: rest
    | _ => argument :: rest
  | [] => []

/-- Prints a part of each file, under its name if there are several. -/
def excerpts (tool : String) (g : Given) (excerpt : String → String) : Step Nat := do
  let paths := if g.operands.isEmpty then ["-"] else g.operands
  let titled := (1 < paths.length || g.has 'v') && !g.has 'q'
  let mut complete := true
  let mut first := true
  for path in paths do
    let found ← if path = "-" then Step.available 0 else readFile path
    match found with
    | .ok text =>
      if titled then
        let title := if path = "-" then "standard input" else path
        Step.print ((if first then "" else "\n") ++ "==> " ++ title ++ " <==\n")
      let part := excerpt text
      if path = "-" then
        let block := 8192
        let isHead := tool = "head" && (← Step.isFile 0)
        Step.consume 0 (if isHead then part.length
          else if tool = "head" then (part.length + block - 1) / block * block
          else text.length)
      Step.print part
      first := false
    | .error e =>
      complain tool (if e = .isDirectory then "error reading " ++ quoted path ++ ": " ++ reason e
        else "cannot open " ++ quoted path ++ " for reading: " ++ reason e)
      complete := false
  return if complete then 0 else 1

/-- What is wrong with a count. -/
def badCount (m : Manual) (unit : Char) (value : String) : Step Nat := do
  complain m.name ("invalid number of " ++ (if unit = 'c' then "bytes" else "lines") ++ ": " ++
    quoted value)
  return m.misuse

def lastCount (g : Given) : Char × String :=
  ((g.options.reverse.find? fun (c, _) => c = 'n' || c = 'c')).getD ('n', "10")

def head : Tool := fun arguments =>
  let m : Manual := ⟨"head", "qvz", "nc", [("lines", 'n'), ("bytes", 'c'), ("quiet", 'q')], 1⟩
  ofManual m (fun g => do
    let (unit, value) := lastCount g
    match signedSize? value with
    | none => badCount m unit value
    | some (sign, n) =>
      excerpts "head" g fun text =>
        let count := fun (all : Nat) => if sign = some '-' then all - n else n
        if unit = 'c' then String.ofList (text.toList.take (count text.length))
        else
          let lines := linesOf text
          String.join (lines.take (count lines.length))) (withCountOption false arguments)

def tail : Tool := fun arguments =>
  let m : Manual := ⟨"tail", "fFqvz", "ncs", [("lines", 'n'), ("bytes", 'c'), ("quiet", 'q')], 1⟩
  ofManual m (fun g => do
    let (unit, value) := lastCount g
    match signedSize? value with
    | none => badCount m unit value
    | some (sign, n) =>
      excerpts "tail" g fun text =>
        let skipped := fun (all : Nat) => if sign = some '+' then n - 1 else all - n
        if unit = 'c' then String.ofList (text.toList.drop (skipped text.length))
        else
          let lines := linesOf text
          String.join (lines.drop (skipped lines.length))) (withCountOption true arguments)

/-! ### Counting -/

structure Counts where
  lines : Nat
  words : Nat
  bytes : Nat
  longest : Nat

def Counts.add (a b : Counts) : Counts :=
  ⟨a.lines + b.lines, a.words + b.words, a.bytes + b.bytes, max a.longest b.longest⟩

def countsOf (s : String) : Counts where
  lines := s.toList.count '\n'
  words := (Text.splitOn ' ' (s.toList.map fun c => if isSpace c then ' ' else c)).countP
    (!·.isEmpty)
  bytes := s.length
  longest := ((contentsOf s).map String.length).foldl max 0

def wc : Tool :=
  ofManual ⟨"wc", "clmwL", "",
      [("bytes", 'c'), ("lines", 'l'), ("chars", 'm'), ("words", 'w'), ("max-line-length", 'L')],
      1⟩ fun g => do
    let letters := (g.options.map (·.1)).eraseDups
    let letters := if letters.isEmpty then ['l', 'w', 'c'] else letters
    let mut complete := true
    let mut found : Array (String × Counts) := #[]
    let mut least := 1
    for path in if g.operands.isEmpty then ["-"] else g.operands do
      let isRegular ← if path = "-" then Step.isFile 0 else pure true
      match ← readNamed path with
      | .ok text =>
        if !isRegular then least := 7
        found := found.push (path, countsOf text)
      | .error e =>
        if e = .isDirectory then
          least := 7
          found := found.push (path, ⟨0, 0, 0, 0⟩)
        complain "wc" (shown path ++ ": " ++ reason e)
        complete := false
    let total := found.toList.foldl (fun n (_, k) => n.add k) (⟨0, 0, 0, 0⟩ : Counts)
    let width := if g.operands.length ≤ 1 && letters.length = 1 then 1
      else max least (toString total.bytes).length
    let line := fun (name : String) (k : Counts) =>
      let numbers := [('l', k.lines), ('w', k.words), ('m', k.bytes), ('c', k.bytes),
        ('L', k.longest)].filter fun (c, _) => letters.contains c
      " ".intercalate (numbers.map (padded width <| toString ·.2)) ++
        (if name = "" then "\n" else " " ++ name ++ "\n")
    for (name, k) in found do
      Step.print (line (if g.operands.isEmpty then "" else name) k)
    if 1 < g.operands.length then Step.print (line "total" total)
    return if complete then 0 else 1

/-- Numbers lines; in the usual style only those that are not empty. -/
def nl : Tool :=
  ofManual ⟨"nl", "p", "bdfhilnsvw", [("body-numbering", 'b')], 1⟩ fun g =>
    filter "nl" g.operands fun s =>
      let width := ((g.value? 'w').bind natural?).getD 6
      let separator := (g.value? 's').getD "\t"
      let step := ((g.value? 'i').bind natural?).getD 1
      let style := (g.value? 'b').getD "t"
      let number := fun (n : Nat) =>
        let digits := toString n
        match g.value? 'n' with
        | some "ln" => digits ++ String.ofList (List.replicate (width - digits.length) ' ')
        | some "rz" => String.ofList (List.replicate (width - digits.length) '0') ++ digits
        | _ => padded width digits
      let (_, lines) := (contentsOf s).foldl (fun (n, lines) line =>
        if style = "a" || (style = "t" && line ≠ "") then
          (n + step, (number n ++ separator ++ line) :: lines)
        else (n, (padded (width + separator.length) "" ++ line) :: lines))
        (((g.value? 'v').bind natural?).getD 1, ([] : List String))
      joinLines lines.reverse

/-! ### Neighbours -/

/-- Runs of lines that count as equal, each with its length. -/
def runsOf (key : String → String) (lines : List String) : List (String × Nat) :=
  (lines.foldl (fun (runs : List (String × Nat)) line =>
    match runs with
    | (first, n) :: rest => if key first = key line then (first, n + 1) :: rest
      else (line, 1) :: runs
    | [] => [(line, 1)]) []).reverse

/-- A line without its first fields, which blanks precede. -/
def skipFields : Nat → List Char → List Char
  | 0, cs => cs
  | n + 1, cs => skipFields n ((cs.dropWhile Reading.isBlank).dropWhile (!Reading.isBlank ·))

def uniq : Tool :=
  ofManual ⟨"uniq", "cdDiuz", "fsw", [("count", 'c'), ("repeated", 'd'), ("unique", 'u'),
      ("ignore-case", 'i')], 1⟩ fun g => do
    let count := fun c => (g.value? c).bind natural?
    let key := fun (line : String) =>
      let cs := (skipFields ((count 'f').getD 0) line.toList).drop ((count 's').getD 0)
      let cs := match count 'w' with
        | some n => cs.take n
        | none => cs
      String.ofList (if g.has 'i' then cs.map Char.toLower else cs)
    let (parts, complete) ← sources "uniq" (g.operands.take 1)
    let runs := runsOf key (contentsOf (String.join (parts.map (·.2))))
    let chosen := runs.filter fun (_, n) => (!g.has 'd' || 1 < n) && (!g.has 'u' || n = 1)
    let text := joinLines (chosen.map fun (line, n) =>
      if g.has 'c' then padded 7 (toString n) ++ " " ++ line else line)
    match g.operands[1]? with
    | some path =>
      let _ ← Step.onDisk do
        Storage.Disk.write (← locate path) (Text.ofOctets text) false
    | none => Step.print text
    return if complete then 0 else 1

/-- Lines of two sorted lists: whether a line is in the first and in the second. -/
def merged : Nat → List String → List String → List (String × Bool × Bool)
  | 0, _, _ => []
  | fuel + 1, a :: as, b :: bs =>
    if a = b then (a, true, true) :: merged fuel as bs
    else if compareTexts a.toList b.toList = .lt then (a, true, false) :: merged fuel as (b :: bs)
    else (b, false, true) :: merged fuel (a :: as) bs
  | _, as, bs => as.map (·, true, false) ++ bs.map (·, false, true)

def comm : Tool :=
  ofManual ⟨"comm", "123", "", [], 1⟩ fun g => do
    let (parts, complete) ← sources "comm" g.operands
    match parts with
    | [(_, a), (_, b)] =>
      let (as, bs) := (contentsOf a, contentsOf b)
      let indent := fun (columns : List Char) =>
        String.ofList ((columns.filter (!g.has ·)).map fun _ => '\t')
      Step.print (joinLines ((merged (as.length + bs.length + 1) as bs).filterMap fun m =>
        match m with
        | (line, true, true) => if g.has '3' then none else some (indent ['1', '2'] ++ line)
        | (line, true, false) => if g.has '1' then none else some line
        | (line, _, _) => if g.has '2' then none else some (indent ['1'] ++ line)))
      return if complete then 0 else 1
    | _ => return 1

/-! ### Columns -/

/-- Lists of lines side by side, with marks in turn between them. -/
def sideBySide (marks : List Char) : Nat → List (List String) → List String
  | 0, _ => []
  | fuel + 1, columns =>
    if columns.all List.isEmpty then []
    else
      let fields := columns.map fun c => c.head?.getD ""
      withMarks marks marks fields :: sideBySide marks fuel (columns.map (List.drop 1))
where
  /-- Fields with marks between them; the marks start again when they are used up. -/
  withMarks (all : List Char) : List Char → List String → String
    | _, [] => ""
    | _, [f] => f
    | m :: ms, f :: fs => f ++ m.toString ++ withMarks all ms fs
    | [], f :: fs => f ++ (all.head?.map Char.toString).getD "" ++ withMarks all (all.drop 1) fs

/-- The characters of a list with its escapes. -/
def marksOf : List Char → List Char
  | '\\' :: 'n' :: rest => '\n' :: marksOf rest
  | '\\' :: 't' :: rest => '\t' :: marksOf rest
  | '\\' :: '0' :: rest => '\x00' :: marksOf rest
  | '\\' :: c :: rest => c :: marksOf rest
  | c :: rest => c :: marksOf rest
  | [] => []

/-- Every item of a list in steps, from a place on. -/
def everyNth (step first : Nat) (items : List String) : List String :=
  (items.zipIdx.filter fun (_, i) => i % step = first).map (·.1)

def paste : Tool :=
  ofManual ⟨"paste", "sz", "d", [("delimiters", 'd'), ("serial", 's')], 1⟩ fun g => do
    let marks := marksOf ((g.value? 'd').getD "\t").toList
    let paths := if g.operands.isEmpty then ["-"] else g.operands
    let (parts, complete) ← sources "paste" paths.eraseDups
    let dashes := paths.count "-"
    let columns := paths.zipIdx.filterMap fun (path, i) =>
      (parts.lookup path).map fun s =>
        if path = "-" then everyNth dashes ((paths.take i).count "-") (contentsOf s)
        else contentsOf s
    let lines :=
      if g.has 's' then columns.map fun c => sideBySide.withMarks marks marks c
      else sideBySide marks (columns.foldl (fun n c => n + c.length) 1) columns
    Step.print (joinLines lines)
    return if complete then 0 else 1

/-- Cuts a line into pieces of a width, behind blanks if they are to be kept together. -/
def foldLine (width : Nat) (atBlanks : Bool) : Nat → List Char → List (List Char)
  | 0, cs => [cs]
  | fuel + 1, cs =>
    if cs.length ≤ width || width = 0 then [cs]
    else
      let front := cs.take width
      let blank := (front.reverse.dropWhile (!Reading.isBlank ·)).length
      let n := if atBlanks && 0 < blank then blank else width
      cs.take n :: foldLine width atBlanks fuel (cs.drop n)

def fold : Tool := fun arguments =>
  ofManual ⟨"fold", "bs", "w", [("width", 'w'), ("spaces", 's')], 1⟩ (fun g =>
    filter "fold" g.operands fun s =>
      let width := ((g.value? 'w').bind natural?).getD 80
      String.join ((linesOf s).map fun line =>
        let ended := line.toList.getLast? = some '\n'
        let body := if ended then line.toList.dropLast else line.toList
        let pieces := (foldLine width (g.has 's') (body.length + 1) body).map String.ofList
        "\n".intercalate pieces ++ if ended then "\n" else ""))
    (arguments.map fun a =>
      match a.toList with
      | '-' :: d :: _ => if d.isDigit then "-w" ++ (a.drop 1).toString else a
      | _ => a)

end Tool
end Shell
end QueryFuzz
