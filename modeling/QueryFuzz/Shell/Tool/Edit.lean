import QueryFuzz.Shell.Expression
import QueryFuzz.Shell.Tool.Basic

/-!
# Editing lines

`sed` runs a list of commands for every line of its input. A command may be limited to lines by
their numbers or by what occurs in them, and may jump to another place of the list. Besides the
line at hand there is a second text that is kept from line to line.
-/

namespace QueryFuzz
namespace Shell
namespace Tool
namespace Editing

inductive Address where
  | line (n : Nat)
  | last
  /-- Lines in which an expression occurs; none means the expression that was used last. -/
  | occurrence (e : Option Expression) (foldsCase : Bool)
  /-- Every line from one on, in steps. -/
  | every (first step : Nat)

/-- The lines that a command is for. -/
inductive Selector where
  | all
  | one (a : Address)
  | range (first final : Address)
  /-- A line and some lines behind it. -/
  | following (first : Address) (count : Nat)

/-- What a match is replaced by. -/
inductive Replacement where
  | text (s : String)
  | group (number : Nat)
  /-- Changes the case of what follows. -/
  | case (letter : Char)

inductive Command where
  | substitute (e : Option Expression) (foldsCase : Bool) (new : List Replacement)
      (everywhere : Bool) (first : Nat) (prints : Bool)
  | exchange (old new : List Char)
  /-- A command with a text: `a`, `i` or `c`. -/
  | text (letter : Char) (s : String)
  | quit (letter : Char) (code : Nat)
  | jump (letter : Char) (label : String)
  | label (name : String)
  | opening
  | closing
  /-- Any other command. -/
  | plain (letter : Char)

structure Rule where
  selector : Selector
  negated : Bool
  command : Command

/-! ### Reading -/

structure Draft where
  rest : List Char
  position : Nat
  isExtended : Bool

abbrev Drafting := StateT Draft (Except String)

def failWith {α : Type} (problem : String) : Drafting α := do
  throw ("-e expression #1, char " ++ toString (← get).position ++ ": " ++ problem)

def peek : Drafting (Option Char) := return (← get).rest.head?

def take (n : Nat) : Drafting (List Char) := do
  let d ← get
  set { d with rest := d.rest.drop n, position := d.position + min n d.rest.length }
  return d.rest.take n

def takeWhile (p : Char → Bool) : Drafting (List Char) := do
  take ((← get).rest.takeWhile p).length

def accept (c : Char) : Drafting Bool := do
  if (← peek) = some c then
    let _ ← take 1
    return true
  else return false

def blanks : Drafting Unit := do
  let _ ← takeWhile Reading.isBlank

def number? : Drafting (Option Nat) := do
  let digits ← takeWhile Char.isDigit
  return if digits.isEmpty then none else (String.ofList digits).toNat?

/-- The text up to a mark. A mark behind a backslash belongs to the text, without the backslash. -/
def upTo (mark : Char) (inExpression : Bool) (problem : String) : Nat → Bool → Drafting (List Char)
  | 0, _ => failWith problem
  | fuel + 1, inBrackets => do
    match ← take 1 with
    | ['\\'] =>
      match ← take 1 with
      | [c] =>
        let part := if c = mark then [c]
          else if c = 'n' && inExpression then ['\n'] else ['\\', c]
        return part ++ (← upTo mark inExpression problem fuel inBrackets)
      | _ => failWith problem
    | [c] =>
      if c = mark && !inBrackets then return []
      else if c = '\n' && inExpression then failWith problem
      else
        let inBrackets := inExpression && ((c = '[' && !inBrackets) || (inBrackets && c ≠ ']'))
        return c :: (← upTo mark inExpression problem fuel inBrackets)
    | _ => failWith problem

def textTo (mark : Char) (inExpression : Bool) (problem : String) : Drafting String := do
  return String.ofList (← upTo mark inExpression problem ((← get).rest.length + 1) false)

/-- An expression; none if the text is empty. -/
def expression (s : String) : Drafting (Option Expression) := do
  if s = "" then return none
  match Expression.read (← get).isExtended s with
  | .ok e => return some e
  | .error e => failWith e

def address? : Drafting (Option Address) := do
  match ← peek with
  | some '$' =>
    let _ ← take 1
    return some .last
  | some '/' => occurrence 1
  | some '\\' => occurrence 2
  | _ =>
    match ← number? with
    | some n =>
      if ← accept '~' then return some (.every n ((← number?).getD 0))
      else return some (.line n)
    | none => return none
where
  occurrence (n : Nat) : Drafting (Option Address) := do
    let mark := ((← take n).getLast?).getD '/'
    let s ← textTo mark true "unterminated address regex"
    let foldsCase ← accept 'I'
    return some (.occurrence (← expression s) foldsCase)

def selector : Drafting Selector := do
  match ← address? with
  | none => return .all
  | some a =>
    blanks
    if ← accept ',' then
      blanks
      if ← accept '+' then return .following a ((← number?).getD 0)
      match ← address? with
      | some b => return .range a b
      | none => failWith "unexpected \x60,'"
    else return .one a

/-- The parts of a replacement. -/
def replacements : List Char → List Replacement
  | [] => []
  | '\\' :: c :: rest =>
    if c.isDigit then .group (c.toNat - 48) :: replacements rest
    else if ['U', 'L', 'u', 'l', 'E'].contains c then .case c :: replacements rest
    else if c = 'n' then .text "\n" :: replacements rest
    else if c = 't' then .text "\t" :: replacements rest
    else .text c.toString :: replacements rest
  | '&' :: rest => .group 0 :: replacements rest
  | c :: rest => .text c.toString :: replacements rest

/-- The flags behind a substitution. -/
def flags : Nat → Bool × Bool × Nat × Bool → Drafting (Bool × Bool × Nat × Bool)
  | 0, f => return f
  | fuel + 1, (everywhere, foldsCase, first, prints) => do
    match ← peek with
    | some 'g' =>
      let _ ← take 1
      flags fuel (true, foldsCase, first, prints)
    | some 'i' | some 'I' =>
      let _ ← take 1
      flags fuel (everywhere, true, first, prints)
    | some 'p' =>
      let _ ← take 1
      flags fuel (everywhere, foldsCase, first, true)
    | some 'm' | some 'M' =>
      let _ ← take 1
      flags fuel (everywhere, foldsCase, first, prints)
    | some c =>
      if c.isDigit then
        let n ← number?
        flags fuel (everywhere, foldsCase, n.getD 1, prints)
      else return (everywhere, foldsCase, first, prints)
    | none => return (everywhere, foldsCase, first, prints)

/-- The text of a command, with its lines joined by backslashes. -/
def commandText : Nat → Drafting (List Char)
  | 0 => return []
  | fuel + 1 => do
    match ← take 1 with
    | ['\\'] =>
      match ← take 1 with
      | [c] => return c :: (← commandText fuel)
      | _ => return []
    | [c] => if c = '\n' then return [] else return c :: (← commandText fuel)
    | _ => return []

/-- What follows a command has to be the end of it. -/
def finish : Drafting Unit := do
  blanks
  match ← peek with
  | none => return
  | some c =>
    if c = ';' || c = '\n' then
      let _ ← take 1
    else if c = '\x7d' || c = '#' then return
    else
      let _ ← take 1
      failWith "extra characters after command"

def command (fuel : Nat) : Drafting Command := do
  match ← take 1 with
  | ['s'] =>
    match ← take 1 with
    | [mark] =>
      let old ← textTo mark true "unterminated \x60s' command"
      let new ← textTo mark false "unterminated \x60s' command"
      let (everywhere, foldsCase, first, prints) ← flags fuel (false, false, 1, false)
      match ← peek with
      | some c =>
        if !(['\x7d', '#', ';', '\n', ' '].contains c) then
          let _ ← take 1
          failWith "unknown option to \x60s'"
      | none => pure ()
      let e ← expression old
      finish
      return .substitute e foldsCase (replacements new.toList) everywhere first prints
    | _ => failWith "unterminated \x60s' command"
  | ['y'] =>
    match ← take 1 with
    | [mark] =>
      let unescape := fun (s : String) => (replacements s.toList).filterMap fun r => match r with
        | .text t => t.toList.head?
        | .group 0 => some '&'
        | _ => none
      let old ← textTo mark false "unterminated \x60y' command"
      let new ← textTo mark false "unterminated \x60y' command"
      let (old, new) := (unescape old, unescape new)
      if old.length ≠ new.length then
        failWith "strings for \x60y' command are different lengths"
      finish
      return .exchange old new
    | _ => failWith "unterminated \x60y' command"
  | [c] =>
    if ['a', 'i', 'c'].contains c then
      blanks
      if (← peek) = some '\\' then
        let _ ← take 1
        blanks
        if !(← accept '\n') then pure ()
      if (← peek) = none then failWith "expected \\ after \x60a', \x60c' or \x60i'"
      return .text c (String.ofList (← commandText ((← get).rest.length + 1)) ++ "\n")
    else if c = ':' then
      blanks
      let name ← takeWhile fun c => c ≠ '\n' && c ≠ ';'
      return .label (Text.trim (String.ofList name))
    else if ['b', 't', 'T'].contains c then
      blanks
      let name ← takeWhile fun c => c ≠ '\n' && c ≠ ';' && c ≠ '\x7d'
      return .jump c (Text.trim (String.ofList name))
    else if c = 'q' || c = 'Q' then
      blanks
      let code := (← number?).getD 0
      finish
      return .quit c code
    else if c = '\x7b' then return .opening
    else if c = '\x7d' then
      finish
      return .closing
    else if ['d', 'D', 'p', 'P', 'n', 'N', 'h', 'H', 'g', 'G', 'x', '=', 'l', 'z'].contains c then
      finish
      return .plain c
    else failWith ("unknown command: \x60" ++ c.toString ++ "'")
  | _ => failWith "missing command"

def rules : Nat → Drafting (List Rule)
  | 0 => return []
  | fuel + 1 => do
    let _ ← takeWhile fun c => isSpace c || c = ';'
    match ← peek with
    | none => return []
    | some '#' =>
      let _ ← takeWhile (· ≠ '\n')
      rules fuel
    | some _ =>
      let s ← selector
      blanks
      let negated ← accept '!'
      blanks
      let c ← command fuel
      return ⟨s, negated, c⟩ :: (← rules fuel)

/-- Refuses commands in which something is closed that was not opened, or left open. -/
def checkBlocks : Nat → List Rule → Except String Unit
  | 0, [] => .ok ()
  | _, [] => .error "-e expression #1, char 0: unmatched \x60\x7b'"
  | depth, r :: rest =>
    match r.command, depth with
    | .opening, depth => checkBlocks (depth + 1) rest
    | .closing, 0 => .error "-e expression #1, char 1: unexpected \x60\x7d'"
    | .closing, depth + 1 => checkBlocks depth rest
    | _, depth => checkBlocks depth rest

def read (isExtended : Bool) (script : String) : Except String (List Rule) := do
  let rs ← (rules (script.length + 1)).run' ⟨script.toList, 0, isExtended⟩
  checkBlocks 0 rs
  return rs

/-! ### Running -/

structure Edit where
  lines : List String
  number : Nat
  pattern : String
  hold : String
  /-- Ranges that have begun, by the places of their commands, with the line that ends them if it
  is known. -/
  begun : List (Nat × Option Nat)
  printed : List String
  /-- What is printed behind the line. -/
  queue : List String
  /-- Has anything been replaced? -/
  replaced : Bool
  lastUsed : Option Expression
  code : Option Nat
  /-- Has the input a last line break? -/
  endsWithBreak : Bool

abbrev Editor := StateM Edit

def put (s : String) : Editor Unit := modify fun e => { e with printed := s :: e.printed }

/-- Prints a text as a line; the last line is printed as it was read. -/
def putLine (s : String) : Editor Unit := do
  let e ← get
  put (if e.lines.isEmpty && !e.endsWithBreak then s else s ++ "\n")

def used (e : Option Expression) : Editor Expression := do
  match e with
  | some e =>
    modify fun s => { s with lastUsed := some e }
    return e
  | none => return ((← get).lastUsed).getD .empty

def isAt (a : Address) : Editor Bool := do
  let s ← get
  match a with
  | .line n => return s.number = n
  | .last => return s.lines.isEmpty
  | .every first step =>
    return if step = 0 then s.number = first
      else first ≤ s.number && (s.number - first) % step = 0
  | .occurrence e foldsCase =>
    return ((← used e).match? s.pattern.toList.toArray foldsCase 0).isSome

/-- Is a command for the line at hand? -/
def isSelected (place : Nat) (r : Rule) : Editor Bool := do
  let begin_ := fun (stop : Option Nat) => do
    modify fun s => { s with begun := (place, stop) :: s.begun }
  let end_ : Editor Unit := modify fun s => { s with begun := s.begun.filter (·.1 ≠ place) }
  match r.selector with
  | .all => return true
  | .one a => isAt a
  | .following first count =>
    let s ← get
    match s.begun.lookup place with
    | some stop =>
      if stop.any (· ≤ s.number) then end_
      return true
    | none =>
      if ← isAt first then
        if 0 < count then begin_ (some (s.number + count))
        return true
      else return false
  | .range first final =>
    let s ← get
    match s.begun.lookup place with
    | some _ =>
      match final with
      | .line n =>
        if n ≤ s.number then end_
        return n ≥ s.number
      | final =>
        if ← isAt final then end_
        return true
    | none =>
      if ← isAt first then
        match final with
        | .line n => if s.number < n then begin_ none
        | _ => begin_ none
        return true
      else return false

/-- A replacement with the groups of a match in their places. -/
def replaced (text : Array Char) (m : Expression.Match) (new : List Replacement) : List Char :=
  let part := fun (n : Nat) =>
    if n = 0 then (text.extract m.start m.stop).toList
    else match m.groups.lookup n with
      | some (i, j) => (text.extract i j).toList
      | none => []
  let add := fun ((out, all, one) : List Char × Option Char × Option Char) (cs : List Char) =>
    let cs := match all with
      | some 'U' => cs.map Char.toUpper
      | some 'L' => cs.map Char.toLower
      | _ => cs
    match one, cs with
    | some 'u', c :: rest => (out ++ c.toUpper :: rest, all, none)
    | some 'l', c :: rest => (out ++ c.toLower :: rest, all, none)
    | one, cs => (out ++ cs, all, one)
  (new.foldl (fun state r =>
    let (out, all, one) := state
    match r with
    | .text s => add state s.toList
    | .group n => add state (part n)
    | .case 'E' => (out, none, none)
    | .case c => if c.isUpper then (out, some c, one) else (out, all, some c))
    (([] : List Char), (none : Option Char), (none : Option Char))).1

/-- A text with matches replaced, from a position on, and whether there were any; `behind` tells
that a match has just ended here. -/
def substituted (e : Expression) (foldsCase : Bool) (new : List Replacement) (everywhere : Bool)
    (text : Array Char) : Nat → Nat → Nat → Bool → List Char × Bool
  | 0, _, i, _ => ((text.extract i text.size).toList, false)
  | fuel + 1, first, i, behind =>
    let step := fun (first : Nat) =>
      match text[i]? with
      | some c =>
        let (rest, any) := substituted e foldsCase new everywhere text fuel first (i + 1) false
        (c :: rest, any)
      | none => ([], false)
    match e.match? text foldsCase i with
    | none => ((text.extract i text.size).toList, false)
    | some m =>
      if m.start = m.stop && m.start = i && behind then step first
      else
        let between := (text.extract i m.start).toList
        if 1 < first then
          let kept := (text.extract m.start m.stop).toList
          if m.start = m.stop then
            match text[m.stop]? with
            | some c =>
              let (rest, any) :=
                substituted e foldsCase new everywhere text fuel (first - 1) (m.stop + 1) false
              (between ++ c :: rest, any)
            | none => (between, false)
          else
            let (rest, any) :=
              substituted e foldsCase new everywhere text fuel (first - 1) m.stop true
            (between ++ kept ++ rest, any)
        else
          let put := between ++ replaced text m new
          if !everywhere then (put ++ (text.extract m.stop text.size).toList, true)
          else if m.start = m.stop then
            match text[m.stop]? with
            | some c =>
              let (rest, _) :=
                substituted e foldsCase new everywhere text fuel first (m.stop + 1) false
              (put ++ c :: rest, true)
            | none => (put, true)
          else
            let (rest, _) := substituted e foldsCase new everywhere text fuel first m.stop true
            (put ++ rest, true)

/-- Where to go on after a command. -/
inductive Next where
  | on
  | to (place : Nat)
  /-- The end of the list; the line is printed unless the flag says otherwise. -/
  | finished (prints : Bool)
  /-- The list is run again without reading a line. -/
  | again

/-- What has to be printed at the end of a turn. -/
def endTurn (isQuiet prints : Bool) : Editor Unit := do
  if prints && !isQuiet then putLine (← get).pattern
  let e ← get
  e.queue.reverse.forM put
  modify fun e => { e with queue := [] }

/-- Takes the next line into the pattern; fails at the end. -/
def nextLine (joins : Bool) : Editor Bool := do
  let e ← get
  match e.lines with
  | [] => return false
  | line :: rest =>
    set { e with
      lines := rest, number := e.number + 1
      pattern := if joins then e.pattern ++ "\n" ++ line else line }
    return true

def upToBreak (s : String) : String × Option String :=
  let front := s.toList.takeWhile (· ≠ '\n')
  match s.toList.drop front.length with
  | _ :: rest => (String.ofList front, some (String.ofList rest))
  | [] => (s, none)

def labelPlace (rs : Array Rule) (name : String) : Next :=
  if name = "" then .finished true
  else match rs.findIdx? fun r => match r.command with
      | .label n => n = name
      | _ => false with
    | some i => .to i
    | none => .finished true

/-- Where the block that opens at a place closes. -/
def closingPlace (rs : Array Rule) : Nat → Nat → Nat → Nat
  | 0, _, place => place
  | fuel + 1, depth, place =>
    match rs[place]? with
    | some r =>
      match r.command with
      | .opening => closingPlace rs fuel (depth + 1) (place + 1)
      | .closing => if depth = 0 then place else closingPlace rs fuel (depth - 1) (place + 1)
      | _ => closingPlace rs fuel depth (place + 1)
    | none => place

def perform (rs : Array Rule) (isQuiet : Bool) (c : Command) : Editor Next := do
  let e ← get
  match c with
  | .substitute x foldsCase new everywhere first prints =>
    let x ← used x
    let text := e.pattern.toList.toArray
    let (out, any) := substituted x foldsCase new everywhere text (2 * text.size + 2) first 0 false
    if any then
      modify fun e => { e with pattern := String.ofList out, replaced := true }
      if prints then putLine (← get).pattern
    return .on
  | .exchange old new =>
    set { e with pattern := e.pattern.map fun c => ((old.zip new).lookup c).getD c }
    return .on
  | .text 'a' s =>
    set { e with queue := s :: e.queue }
    return .on
  | .text 'i' s =>
    put s
    return .on
  | .text _ s =>
    put s
    return .finished false
  | .quit letter code =>
    set { e with code := some code }
    return .finished (letter = 'q')
  | .jump 'b' name => return labelPlace rs name
  | .jump letter name =>
    set { e with replaced := false }
    return if e.replaced == (letter = 't') then labelPlace rs name else .on
  | .plain 'd' => return .finished false
  | .plain 'D' =>
    match upToBreak e.pattern with
    | (_, some rest) =>
      set { e with pattern := rest }
      return .again
    | (_, none) => return .finished false
  | .plain 'p' =>
    putLine e.pattern
    return .on
  | .plain 'P' =>
    put ((upToBreak e.pattern).1 ++ "\n")
    return .on
  | .plain 'n' =>
    if e.lines.isEmpty then
      set { e with code := some 0 }
      return .finished true
    else
      endTurn isQuiet true
      let _ ← nextLine false
      return .on
  | .plain 'N' =>
    if e.lines.isEmpty then
      set { e with code := some 0 }
      return .finished true
    else
      let _ ← nextLine true
      return .on
  | .plain 'h' =>
    set { e with hold := e.pattern }
    return .on
  | .plain 'H' =>
    set { e with hold := e.hold ++ "\n" ++ e.pattern }
    return .on
  | .plain 'g' =>
    set { e with pattern := e.hold }
    return .on
  | .plain 'G' =>
    set { e with pattern := e.pattern ++ "\n" ++ e.hold }
    return .on
  | .plain 'x' =>
    set { e with pattern := e.hold, hold := e.pattern }
    return .on
  | .plain 'z' =>
    set { e with pattern := "" }
    return .on
  | .plain '=' =>
    put (toString e.number ++ "\n")
    return .on
  | _ => return .on

/-- Runs the commands from a place on; the result tells how the turn ends. -/
def runFrom (rs : Array Rule) (isQuiet : Bool) : Nat → Nat → Editor Next
  | 0, _ => return .finished true
  | fuel + 1, place => do
    match rs[place]? with
    | none => return .finished true
    | some r =>
      let selected ← isSelected place r
      if selected == r.negated then
        match r.command with
        | .opening => runFrom rs isQuiet fuel (closingPlace rs rs.size 0 (place + 1))
        | _ => runFrom rs isQuiet fuel (place + 1)
      else
        match ← perform rs isQuiet r.command with
        | .on => runFrom rs isQuiet fuel (place + 1)
        | .to place => runFrom rs isQuiet fuel place
        | next => return next

/-- Runs the commands for one line after the other. -/
def run (rs : Array Rule) (isQuiet : Bool) : Nat → Bool → Editor Unit
  | 0, _ => return
  | fuel + 1, reads => do
    let goes ← if reads then nextLine false else pure true
    if goes then
      modify fun e => { e with replaced := false }
      match ← runFrom rs isQuiet 10000 0 with
      | .again =>
        endTurn isQuiet false
        run rs isQuiet fuel false
      | .finished prints =>
        endTurn isQuiet prints
        if (← get).code.isNone then run rs isQuiet fuel true
      | _ => return

/-- The text that commands make of another, and the exit code. -/
def edited (rs : List Rule) (isQuiet : Bool) (text : String) : String × Nat :=
  let lines := contentsOf text
  let start : Edit := ⟨lines, 0, "", "", [], [], [], false, none, none,
    text.toList.getLast? = some '\n'⟩
  let (_, e) := run rs.toArray isQuiet (2 * text.length + 2) true start
  (String.join e.printed.reverse, e.code.getD 0)

end Editing

open Editing

def sed : Tool := fun arguments =>
  let m : Manual := ⟨"sed", "nErsiuz", "ef",
    [("quiet", 'n'), ("silent", 'n'), ("regexp-extended", 'E'), ("expression", 'e'),
      ("file", 'f'), ("in-place", 'i')], 1⟩
  ofManual m (fun g => do
    let scripts ← scriptsOf g.options
    let (scripts, paths) := if g.has 'e' || g.has 'f' then (scripts, g.operands)
      else (g.operands.take 1, g.operands.drop 1)
    if scripts.isEmpty then
      Step.report "Usage: sed [OPTION]... \x7bscript-only-if-no-other-script\x7d [input-file]..."
      return 1
    match Editing.read (g.has 'E' || g.has 'r') ("\n".intercalate scripts) with
    | .error e =>
      complain "sed" e
      return 1
    | .ok rs => if g.has 'i' then inPlace g rs paths else onStream g rs paths) arguments
where
  scriptsOf : List (Char × String) → Step (List String)
    | [] => return []
    | ('e', s) :: rest => return s :: (← scriptsOf rest)
    | ('f', path) :: rest => do
      let text := match ← readNamed path with
        | .ok text => [text]
        | .error _ => []
      return text ++ (← scriptsOf rest)
    | _ :: rest => scriptsOf rest
  texts (paths : List String) : Step (List (String × String) × Bool) := do
    let mut found := #[]
    let mut complete := true
    for path in if paths.isEmpty then ["-"] else paths do
      match ← readNamed path with
      | .ok text => found := found.push (path, text)
      | .error e =>
        complain "sed" (if e = .isDirectory then "couldn't read " ++ path ++ ": " ++ reason e
          else "can't read " ++ path ++ ": " ++ reason e)
        complete := false
    return (found.toList, complete)
  onStream (g : Given) (rs : List Rule) (paths : List String) : Step Nat := do
    let (parts, complete) ← texts paths
    let text := parts.foldl (fun all (_, s) =>
      if all ≠ "" && all.toList.getLast? ≠ some '\n' then all ++ "\n" ++ s else all ++ s) ""
    let (out, code) := edited rs (g.has 'n') text
    Step.print out
    return if complete || code ≠ 0 then code else 2
  inPlace (g : Given) (rs : List Rule) (paths : List String) : Step Nat := do
    let (parts, complete) ← texts paths
    for (path, text) in parts do
      let _ ← Step.onDisk do
        Storage.Disk.write (← locate path)
          (Text.ofOctets (edited rs (g.has 'n') text).1) false
    return if complete then 0 else 2

end Tool
end Shell
end QueryFuzz
