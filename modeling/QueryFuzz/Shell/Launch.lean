import QueryFuzz.Shell.Program

/-!
# Arguments that are commands

Some tools run another program: they take what they need from the front of their arguments, and the
rest is a command. The shell as a program takes options, and a script or a command.
-/

namespace QueryFuzz
namespace Shell

/-- What a tool asks for before another program is run. -/
structure Launch where
  command : List String
  /-- Variables that are given values. -/
  assigned : List (String × String)
  removed : List String
  /-- Is nothing of the environment handed on? -/
  isBare : Bool
  /-- The program is ended after this time, in milliseconds. -/
  limit : Option Nat

namespace Launch

def ofCommand (command : List String) : Launch := ⟨command, [], [], false, none⟩

/-- The name and the value of an argument that assigns one to the other. -/
def assignment? (s : String) : Option (String × String) :=
  let name := s.toList.takeWhile (· ≠ '=')
  match s.toList.drop name.length with
  | _ :: value => if name.isEmpty then none else some (String.ofList name, String.ofList value)
  | [] => none

/-- Takes assignments from the front of a command. -/
def withAssignments (l : Launch) : List String → Launch
  | [] => l
  | w :: rest =>
    match assignment? w with
    | some a => withAssignments { l with assigned := l.assigned ++ [a] } rest
    | none => { l with command := w :: rest }

def ofEnv : Launch → List String → Launch
  | l, "-i" :: rest | l, "-" :: rest | l, "--ignore-environment" :: rest =>
    ofEnv { l with isBare := true } rest
  | l, "-u" :: name :: rest => ofEnv { l with removed := name :: l.removed } rest
  | l, "-S" :: text :: rest => l.withAssignments (Text.words text ++ rest)
  | l, "--" :: rest => l.withAssignments rest
  | l, ws => l.withAssignments ws

/-- Drops options, some of which take a value, from the front. -/
def withoutOptions (valued : List String) : List String → List String
  | [] => []
  | "--" :: rest => rest
  | [w] => if w.startsWith "-" then [] else [w]
  | w :: value :: rest =>
    if valued.contains w then withoutOptions valued rest
    else if w.startsWith "-" then withoutOptions valued (value :: rest)
    else w :: value :: rest

/-- What the tools that run one program ask for; none if the arguments are no good. -/
def ofTool? (tool : String) (ws : List String) : Option Launch :=
  match tool with
  | "env" => some (ofEnv (ofCommand []) ws)
  | "timeout" =>
    match withoutOptions ["-s", "-k", "--signal", "--kill-after"] ws with
    | time :: command =>
      (Tool.duration? time).map fun ms =>
        { ofCommand command with limit := if ms = 0 then none else some ms }
    | [] => none
  | "nice" => some (ofCommand (withoutOptions ["-n"] ws))
  | "stdbuf" => some (ofCommand (withoutOptions ["-i", "-o", "-e"] ws))
  | _ => some (ofCommand (withoutOptions [] ws))

end Launch

/-- How the arguments of `xargs` are made into commands. -/
structure Batch where
  command : List String
  /-- The mark whose places an argument takes, one for each line. -/
  mark : Option String
  size : Option Nat
  /-- What separates arguments; blanks if nothing is said. -/
  separator : Option Char
  /-- Is nothing run without arguments? -/
  skipsEmpty : Bool
  traces : Bool

namespace Batch

def ofArguments (b : Batch) : List String → Batch
  | "-0" :: rest => ofArguments { b with separator := some '\x00' } rest
  | "-r" :: rest => ofArguments { b with skipsEmpty := true } rest
  | "-t" :: rest => ofArguments { b with traces := true } rest
  | "-n" :: n :: rest | "-L" :: n :: rest => ofArguments { b with size := n.toNat? } rest
  | "-P" :: _ :: rest => ofArguments b rest
  | "-I" :: mark :: rest => ofArguments { b with mark := some mark } rest
  | "-d" :: mark :: rest =>
    let c := if mark = "\\n" then some '\n' else if mark = "\\t" then some '\t'
      else if mark = "\\0" then some '\x00' else mark.toList.head?
    ofArguments { b with separator := c } rest
  | "--" :: rest => { b with command := rest }
  | w :: rest =>
    match w.toList with
    | '-' :: 'n' :: n => ofArguments { b with size := (String.ofList n).toNat? } rest
    | '-' :: 'I' :: mark => ofArguments { b with mark := some (String.ofList mark) } rest
    | '-' :: 'd' :: c :: _ => ofArguments { b with separator := some c } rest
    | '-' :: _ :: _ => ofArguments b rest
    | _ => { b with command := w :: rest }
  | [] => b

def standard : Batch := ⟨[], none, none, none, false, false⟩

/-- The words of a text, in which quotes and backslashes keep blanks. -/
def wordsOf : Nat → List Char → Option (List Char) → List String
  | 0, _, _ => []
  | _ + 1, [], word => word.toList.map String.ofList
  | fuel + 1, c :: rest, word =>
    let add := fun (cs : List Char) => some (word.getD [] ++ cs)
    if c = '\\' then wordsOf fuel (rest.drop 1) (add (rest.take 1))
    else if c = '\'' || c = '"' then
      let inside := rest.takeWhile (· ≠ c)
      wordsOf fuel (rest.drop (inside.length + 1)) (add inside)
    else if isSpace c then word.toList.map String.ofList ++ wordsOf fuel rest none
    else wordsOf fuel rest (add [c])

/-- The arguments in a text. -/
def items (b : Batch) (text : String) : List String :=
  match b.separator, b.mark with
  | some c, _ =>
    let pieces := (Text.splitOn c text.toList).map String.ofList
    if pieces.getLast? = some "" then pieces.dropLast else pieces
  | none, some _ =>
    ((Tool.contentsOf text).map fun line => String.ofList (line.toList.dropWhile isSpace)).filter
      (· ≠ "")
  | none, none => wordsOf (text.length + 1) text.toList none

/-- The commands that are run for a text. -/
def commands (b : Batch) (text : String) : List (List String) :=
  let command := if b.command.isEmpty then ["echo"] else b.command
  let items := b.items text
  match b.mark with
  | some mark => items.map fun item => command.map fun w => Text.replaceAll w mark item
  | none =>
    if items.isEmpty then (if b.skipsEmpty then [] else [command])
    else (Tool.groupsOf (b.size.getD items.length) (items.length + 1) items).map (command ++ ·)

end Batch

/-- What the arguments of the shell ask for. -/
structure Call where
  options : List (Bool × Char)
  /-- Options by their long names. -/
  named : List (Bool × String)
  isCommand : Bool
  readsInput : Bool
  operands : List String

namespace Call

def ofArguments (c : Call) : List String → Call
  | [] => c
  | w :: rest =>
    match w.toList with
    | ['-'] | ['-', '-'] => { c with operands := rest }
    | sign :: letters =>
      if sign = '-' || sign = '+' then
        let isOn := sign == '-'
        let others := letters.filter fun l => l ≠ 'c' && l ≠ 'o' && l ≠ 's' && l ≠ 'l'
        let c := { c with
          options := c.options ++ others.map (isOn, ·)
          isCommand := c.isCommand || letters.contains 'c'
          readsInput := c.readsInput || letters.contains 's' }
        match rest with
        | name :: more =>
          if letters.contains 'o' then
            ofArguments { c with named := c.named ++ [(isOn, name)] } more
          else ofArguments c (name :: more)
        | [] => c
      else { c with operands := w :: rest }
    | [] => { c with operands := w :: rest }

def parse (ws : List String) : Call := ofArguments ⟨[], [], false, false, []⟩ ws

end Call

end Shell
end QueryFuzz
