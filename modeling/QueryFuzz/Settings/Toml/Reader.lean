import QueryFuzz.Settings.Toml.Draft
import QueryFuzz.Settings.Toml.Scalar

/-!
# Reading TOML

A document is a sequence of lines: headers, which name the table that the lines after them belong
to, and keys with their values. Lists may stretch over lines, tables in braces may not. Values
nest to a bounded depth, and a key has a bounded number of parts.
-/

namespace QueryFuzz
namespace Settings
namespace Toml

/-- Values nest less deep than this, and keys have fewer parts. -/
def maxDepth : Nat := 80

def dropBlanks (cs : List Char) : List Char :=
  cs.dropWhile fun c => c = ' ' || c = '\t'

/-- What follows a comment, if there is one; it ends before the line break. -/
def dropComment? (cs : List Char) : Option (List Char) :=
  match cs with
  | '#' :: rest =>
    let rest := rest.dropWhile isPlain
    if rest.isEmpty || (lineBreak? rest).isSome then some rest else none
  | cs => some cs

/-- The end of a line: blanks, a comment, and the line break or the end of the text. -/
def lineEnd? (cs : List Char) : Option (List Char) := do
  let rest ← dropComment? (dropBlanks cs)
  if rest.isEmpty then some [] else lineBreak? rest

/-- Blanks, comments and line breaks between the items of a list. -/
def dropGap? : Nat → List Char → Option (List Char)
  | 0, _ => none
  | fuel + 1, cs => do
    let rest ← dropComment? (dropBlanks cs)
    match lineBreak? rest with
    | some rest => dropGap? fuel rest
    | none => some rest

def gap? (cs : List Char) : Option (List Char) := dropGap? (cs.length + 1) cs

def isBareKeyChar (c : Char) : Bool := c.isAlphanum || c = '_' || c = '-'

/-- One part of a key. -/
def keyPart? (cs : List Char) : Option (String × List Char) :=
  match cs with
  | '"' :: _ | '\'' :: _ => (lineText? cs).map fun (t, rest) => (String.ofList t, rest)
  | cs =>
    let name := cs.takeWhile isBareKeyChar
    if name.isEmpty then none else some (String.ofList name, cs.drop name.length)

/-- A key: its parts but the last, the last, and what follows. -/
def key? : Nat → List Char → Option (List String × String × List Char)
  | 0, _ => none
  | fuel + 1, cs => do
    let (part, rest) ← keyPart? (dropBlanks cs)
    match dropBlanks rest with
    | '.' :: rest => do
      let (path, name, rest) ← key? fuel rest
      return (part :: path, name, rest)
    | rest => return ([], part, rest)

/-- The items of a list behind its opening bracket. -/
def items? (value? : List Char → Option (Document × List Char)) :
    Nat → List Char → Option (List Document × List Char)
  | 0, _ => none
  | fuel + 1, cs => do
    match ← gap? cs with
    | ']' :: rest => return ([], rest)
    | cs =>
      let (d, rest) ← value? cs
      match ← gap? rest with
      | ',' :: rest =>
        let (ds, rest) ← items? value? fuel rest
        return (d :: ds, rest)
      | ']' :: rest => return ([d], rest)
      | _ => none

/-- A key and its value. -/
def pair? (value? : List Char → Option (Document × List Char)) (cs : List Char) :
    Option (List String × String × Document × List Char) := do
  let (path, name, rest) ← key? (maxDepth - 1) cs
  let rest ← expect? '=' rest
  let (d, rest) ← value? (dropBlanks rest)
  return (path, name, d, rest)

/-- The pairs of a table in braces, at least one, joined to those before them. -/
def pairs? (value? : List Char → Option (Document × List Char)) (entries : Entries) :
    Nat → List Char → Option (Entries × List Char)
  | 0, _ => none
  | fuel + 1, cs => do
    let (path, name, d, rest) ← pair? value? cs
    let entries ← entries.put path name d .headed
    match dropBlanks rest with
    | ',' :: rest => pairs? value? entries fuel rest
    | '\x7d' :: rest => return (entries, rest)
    | _ => none

/-- A value of a bounded depth and what follows it. -/
def value? : Nat → List Char → Option (Document × List Char)
  | 0, _ => none
  | depth + 1, cs =>
    match cs with
    | '[' :: rest => do
      if depth = 0 then none
      let (ds, rest) ← items? (value? depth) (rest.length + 1) rest
      return (.list ds, rest)
    | '\x7b' :: rest => do
      if depth = 0 then none
      match dropBlanks rest with
      | '\x7d' :: rest => return (.table [], rest)
      | rest =>
        let (entries, rest) ← pairs? (value? depth) [] (rest.length + 1) rest
        return (.table (documentEntries entries), rest)
    | cs => scalar? cs

/-- A document that was read up to some line: its tables, and the header that is in force. -/
structure Progress where
  root : Entries
  header : List String

/-- Reads one line that is not empty. -/
def line? (p : Progress) (cs : List Char) : Option (Progress × List Char) :=
  match cs with
  | '[' :: '[' :: rest => do
    let (path, name, rest) ← key? (maxDepth - 1) rest
    let rest ← expect? ']' (← expect? ']' rest)
    return (⟨← p.root.startItem path name, path ++ [name]⟩, rest)
  | '[' :: rest => do
    let (path, name, rest) ← key? (maxDepth - 1) rest
    let rest ← expect? ']' rest
    return (⟨← p.root.startTable path name, path ++ [name]⟩, rest)
  | cs => do
    let (path, name, d, rest) ← pair? (value? maxDepth) cs
    return (⟨← p.root.putBelow p.header path name d, p.header⟩, rest)

def lines? (p : Progress) : Nat → List Char → Option Progress
  | 0, _ => none
  | fuel + 1, cs => do
    match ← gap? cs with
    | [] => return p
    | cs =>
      let (p, rest) ← line? p cs
      lines? p fuel (← lineEnd? rest)

/-- Reads a document; none if it is malformed. -/
def read? (text : String) : Option Document := do
  let cs := match text.toList with
    | '\uFEFF' :: rest => rest
    | cs => cs
  let p ← lines? ⟨[], []⟩ (cs.length + 1) cs
  return .table (documentEntries p.root)

end Toml
end Settings
end QueryFuzz
