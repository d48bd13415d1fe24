import QueryFuzz.Shell.Pattern

/-!
# Fields

A word is expanded to any number of fields. Separators in text that comes from an expansion outside
of quotes end fields; a separator that is a blank does not make empty ones. The null character
separates whatever the separators are; it stands between arguments.
-/

namespace QueryFuzz
namespace Shell

/-- Fields under construction; both lists grow at the front. -/
structure Fields where
  complete : List Field
  open_ : Field
  /-- Has the current field begun? It may be empty and yet count. -/
  started : Bool

namespace Fields

def empty : Fields := ⟨[], [], false⟩

def append (f : Fields) (s : String) (quoted : Bool) : Fields :=
  { f with
    open_ := s.toList.foldl (fun cs c => (c, quoted) :: cs) f.open_
    started := f.started || quoted || s ≠ "" }

/-- The field that is not yet complete. -/
def current (f : Fields) : Field := f.open_.reverse

def finish (f : Fields) : Fields := ⟨f.current :: f.complete, [], false⟩

/-- All fields, with the current one if it has begun. -/
def toList (f : Fields) : List Field :=
  (if f.started then f.current :: f.complete else f.complete).reverse

/-- Arguments that stay fields of their own. -/
def appendAll (f : Fields) : List String → Fields
  | [] => f
  | [s] => f.append s true
  | s :: rest => appendAll (f.append s true).finish rest

def isSpace (c : Char) : Bool := c = ' ' || c = '\t' || c = '\n' || c = '\x00'

def isSeparator (separators : List Char) (c : Char) : Bool := c = '\x00' || separators.contains c

/-- What follows a separator: the blanks behind it belong to it, and so does one other separator if
it was a blank itself. -/
def behindSeparator (separators : List Char) (blank : Bool) : List Char → List Char
  | [] => []
  | c :: rest =>
    if !isSeparator separators c then c :: rest
    else if isSpace c then behindSeparator separators blank rest
    else if blank then behindSeparator separators false rest
    else c :: rest

theorem behindSeparator_length_le (separators : List Char) (blank : Bool) (cs : List Char) :
    (behindSeparator separators blank cs).length ≤ cs.length := by
  induction cs generalizing blank with
  | nil => exact Nat.le_refl _
  | cons c rest ih =>
    unfold behindSeparator
    split
    · exact Nat.le_refl _
    · split
      · exact Nat.le_succ_of_le (ih blank)
      · split
        · exact Nat.le_succ_of_le (ih false)
        · exact Nat.le_refl _

/-- Text in which separators end fields. -/
def appendSplit (separators : List Char) (f : Fields) (cs : List Char) : Fields :=
  match cs with
  | [] => f
  | c :: rest =>
    if !isSeparator separators c then appendSplit separators (f.append c.toString false) rest
    else if isSpace c && !f.started then appendSplit separators f rest
    else appendSplit separators f.finish (behindSeparator separators (isSpace c) rest)
termination_by cs.length
decreasing_by
  · simp only [List.length_cons]; omega
  · simp only [List.length_cons]; omega
  · have := behindSeparator_length_le separators (isSpace c) rest
    simp only [List.length_cons]; omega

end Fields

/-- Divides a line between a number of variables. Quoted characters separate nothing. The last
variable takes what is left; it loses the blanks at its end, and a single separator that ends the
only field it would take. -/
def divide (separators : List Char) (line : Field) : Nat → List String
  | 0 => []
  | n + 1 =>
    let isSep := fun (c, quoted) => !quoted && separators.contains c
    let isBlank := fun m : Mark => isSep m && Fields.isSpace m.1
    let line := line.dropWhile isBlank
    let front := line.takeWhile (!isSep ·)
    let rest := line.drop front.length
    if n = 0 then
      let trimmed := (line.reverse.dropWhile isBlank).reverse
      let behind := (rest.dropWhile isBlank)
      let ending := match behind with
        | m :: after => if isSep m then after.dropWhile isBlank else behind
        | [] => []
      [Field.text (if ending.isEmpty then front else trimmed)]
    else
      let next := match rest.dropWhile isBlank with
        | m :: after => if isSep m then after else m :: after
        | [] => []
      Field.text front :: divide separators next n

end Shell
end QueryFuzz
