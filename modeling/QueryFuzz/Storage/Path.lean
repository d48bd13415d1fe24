import QueryFuzz.Text.Words

/-!
# Paths

A path is written as names between slashes. Paths are kept as they are written; nothing is
dropped or resolved when two of them are joined, so a message shows the path that was configured.
-/

namespace QueryFuzz
namespace Storage

def isAbsolute (path : String) : Bool :=
  path.toList.head? == some '/'

/-- A path seen from a directory; an absolute path stands for itself. -/
def joinPath (base path : String) : String :=
  if isAbsolute path then path
  else if base.isEmpty || base.toList.getLast? == some '/' then base ++ path
  else base ++ "/" ++ path

/-- The pieces between the slashes, empty ones included. -/
def pieces (path : String) : List String :=
  (Text.splitOn '/' path.toList).map String.ofList

/-- The names of a path. Empty pieces do not count, and a point counts only at the front. -/
def componentCount (path : String) : Nat :=
  let all := pieces path
  let names := all.filter fun p => p ≠ "" ∧ p ≠ "."
  let front := if isAbsolute path || all.head? == some "." then 1 else 0
  names.length + front

/-- The path of the directory that holds the last name. -/
def parentPath (path : String) : String :=
  match (pieces path).dropLast with
  | [] => "."
  | [""] => "/"
  | front => "/".intercalate front

/-- A file name up to its last point and what follows the point. A point at the very front does
not start an extension. -/
def splitExtension (name : String) : String × Option String :=
  let cs := name.toList
  let behind := (cs.reverse.takeWhile (· ≠ '.')).reverse
  let front := cs.take (cs.length - behind.length - 1)
  if front.isEmpty || !cs.contains '.' || name == ".." then (name, none)
  else (String.ofList front, some (String.ofList behind))

end Storage
end QueryFuzz
