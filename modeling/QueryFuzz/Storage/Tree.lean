/-!
# File trees

A file tree is a finite map from locations to directories and files. A location is the list of
names that lead there from the root; the root itself is always a directory. Moving a directory
moves everything below it in one step.
-/

namespace QueryFuzz
namespace Storage

/-- The names that lead to a file or a directory from the root. -/
abbrev Location := List String

/-- Name by name; a location comes before all that is below it. -/
def Location.precedes : Location → Location → Bool
  | [], _ => true
  | _ :: _, [] => false
  | x :: xs, y :: ys => if x = y then Location.precedes xs ys else x ≤ y

/-- The absolute path of a location. -/
def Location.path (l : Location) : String := "/" ++ "/".intercalate l

inductive Node where
  | directory
  | file (content : ByteArray) (executable : Bool)

structure Tree where
  nodes : List (Location × Node)

namespace Tree

def empty : Tree := ⟨[]⟩

/-- What is at a location. -/
def get? (t : Tree) (l : Location) : Option Node :=
  if l = [] then some .directory else t.nodes.lookup l

def isDirectory (t : Tree) (l : Location) : Bool :=
  match t.get? l with
  | some .directory => true
  | _ => false

def isFile (t : Tree) (l : Location) : Bool :=
  match t.get? l with
  | some (.file ..) => true
  | _ => false

/-- Puts a node at a location in place of what was there. -/
def set (t : Tree) (l : Location) (n : Node) : Tree :=
  ⟨(l, n) :: t.nodes.filter (·.1 ≠ l)⟩

/-- Removes a location and everything below it. -/
def remove (t : Tree) (l : Location) : Tree :=
  ⟨t.nodes.filter (!l.isPrefixOf ·.1)⟩

/-- The location of a node after what is at `source` has moved to `target`. -/
def relocate (source target l : Location) : Location :=
  if source.isPrefixOf l then target ++ l.drop source.length else l

/-- Moves a location and everything below it. -/
def move (t : Tree) (source target : Location) : Tree :=
  ⟨t.nodes.map fun (l, n) => (relocate source target l, n)⟩

/-- The names directly below a location, in no particular order. -/
def names (t : Tree) (l : Location) : List String :=
  t.nodes.filterMap fun (m, _) =>
    if m.dropLast = l then m.getLast? else none

/-- Everything below a location, by the names from there on, in the order of a walk that visits
the names of a directory in ascending order. -/
def below (t : Tree) (l : Location) : List (Location × Node) :=
  let inside := t.nodes.filterMap fun (m, n) =>
    if l.isPrefixOf m ∧ m ≠ l then some (m.drop l.length, n) else none
  inside.mergeSort fun a b => a.1.precedes b.1

end Tree
end Storage
end QueryFuzz
