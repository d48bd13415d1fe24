import QueryFuzz.Text.Character

/-!
# Cutting text

Trimming, splitting and searching, on lists of characters. The functions on strings at the end
are the ones the rest of the library calls.
-/

namespace QueryFuzz
namespace Text

/-- The pieces between the separators; always one more than there are separators. -/
def splitOn (sep : Char) : List Char → List (List Char)
  | [] => [[]]
  | c :: rest =>
    if c = sep then [] :: splitOn sep rest
    else match splitOn sep rest with
      | piece :: pieces => (c :: piece) :: pieces
      | [] => [[c]]

/-- The pieces between the occurrences of a separator of several characters. -/
def splitOnText (sep : List Char) (cs : List Char) : List (List Char) :=
  match cs with
  | [] => [[]]
  | c :: rest =>
    if sep ≠ [] ∧ sep.isPrefixOf (c :: rest) then
      [] :: splitOnText sep (rest.drop (sep.length - 1))
    else match splitOnText sep rest with
      | piece :: pieces => (c :: piece) :: pieces
      | [] => [[c]]
termination_by cs.length
decreasing_by
  · simp only [List.length_drop, List.length_cons]
    omega
  · simp

/-- The maximal runs without blanks. -/
def wordsFrom (cs : List Char) : List (List Char) :=
  match cs with
  | [] => []
  | c :: rest =>
    if isBlank c then wordsFrom rest
    else (c :: rest.takeWhile (!isBlank ·)) :: wordsFrom (rest.dropWhile (!isBlank ·))
termination_by cs.length
decreasing_by
  · simp
  · have := (List.dropWhile_sublist (l := rest) (!isBlank ·)).length_le
    simp only [List.length_cons]
    omega

def trimEndChars (p : Char → Bool) (cs : List Char) : List Char :=
  (cs.reverse.dropWhile p).reverse

/-- Does `part` occur anywhere in the list? -/
def hasInfix (part : List Char) : List Char → Bool
  | [] => part.isEmpty
  | c :: rest => part.isPrefixOf (c :: rest) || hasInfix part rest

/-- The lines of a text. A final line break ends the last line and starts none, and a carriage
return before a line break belongs to it. -/
def linesOf (cs : List Char) : List (List Char) :=
  let pieces := splitOn '\n' cs
  let whole := pieces.dropLast.map fun line =>
    if line.getLast? = some '\r' then line.dropLast else line
  match pieces.getLast? with
  | some [] => whole
  | some last => whole ++ [last]
  | none => whole

def words (s : String) : List String :=
  (wordsFrom s.toList).map String.ofList

def trim (s : String) : String :=
  String.ofList (trimEndChars isBlank (s.toList.dropWhile isBlank))

def lines (s : String) : List String :=
  (linesOf s.toList).map String.ofList

/-- The text with every occurrence of a part replaced, from left to right. -/
def replaceAll (s part new : String) : String :=
  new.intercalate ((splitOnText part.toList s.toList).map String.ofList)

def contains (s part : String) : Bool :=
  hasInfix part.toList s.toList

end Text
end QueryFuzz
