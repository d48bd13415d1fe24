import QueryFuzz.Candidate
import QueryFuzz.Coverage.Signature
import Std.Data.HashMap

/-!
# The corpus

The corpus keeps the candidates that covered something new. Its frontier is the union of their
units and alone decides who is admitted. Every observed execution counts towards the hits of its
units and the grammar frontier, admitted or not. Entries are never removed, so the position of
an entry is its number.
-/

namespace QueryFuzz

open Coverage (Signature)

structure Corpus.Entry where
  id : Nat
  candidate : Candidate
  signature : Signature

structure Corpus where
  entries : List Corpus.Entry
  frontier : NameSet
  grammarFrontier : NameSet
  hitCounts : Std.HashMap String Nat

namespace Corpus

inductive Error where
  | entryNotFound (index : Nat)
  deriving DecidableEq, Repr

def Error.message : Error → String
  | entryNotFound index => s!"Entry index {index} not found in corpus"

def empty : Corpus := ⟨[], .empty, .empty, ∅⟩

def size (c : Corpus) : Nat := c.entries.length

/-- How many observed executions covered a unit. -/
def hits (c : Corpus) (unit : String) : Nat := c.hitCounts.getD unit 0

/-- Counts an execution without admitting its candidate. -/
def observe (c : Corpus) (s : Signature) : Corpus :=
  { c with
    hitCounts := s.units.toList.foldl (fun m u => m.insert u (m.getD u 0 + 1)) c.hitCounts
    grammarFrontier := c.grammarFrontier.union s.rules }

/-- Does a signature hold a unit that no admitted entry has? -/
def isNovel (c : Corpus) (s : Signature) : Bool :=
  s.units.toList.any fun u => !c.frontier.contains u

/-- Offers a candidate; true if it was admitted. -/
def offer (c : Corpus) (candidate : Candidate) (s : Signature) : Bool × Corpus :=
  let observed := c.observe s
  if c.isNovel s then
    (true, { observed with
      entries := c.entries ++ [⟨c.size, candidate, s⟩]
      frontier := c.frontier.union s.units })
  else (false, observed)

/-- Offers a candidate; the number of its entry if it was admitted. -/
def submit (c : Corpus) (candidate : Candidate) (s : Signature) : Option Nat × Corpus :=
  let (admitted, c) := c.offer candidate s
  (if admitted then c.entries.getLast?.map (·.id) else none, c)

def get (c : Corpus) (index : Nat) : Except Error Entry :=
  match c.entries[index]? with
  | some e => .ok e
  | none => .error (.entryNotFound index)

/-- Hits of the rarest unit of an entry, at least one. -/
def rarestHits (c : Corpus) (index : Nat) : Except Error Nat :=
  (c.get index).map fun e =>
    max (((e.signature.units.toList.map c.hits).min?).getD 1) 1

end Corpus
end QueryFuzz
