import QueryFuzz.Draw.KeyStream
import QueryFuzz.Width

/-!
# Questions to chance

A random decision is a question with a numeric answer: which of so many, which number of a range,
yes or no, which of some weighted items. Every answer is a natural number, so it can be recorded
and compared whatever the question was.
-/

namespace QueryFuzz
namespace Draw

inductive Question where
  /-- An index below the bound; 0 for a bound of at most one, which takes no random word. -/
  | below (bound : Nat)
  /-- A number from `low` to `high`, answered modulo `2 ^ 64`. -/
  | between (low high : Int)
  /-- 1 with the given probability, otherwise 0. -/
  | chance (probability : Float)
  /-- A fraction in `[0, 1)`, answered by its bits. -/
  | unit
  /-- An index of a positive weight, in proportion to it. -/
  | weighted (weights : List Float)

/-- The part of a double word below `range`: the high half of the product with a random word, the
low half deciding by a second word whether a carry is due. -/
def scaled (range : Nat) (half : Nat) (next : KeyStream → Nat × KeyStream) (s : KeyStream) :
    Nat × KeyStream :=
  let (x, s) := next s
  let high := x * range / half
  let low := x * range % half
  if half - range < low then
    let (y, s) := next s
    (if half ≤ low + y * range / half then high + 1 else high, s)
  else (high, s)

def nextNat32 (s : KeyStream) : Nat × KeyStream :=
  let (w, s) := s.nextWord
  (w.toNat, s)

def nextNat64 (s : KeyStream) : Nat × KeyStream :=
  let (w, s) := s.nextDouble
  (w.toNat, s)

def answerBelow (bound : Nat) (s : KeyStream) : Nat × KeyStream :=
  if bound ≤ 1 then (0, s)
  else if bound < Width.values 32 then scaled bound (Width.values 32) nextNat32 s
  else scaled bound (Width.values 64) nextNat64 s

/-- The number as an unsigned word of 64 bits. -/
def wordOf (n : Int) : Nat :=
  (n % Width.values 64).toNat

/-- The signed number that an unsigned word of 64 bits stands for. -/
def signedOf (code : Nat) : Int :=
  Int.bmod code (Width.values 64)

def answerBetween (low high : Int) (s : KeyStream) : Nat × KeyStream :=
  let range := (high - low + 1).toNat
  if range = Width.values 64 then nextNat64 s
  else
    let (offset, s) := scaled range (Width.values 64) nextNat64 s
    (wordOf (low + offset), s)

/-- A fraction with 53 random bits. -/
def nextFraction (s : KeyStream) : Float × KeyStream :=
  let (w, s) := s.nextDouble
  ((w >>> 11).toFloat * Float.scaleB 1.0 (-53), s)

/-- A probability outside `[0, 1]` counts as the nearer end, one that is no number as 0. -/
def clampProbability (p : Float) : Float :=
  if p.isNaN || p < 0.0 then 0.0 else if 1.0 < p then 1.0 else p

def answerChance (probability : Float) (s : KeyStream) : Nat × KeyStream :=
  let p := clampProbability probability
  if p == 1.0 then (1, s)
  else
    let (w, s) := s.nextDouble
    (if w < (p * Float.scaleB 1.0 64).toUInt64 then 1 else 0, s)

/-- A weight that is no positive finite number counts as zero. -/
def usableWeight (w : Float) : Float :=
  if w.isFinite && 0.0 < w then w else 0.0

def totalWeight (weights : List Float) : Float :=
  weights.foldl (fun sum w => sum + usableWeight w) 0.0

/-- The first index at which the weights passed so far exceed the target; where none does, the
last one with a positive weight. -/
def pickWeighted (target sum : Float) (index chosen : Nat) : List Float → Nat
  | [] => chosen
  | w :: rest =>
    if usableWeight w == 0.0 then pickWeighted target sum (index + 1) chosen rest
    else
      let sum := sum + usableWeight w
      if target < sum then index else pickWeighted target sum (index + 1) index rest

def answerWeighted (weights : List Float) (s : KeyStream) : Nat × KeyStream :=
  let (u, s) := nextFraction s
  (pickWeighted (u * totalWeight weights) 0.0 0 0 weights, s)

def Question.answer (s : KeyStream) : Question → Nat × KeyStream
  | below bound => answerBelow bound s
  | between low high => answerBetween low high s
  | chance p => answerChance p s
  | unit =>
    let (u, s) := nextFraction s
    (u.toBits.toNat, s)
  | weighted weights => answerWeighted weights s

end Draw
end QueryFuzz
