/-!
# The stream of random words

Random words are the key stream of the ChaCha cipher with eight rounds. The key is expanded from
the seed of a run, the stream number selects one of many independent streams under that key, and
a 64-bit counter numbers the blocks of sixteen words. Equal seed and stream give equal words.
-/

namespace QueryFuzz
namespace Draw

abbrev Block := Vector UInt32 16

def rotateLeft (x : UInt32) (k : UInt32) : UInt32 :=
  (x <<< k) ||| (x >>> (32 - k))

def quarterRound (a b c d : Fin 16) (s : Block) : Block :=
  let s := s.set a (s[a] + s[b])
  let s := s.set d (rotateLeft (s[d] ^^^ s[a]) 16)
  let s := s.set c (s[c] + s[d])
  let s := s.set b (rotateLeft (s[b] ^^^ s[c]) 12)
  let s := s.set a (s[a] + s[b])
  let s := s.set d (rotateLeft (s[d] ^^^ s[a]) 8)
  let s := s.set c (s[c] + s[d])
  s.set b (rotateLeft (s[b] ^^^ s[c]) 7)

/-- One round on the columns and one on the diagonals. -/
def doubleRound (s : Block) : Block :=
  let s := quarterRound 3 7 11 15 (quarterRound 2 6 10 14 (quarterRound 1 5 9 13
    (quarterRound 0 4 8 12 s)))
  quarterRound 3 4 9 14 (quarterRound 2 7 8 13 (quarterRound 1 6 11 12 (quarterRound 0 5 10 15 s)))

/-- The key stream block that belongs to an initial block. -/
def scramble (initial : Block) : Block :=
  let mixed := doubleRound (doubleRound (doubleRound (doubleRound initial)))
  initial.zipWith (· + ·) mixed

/-- The next state of the generator that expands a seed, and the key word it yields. -/
def expandStep (state : UInt64) : UInt64 × UInt32 :=
  let state := state * 6364136223846793005 + 11634580027462260723
  let mixed := (((state >>> 18) ^^^ state) >>> 27).toUInt32
  let turn := (state >>> 59).toUInt32
  (state, (mixed >>> turn) ||| (mixed <<< ((32 - turn) % 32)))

/-- That many key words expanded from a state. -/
def expandSeed (state : UInt64) : Nat → List UInt32
  | 0 => []
  | n + 1 =>
    let (state, word) := expandStep state
    word :: expandSeed state n

structure KeyStream where
  key : List UInt32
  stream : UInt64
  /-- Number of the next block. -/
  counter : UInt64
  /-- Words of the current block that are still unused. -/
  pending : List UInt32

namespace KeyStream

def ofSeed (seed stream : UInt64) : KeyStream :=
  ⟨expandSeed seed 8, stream, 0, []⟩

def initialBlock (s : KeyStream) : Block :=
  let k := fun i => s.key.getD i 0
  #v[0x61707865, 0x3320646e, 0x79622d32, 0x6b206574, k 0, k 1, k 2, k 3, k 4, k 5, k 6, k 7,
    s.counter.toUInt32, (s.counter >>> 32).toUInt32, s.stream.toUInt32,
    (s.stream >>> 32).toUInt32]

def nextWord (s : KeyStream) : UInt32 × KeyStream :=
  match s.pending with
  | word :: rest => (word, { s with pending := rest })
  | [] =>
    match (scramble s.initialBlock).toList with
    | word :: rest => (word, { s with counter := s.counter + 1, pending := rest })
    | [] => (0, s)

/-- Two words, the low half first. -/
def nextDouble (s : KeyStream) : UInt64 × KeyStream :=
  let (low, s) := s.nextWord
  let (high, s) := s.nextWord
  (low.toUInt64 ||| (high.toUInt64 <<< 32), s)

end KeyStream
end Draw
end QueryFuzz
