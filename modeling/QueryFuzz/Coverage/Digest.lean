/-!
# Digest of a text

A digest of 128 bits names an execution path in a fixed number of characters. It is the MD5
digest: the text is padded to whole blocks of 64 bytes, and each block stirs a state of four
words in four rounds of sixteen steps.
-/

namespace QueryFuzz
namespace Coverage

/-- The four words that are carried from block to block. -/
structure DigestState where
  a : UInt32
  b : UInt32
  c : UInt32
  d : UInt32
  deriving DecidableEq

namespace DigestState

def initial : DigestState := ⟨0x67452301, 0xefcdab89, 0x98badcfe, 0x10325476⟩

def add (s t : DigestState) : DigestState := ⟨s.a + t.a, s.b + t.b, s.c + t.c, s.d + t.d⟩

end DigestState

/-- The additive constants of the sixty-four steps. -/
def stepConstants : List UInt32 :=
  [0xd76aa478, 0xe8c7b756, 0x242070db, 0xc1bdceee, 0xf57c0faf, 0x4787c62a, 0xa8304613,
   0xfd469501, 0x698098d8, 0x8b44f7af, 0xffff5bb1, 0x895cd7be, 0x6b901122, 0xfd987193,
   0xa679438e, 0x49b40821, 0xf61e2562, 0xc040b340, 0x265e5a51, 0xe9b6c7aa, 0xd62f105d, 0x2441453,
   0xd8a1e681, 0xe7d3fbc8, 0x21e1cde6, 0xc33707d6, 0xf4d50d87, 0x455a14ed, 0xa9e3e905,
   0xfcefa3f8, 0x676f02d9, 0x8d2a4c8a, 0xfffa3942, 0x8771f681, 0x6d9d6122, 0xfde5380c,
   0xa4beea44, 0x4bdecfa9, 0xf6bb4b60, 0xbebfbc70, 0x289b7ec6, 0xeaa127fa, 0xd4ef3085, 0x4881d05,
   0xd9d4d039, 0xe6db99e5, 0x1fa27cf8, 0xc4ac5665, 0xf4292244, 0x432aff97, 0xab9423a7,
   0xfc93a039, 0x655b59c3, 0x8f0ccc92, 0xffeff47d, 0x85845dd1, 0x6fa87e4f, 0xfe2ce6e0,
   0xa3014314, 0x4e0811a1, 0xf7537e82, 0xbd3af235, 0x2ad7d2bb, 0xeb86d391]

/-- The rotations of the steps of a round, which repeat after four. -/
def stepRotation (round step : Nat) : UInt32 :=
  match round, step % 4 with
  | 0, 0 => 7 | 0, 1 => 12 | 0, 2 => 17 | 0, _ => 22
  | 1, 0 => 5 | 1, 1 => 9 | 1, 2 => 14 | 1, _ => 20
  | 2, 0 => 4 | 2, 1 => 11 | 2, 2 => 16 | 2, _ => 23
  | _, 0 => 6 | _, 1 => 10 | _, 2 => 15 | _, _ => 21

/-- The word of the block that a step takes in. -/
def stepWord (round step : Nat) : Nat :=
  match round with
  | 0 => step
  | 1 => (5 * step + 1) % 16
  | 2 => (3 * step + 5) % 16
  | _ => 7 * step % 16

/-- The mixing function of a round. -/
def mixed (round : Nat) (b c d : UInt32) : UInt32 :=
  match round with
  | 0 => (b &&& c) ||| (~~~b &&& d)
  | 1 => (d &&& b) ||| (~~~d &&& c)
  | 2 => b ^^^ c ^^^ d
  | _ => c ^^^ (b ||| ~~~d)

def stirStep (block : List UInt32) (s : DigestState) (constant : UInt32 × Nat) : DigestState :=
  let round := constant.2 / 16
  let step := constant.2 % 16
  let x := s.a + mixed round s.b s.c s.d + constant.1 + block.getD (stepWord round step) 0
  let k := stepRotation round step
  ⟨s.d, s.b + ((x <<< k) ||| (x >>> (32 - k))), s.b, s.c⟩

def stir (s : DigestState) (block : List UInt32) : DigestState :=
  s.add (stepConstants.zipIdx.foldl (stirStep block) s)

/-- The bytes of a word, the lowest first. -/
def littleEndian (count : Nat) (n : Nat) : List UInt8 :=
  match count with
  | 0 => []
  | count + 1 => UInt8.ofNat n :: littleEndian count (n / 256)

/-- A mark, zeros up to eight bytes before a whole block, and the length in bits. -/
def padded (bytes : List UInt8) : List UInt8 :=
  let zeros := (119 - bytes.length % 64) % 64
  bytes ++ 0x80 :: List.replicate zeros 0 ++ littleEndian 8 (8 * bytes.length)

def wordsOf : List UInt8 → List UInt32
  | a :: b :: c :: d :: rest =>
    (a.toUInt32 ||| (b.toUInt32 <<< 8) ||| (c.toUInt32 <<< 16) ||| (d.toUInt32 <<< 24)) ::
      wordsOf rest
  | _ => []

/-- Stirs in so many blocks of sixteen words. -/
def stirBlocks (s : DigestState) (words : List UInt32) : Nat → DigestState
  | 0 => s
  | n + 1 => stirBlocks (stir s (words.take 16)) (words.drop 16) n

def hexByte (b : UInt8) : List Char :=
  let digits := Nat.toDigits 16 b.toNat
  if b < 16 then '0' :: digits else digits

/-- The digest in 32 hexadecimal digits. -/
def digest (text : String) : String :=
  let words := wordsOf (padded text.toUTF8.toList)
  let s := stirBlocks .initial words (words.length / 16)
  let bytes := [s.a, s.b, s.c, s.d].flatMap fun w => littleEndian 4 w.toNat
  String.ofList (bytes.flatMap hexByte)

end Coverage
end QueryFuzz
