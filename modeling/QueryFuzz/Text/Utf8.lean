/-!
# Reading bytes as text

Bytes that an engine prints need not be valid UTF-8. Each maximal beginning of an encoded character
that is not completed is read as one replacement character, and so is each byte that starts
nothing. On valid bytes this is plain decoding.
-/

namespace QueryFuzz
namespace Text

/-- What may follow a first byte: a number of continuation bytes, the first of them between two
bounds. -/
structure Continuation where
  count : Nat
  low : UInt8
  high : UInt8

def continuation? (first : UInt8) : Option Continuation :=
  if first < 0x80 then some ⟨0, 0x80, 0xBF⟩
  else if first < 0xC2 then none
  else if first < 0xE0 then some ⟨1, 0x80, 0xBF⟩
  else if first = 0xE0 then some ⟨2, 0xA0, 0xBF⟩
  else if first = 0xED then some ⟨2, 0x80, 0x9F⟩
  else if first < 0xF0 then some ⟨2, 0x80, 0xBF⟩
  else if first = 0xF0 then some ⟨3, 0x90, 0xBF⟩
  else if first < 0xF4 then some ⟨3, 0x80, 0xBF⟩
  else if first = 0xF4 then some ⟨3, 0x80, 0x8F⟩
  else none

/-- The continuation bytes that are there. -/
def Continuation.present (c : Continuation) (bytes : List UInt8) : List UInt8 :=
  match c.count, bytes with
  | n + 1, b :: rest =>
    if c.low ≤ b ∧ b ≤ c.high then
      b :: (rest.take n).takeWhile fun b => 0x80 ≤ b && b ≤ 0xBF
    else []
  | _, _ => []

/-- The character of a first byte and its continuation bytes. -/
def assembled (first : UInt8) (rest : List UInt8) : Char :=
  let lead := if rest.isEmpty then first.toNat else first.toNat % Nat.pow 2 (6 - rest.length)
  .ofNat (rest.foldl (fun n b => n * 64 + b.toNat % 64) lead)

def replacement : Char := '\uFFFD'

def decodeBytes (bytes : List UInt8) : List Char :=
  match bytes with
  | [] => []
  | first :: rest =>
    match continuation? first with
    | none => replacement :: decodeBytes rest
    | some c =>
      let present := c.present rest
      (if present.length = c.count then assembled first present else replacement) ::
        decodeBytes (rest.drop present.length)
termination_by bytes.length
decreasing_by
  · simp
  · simp only [List.length_drop, List.length_cons]
    omega

def decodeUtf8 (bytes : ByteArray) : String :=
  match String.fromUTF8? bytes with
  | some s => s
  | none => String.ofList (decodeBytes bytes.toList)

end Text
end QueryFuzz
