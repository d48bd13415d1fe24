import QueryFuzz.Text.Utf8

/-!
# Bytes as text

Programs that work on bytes see text in which each character stands for one byte, by its number.
Every sequence of bytes has such a text, valid or not, so nothing is lost between the two.
-/

namespace QueryFuzz
namespace Text

/-- A character for each byte. -/
def octets (bytes : ByteArray) : String :=
  String.ofList (bytes.toList.map fun b => Char.ofNat b.toNat)

/-- The bytes that characters stand for. -/
def ofOctets (s : String) : ByteArray :=
  ⟨(s.toList.map fun c => c.toNat.toUInt8).toArray⟩

/-- The bytes of a text, as a text. -/
def encoded (s : String) : String := octets s.toUTF8

/-- The text whose bytes these are. -/
def decoded (s : String) : String := decodeUtf8 (ofOctets s)

end Text
end QueryFuzz
