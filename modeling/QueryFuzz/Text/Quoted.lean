import QueryFuzz.Text.Character

/-!
# Quoted text in messages

A message shows foreign text between quotes. Line breaks, tabs, the null character, backslashes
and the quote itself are escaped by a backslash; a character that has no form of its own is
spelled by its number.
-/

namespace QueryFuzz
namespace Text

/-- Spells a character by its number in hexadecimal. -/
def numbered (c : Char) : String :=
  "\\u\x7b" ++ String.ofList (Nat.toDigits 16 c.toNat) ++ "\x7d"

/-- The form of one character between two marks `quote`. -/
def escaped (quote : Char) (c : Char) : String :=
  match c with
  | '\x00' => "\\0"
  | '\t' => "\\t"
  | '\r' => "\\r"
  | '\n' => "\\n"
  | '\\' => "\\\\"
  | c =>
    if c = quote then String.ofList ['\\', c]
    else if isGraphemeExtender c || !isPrintable c then numbered c
    else c.toString

def quotedChar (c : Char) : String :=
  "'" ++ escaped '\'' c ++ "'"

def quoted (s : String) : String :=
  "\"" ++ String.join (s.toList.map (escaped '"')) ++ "\""

end Text
end QueryFuzz
