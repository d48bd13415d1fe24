import QueryFuzz.Text.Alphabetic
import QueryFuzz.Text.Numeric
import QueryFuzz.Text.GraphemeExtender
import QueryFuzz.Text.Unprintable

/-!
# Classes of characters

The classes that decide how query text is cut into tokens and how text is quoted in messages.
All of them follow Unicode; the first 128 characters are decided without a table.
-/

namespace QueryFuzz
namespace Text

def isAlphabetic (c : Char) : Bool :=
  if c.toNat < 128 then c.isAlpha else alphabetic.contains c

def isNumeric (c : Char) : Bool :=
  if c.toNat < 128 then c.isDigit else numeric.contains c

def isAlphanumeric (c : Char) : Bool :=
  isAlphabetic c || isNumeric c

/-- The blanks beyond the first 128 characters. -/
def wideBlanks : List Nat :=
  [0x85, 0xa0, 0x1680, 0x2000, 0x2001, 0x2002, 0x2003, 0x2004, 0x2005, 0x2006, 0x2007, 0x2008,
  0x2009, 0x200a, 0x2028, 0x2029, 0x202f, 0x205f, 0x3000]

/-- The property `White_Space`: tabs, line and page breaks, and every width of space. -/
def isBlank (c : Char) : Bool :=
  if c.toNat < 128 then c == ' ' || (9 ≤ c.toNat && c.toNat ≤ 13) else wideBlanks.contains c.toNat

def isHexDigit (c : Char) : Bool :=
  c.isDigit || ('a' ≤ c && c ≤ 'f') || ('A' ≤ c && c ≤ 'F')

def isGraphemeExtender (c : Char) : Bool :=
  128 ≤ c.toNat && graphemeExtenders.contains c

def isPrintable (c : Char) : Bool :=
  if c.toNat < 128 then 32 ≤ c.toNat && c.toNat < 127 else !unprintable.contains c

end Text
end QueryFuzz
