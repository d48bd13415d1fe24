/-!
# Numbers of a fixed width

How many values a number of bits can take, and which whole numbers fit into them, with a sign or
without one.
-/

namespace QueryFuzz
namespace Width

/-- Two to the number of bits. -/
def values (bits : Nat) : Nat := Nat.pow 2 bits

def fitsUnsigned (bits : Nat) (n : Int) : Bool :=
  0 ≤ n && n < values bits

/-- One bit is for the sign. -/
def fitsSigned (bits : Nat) (n : Int) : Bool :=
  -(values (bits - 1) : Int) ≤ n && n < values (bits - 1)

/-- A length as a signed number of 64 bits. No list in memory is too long for it. -/
def signedLength (length : Nat) : Int :=
  min length (values 63 - 1 : Nat)

end Width
end QueryFuzz
