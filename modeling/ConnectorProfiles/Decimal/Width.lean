/-!
# Widths of integers

An integer fits a number of bits, with a sign or without.
-/

namespace ConnectorProfiles.Decimal

/-- Whether an integer is one of the given number of bits without a sign. -/
def fitsUnsigned (bits : Nat) (value : Int) : Bool := 0 ≤ value && value < Nat.pow 2 bits

/-- Whether an integer is one of the given number of bits of which one is the sign. -/
def fitsSigned (bits : Nat) (value : Int) : Bool :=
  -(Nat.pow 2 (bits - 1) : Nat) ≤ value && value < Nat.pow 2 (bits - 1)

end ConnectorProfiles.Decimal
