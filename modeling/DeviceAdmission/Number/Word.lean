/-!
# Sizes of numbers

The bounds of the numbers that are kept in machine words.
-/

namespace DeviceAdmission

/-- The greatest number of 64 bits. -/
def maxWord : Nat := 18446744073709551615

/-- The greatest number of 64 bits of which one is the sign. -/
def maxSigned : Nat := 9223372036854775807

/-- The least number of 64 bits of which one is the sign. -/
def minSigned : Int := -9223372036854775808

/-- Whether an integer fits 64 bits, with or without a sign. -/
def fitsWord (i : Int) : Bool :=
  minSigned ≤ i && i ≤ maxWord

/-- The number of 64 bits, of which one is the sign, that is nearest to an integer. -/
def saturated (i : Int) : Int :=
  max minSigned (min maxSigned i)

end DeviceAdmission
