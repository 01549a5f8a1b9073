import DeviceAdmission.Number.Word

/-!
# Double precision numbers

A finite double is a sign, a significand below 2^53 and an exponent of two. Quotients of natural
numbers are rounded to the nearest double, ties to the even significand; a quotient too large for
every finite double has no double. All arithmetic is exact arithmetic on natural numbers, so equal
doubles are equal values.
-/

namespace DeviceAdmission

/-- The number `significand * 2 ^ exponent`, negated when `negative`. -/
structure Binary64 where
  negative : Bool
  significand : Nat
  exponent : Int
  deriving DecidableEq, Repr, Inhabited

namespace Binary64

/-- The exponent of the smallest doubles. -/
def leastExponent : Int := -1074

/-- The exponent of the largest doubles. -/
def greatestExponent : Int := 971

/-- The least significand above the smallest exponent. Significands are below twice this number. -/
def leastNormal : Nat := 4503599627370496

/-- Zero with a sign. -/
def zero (negative : Bool) : Binary64 :=
  ⟨negative, 0, leastExponent⟩

def isZero (x : Binary64) : Bool :=
  x.significand = 0

def neg (x : Binary64) : Binary64 :=
  { x with negative := !x.negative }

/-- `n * 2 ^ e` as a numerator and a denominator. -/
def scaleTwo (n : Nat) (e : Int) : Nat × Nat :=
  match e with
  | .ofNat k => (n * Nat.pow 2 k, 1)
  | .negSucc k => (n, Nat.pow 2 (k + 1))

/-- The magnitude of a double as a numerator and a denominator. -/
def magnitude (x : Binary64) : Nat × Nat :=
  scaleTwo x.significand x.exponent

/-- The quotient rounded to the nearest natural number, ties to even. -/
def roundQuotient (num den : Nat) : Nat :=
  let q := num / den
  let r := num % den
  if 2 * r < den then q
  else if den < 2 * r then q + 1
  else q + q % 2

/-- The integer `k` with `2 ^ k ≤ num / den < 2 ^ (k + 1)`, for positive `num` and `den`. -/
def floorLogTwo (num den : Nat) : Int :=
  let k : Int := Nat.log2 num - Nat.log2 den
  let lowered := scaleTwo den k
  if num * lowered.2 < lowered.1 then k - 1 else k

/-- The double nearest to `num / den`, ties to the even significand, or nothing when the quotient is
too large. -/
def ofQuotient? (negative : Bool) (num den : Nat) : Option Binary64 :=
  if num = 0 then some (zero negative)
  else
    let exponent := max leastExponent (floorLogTwo num den - 52)
    let unit := scaleTwo den exponent
    let significand := roundQuotient (num * unit.2) unit.1
    let rounded : Binary64 :=
      if significand = 2 * leastNormal then ⟨negative, leastNormal, exponent + 1⟩
      else ⟨negative, significand, exponent⟩
    if greatestExponent < rounded.exponent then none else some rounded

/-- The double nearest to a natural number. -/
def ofNat? (n : Nat) : Option Binary64 :=
  ofQuotient? false n 1

/-- The product of two doubles, rounded. -/
def mul? (x y : Binary64) : Option Binary64 :=
  let a := x.magnitude
  let b := y.magnitude
  ofQuotient? (x.negative != y.negative) (a.1 * b.1) (a.2 * b.2)

/-- The quotient of two doubles, rounded; nothing for a zero divisor. -/
def div? (x y : Binary64) : Option Binary64 :=
  let a := x.magnitude
  let b := y.magnitude
  if b.1 = 0 then none
  else ofQuotient? (x.negative != y.negative) (a.1 * b.2) (a.2 * b.1)

/-- The number of decimal digits of `n`. -/
def digitCount (n : Nat) : Nat :=
  (Nat.toDigits 10 n).length

/-- The double nearest to `digits * 10 ^ exponent`, or nothing when that is too large. -/
def ofDecimal? (negative : Bool) (digits : Nat) (exponent : Int) : Option Binary64 :=
  if digits = 0 then some (zero negative)
  else if 400 < exponent + digitCount digits then none
  else if exponent + digitCount digits < -400 then some (zero negative)
  else match exponent with
    | .ofNat k => ofQuotient? negative (digits * Nat.pow 10 k) 1
    | .negSucc k => ofQuotient? negative digits (Nat.pow 10 (k + 1))

/-- Whether a double is a natural number below 2^64 after rounding half away from zero, as a limit
of time is. -/
def toRoundedNat? (x : Binary64) : Option Nat :=
  let m := x.magnitude
  if x.negative && !x.isZero then none
  else
    if m.1 < (maxWord + 1) * m.2 then
      some (m.1 / m.2 + (if m.2 ≤ 2 * (m.1 % m.2) then 1 else 0))
    else none

end Binary64

end DeviceAdmission
