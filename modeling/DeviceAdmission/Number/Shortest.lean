import DeviceAdmission.Number.Binary64
import DeviceAdmission.Text.Numeral

/-!
# Shortest decimal text of a double

The fewest decimal digits that read back as the same double and, among those, the digits nearest to
it. Each count of digits from one to seventeen gives a grid of decimals; the double has two
neighbours on it, and a grid is usable when one of them lies in the interval of numbers that round
to the double. Positional notation is used for numbers from 10^-5 up to 10^16.
-/

namespace DeviceAdmission.Binary64

/-- A decimal `digits * 10 ^ exponent`. -/
structure Decimal where
  digits : Nat
  exponent : Int
  deriving DecidableEq, Repr

/-- `n * 10 ^ e` as a numerator and a denominator. -/
def scaleTen (n : Nat) (e : Int) : Nat × Nat :=
  match e with
  | .ofNat k => (n * Nat.pow 10 k, 1)
  | .negSucc k => (n, Nat.pow 10 (k + 1))

/-- Whether the decimal lies in the interval of numbers that round to the magnitude of `x`. In
quarters of the unit of `x` the interval reaches from one or two below to two above. -/
def isReadAs (x : Binary64) (d : Decimal) : Bool :=
  let below : Nat := if x.significand = leastNormal ∧ leastExponent < x.exponent then 1 else 2
  let closed := x.significand % 2 = 0
  let low := scaleTwo (4 * x.significand - below) (x.exponent - 2)
  let high := scaleTwo (4 * x.significand + 2) (x.exponent - 2)
  let v := scaleTen d.digits d.exponent
  (if closed then low.1 * v.2 ≤ v.1 * low.2 else low.1 * v.2 < v.1 * low.2) &&
    (if closed then v.1 * high.2 ≤ high.1 * v.2 else v.1 * high.2 < high.1 * v.2)

/-- The exponent of the first decimal digit of a positive quotient. -/
def floorLogTen (num den : Nat) : Int :=
  let guess : Int := (digitCount num : Int) - digitCount den
  let v := scaleTen den guess
  if num * v.2 < v.1 then guess - 1 else guess

/-- The neighbour of `x` nearest to it on the grid of `count` digits, if one reads back. -/
def onGrid? (x : Binary64) (count : Nat) : Option Decimal :=
  let m := x.magnitude
  let exponent : Int := floorLogTen m.1 m.2 - (count - 1 : Nat)
  let unit := scaleTen m.2 exponent
  let num := m.1 * unit.2
  let den := unit.1
  let lower : Decimal := ⟨num / den, exponent⟩
  let upper : Decimal := ⟨num / den + 1, exponent⟩
  let nearerFirst :=
    if 2 * (num % den) < den ∨ (2 * (num % den) = den ∧ num / den % 2 = 0) then [lower, upper]
    else [upper, lower]
  nearerFirst.find? x.isReadAs

/-- The shortest decimal that reads back as the magnitude of `x`, nearest to it. -/
def shortest (x : Binary64) : Decimal :=
  if x.isZero then ⟨0, 0⟩
  else ((List.range 17).findSome? fun i => x.onGrid? (i + 1)).getD ⟨x.significand, 0⟩

/-- A decimal without the zeros at its end. -/
def Decimal.dropZeros (d : Decimal) : Decimal :=
  let reversed := (Numeral.write d.digits).reverse
  let zeros := (reversed.takeWhile (· = '0')).length
  if d.digits = 0 then ⟨0, 0⟩ else ⟨d.digits / Nat.pow 10 zeros, d.exponent + zeros⟩

/-- The text of a decimal: always with a fraction or an exponent. -/
def Decimal.text (d : Decimal) : List Char :=
  if d.digits = 0 then "0.0".toList
  else
    let digits := Numeral.write d.digits
    let point : Int := digits.length + d.exponent
    if 0 ≤ d.exponent ∧ point ≤ 16 then
      digits ++ List.replicate d.exponent.toNat '0' ++ ['.', '0']
    else if 0 < point ∧ point ≤ 16 then
      digits.take point.toNat ++ '.' :: digits.drop point.toNat
    else if -5 < point ∧ point ≤ 0 then
      '0' :: '.' :: List.replicate (-point).toNat '0' ++ digits
    else
      let exponent := point - 1
      let sign := if exponent < 0 then '-' else '+'
      let mantissa := match digits with
        | [c] => [c]
        | c :: rest => c :: '.' :: rest
        | [] => []
      mantissa ++ 'e' :: sign :: Numeral.write exponent.natAbs

/-- The shortest text of a double. -/
def write (x : Binary64) : List Char :=
  (if x.negative then ['-'] else []) ++ x.shortest.dropZeros.text

end DeviceAdmission.Binary64
