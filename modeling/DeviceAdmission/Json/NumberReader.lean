import DeviceAdmission.Json.Cursor
import DeviceAdmission.Json.Value

/-!
# Reading numbers

A number is a minus sign if any, digits without superfluous leading zeros, a fraction and an
exponent. Without fraction and exponent it is an integer when that fits in 64 bits. A double is
built from the digits that fit in 64 bits, which are rounded first and then multiplied or divided by
a rounded power of ten; it is therefore not always the double nearest to the number as written.
-/

namespace DeviceAdmission.Json

def isDigit (b : UInt8) : Bool :=
  48 ≤ b && b ≤ 57

def digitValue (b : UInt8) : Nat :=
  b.toNat - 48

/-- Integers are below this limit. -/
def integerLimit : Nat := maxWord + 1

/-- Exponents are kept up to this limit. -/
def exponentLimit : Nat := 2147483647

/-- The greatest power of ten that doubles are scaled by in one step. -/
def stepOfTen : Nat := 308

/-- The double nearest to a power of ten up to `stepOfTen`. -/
def powerOfTen (k : Nat) : Binary64 :=
  (Binary64.ofNat? (Nat.pow 10 k)).getD (.zero false)

/-- Divide a double by `10 ^ k` in steps of `stepOfTen`, until it is zero. -/
def divideByTen (x : Binary64) (k : Nat) : Binary64 :=
  if k ≤ stepOfTen then (x.div? (powerOfTen k)).getD x
  else if x.isZero then x
  else divideByTen ((x.div? (powerOfTen stepOfTen)).getD x) (k - stepOfTen)
termination_by k
decreasing_by simp only [stepOfTen] at *; omega

/-- The double of digits and an exponent of ten; nothing when it is too large. -/
def scaled? (negative : Bool) (digits : Nat) (exponent : Int) : Option Binary64 := do
  let x ← Binary64.ofNat? digits
  let x ← match exponent with
    | .ofNat k =>
      if k ≤ stepOfTen then x.mul? (powerOfTen k) else if x.isZero then some x else none
    | .negSucc k => some (divideByTen x (k + 1))
  pure (if negative then x.neg else x)

namespace Reader

def scaled (negative : Bool) (digits : Nat) (exponent : Int) : Reader Number :=
  match scaled? negative digits exponent with
  | some x => pure (.real x)
  | none => failHere .numberTooLarge

/-- Clamp a sum of exponents to what is kept of one. -/
def clampExponent (e : Int) : Int :=
  max (-(exponentLimit : Int) - 1) (min exponentLimit e)

/-- Read the digits of an exponent as far as its value is kept: the value, or nothing when it became
too large, in which case the digit that made it so is past. -/
def exponentDigits : (rest : Bytes) → (value : Nat) → (length : Nat) → Option Nat × Nat
  | [], value, length => (some value, length)
  | b :: rest, value, length =>
    if isDigit b then
      if exponentLimit < value * 10 + digitValue b then (none, length + 1)
      else exponentDigits rest (value * 10 + digitValue b) (length + 1)
    else (some value, length)

/-- Read an exponent whose letter is next. -/
def exponentPart (negative : Bool) (digits : Nat) (exponent : Int) : Reader Number := do
  skip 1
  let sign ← peek
  if sign = some 43 ∨ sign = some 45 then skip 1
  let positive : Bool := sign ≠ some 45
  match ← next with
  | none => failHere .valueEnds
  | some b =>
    if isDigit b then
      let (value, length) := exponentDigits (← get).rest (digitValue b) 0
      skip length
      match value with
      | some value =>
        scaled negative digits
          (clampExponent (if positive then exponent + value else exponent - value))
      | none =>
        if digits ≠ 0 ∧ positive then failHere .numberTooLarge
        else
          let _ ← takeWhile isDigit
          pure (.real (.zero negative))
    else failHere .numberMalformed

/-- Whether an exponent is next. -/
def isExponentLetter (b : Option UInt8) : Bool :=
  b = some 101 || b = some 69

def exponentOrEnd (negative : Bool) (digits : Nat) (exponent : Int) : Reader Number := do
  if isExponentLetter (← peek) then exponentPart negative digits exponent
  else scaled negative digits exponent

/-- Add digits to a number as long as it stays below the limit: the number, and how many fit. -/
def addDigits (value : Nat) (digits : Bytes) : Nat × Nat :=
  match digits with
  | [] => (value, 0)
  | b :: rest =>
    let more := value * 10 + digitValue b
    if more < integerLimit then
      let r := addDigits more rest
      (r.1, r.2 + 1)
    else (value, 0)

/-- Read a fraction whose point is next. Digits that no longer fit are passed and do not count. -/
def fractionPart (negative : Bool) (digits : Nat) (exponent : Int) : Reader Number := do
  skip 1
  let fraction ← takeWhile isDigit
  if fraction.isEmpty then
    match ← peek with
    | some _ => failNext .numberMalformed
    | none => failNext .valueEnds
  else
    let (value, used) := addDigits digits fraction
    exponentOrEnd negative value (exponent - used)

/-- Read what follows the integer digits of a number, of which `dropped` did not fit. -/
def afterInteger (negative : Bool) (digits dropped : Nat) : Reader Number := do
  let b ← peek
  if b = some 46 then fractionPart negative digits dropped
  else if isExponentLetter b then exponentPart negative digits dropped
  else if dropped ≠ 0 then scaled negative digits dropped
  else if !negative then pure (.integer digits)
  else if digits = 0 ∨ maxSigned + 1 < digits then
    match Binary64.ofNat? digits with
    | some x => pure (.real x.neg)
    | none => failHere .numberTooLarge
  else pure (.integer (-digits))

/-- Read a number whose sign is past. -/
def number (negative : Bool) : Reader Number := do
  match ← next with
  | none => failHere .valueEnds
  | some b =>
    if b = 48 then
      if ((← peek).map isDigit).getD false then failNext .numberMalformed
      else afterInteger negative 0 0
    else if isDigit b then
      let more ← takeWhile isDigit
      let (value, used) := addDigits (digitValue b) more
      afterInteger negative value (more.length - used)
    else failHere .numberMalformed

/-- Pass a number whose sign is past. Its value does not matter, however large. -/
def passNumber : Reader Unit := do
  let first ← next
  let integer : Bool := (first.map isDigit).getD false
  if !integer then failHere .numberMalformed
  else
    if first = some 48 then
      if ((← peek).map isDigit).getD false then failNext .numberMalformed
    else
      let _ ← takeWhile isDigit
    if (← peek) = some 46 then
      skip 1
      if (← takeWhile isDigit).isEmpty then failNext .numberMalformed
    if isExponentLetter (← peek) then
      skip 1
      let sign ← peek
      if sign = some 43 ∨ sign = some 45 then skip 1
      let digit ← next
      if ((digit.map isDigit).getD false) then
        let _ ← takeWhile isDigit
      else failHere .numberMalformed

end Reader

end DeviceAdmission.Json
