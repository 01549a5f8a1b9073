import DeviceAdmission.Text.Utf8

/-!
# Base64

Bytes as text of 64 letters, three bytes to four letters. The standard alphabet is padded, the
alphabet for URLs is not. Decoding is strict: it takes the one text that encoding gives, so letters
and bytes correspond one to one.
-/

namespace DeviceAdmission.Base64

inductive Alphabet where
  | standard
  | url
  deriving DecidableEq, Repr

/-- The letter of a value below 64. -/
def letter (a : Alphabet) (n : Nat) : Char :=
  if n < 26 then Char.ofNat (65 + n)
  else if n < 52 then Char.ofNat (71 + n)
  else if n < 62 then Char.ofNat (n - 4)
  else if n = 62 then (match a with | .standard => '+' | .url => '-')
  else (match a with | .standard => '/' | .url => '_')

/-- The value of a letter. -/
def value? (a : Alphabet) (c : Char) : Option Nat :=
  if 'A' ≤ c ∧ c ≤ 'Z' then some (c.toNat - 65)
  else if 'a' ≤ c ∧ c ≤ 'z' then some (c.toNat - 71)
  else if '0' ≤ c ∧ c ≤ '9' then some (c.toNat + 4)
  else if c = letter a 62 then some 62
  else if c = letter a 63 then some 63
  else none

/-- What fills the last group of letters. -/
def padding : Alphabet → Nat → List Char
  | .standard, n => List.replicate n '='
  | .url, _ => []

/-- The letters of bytes. -/
def encodeChars (a : Alphabet) : Bytes → List Char
  | [] => []
  | [x] =>
    let n := x.toNat
    letter a (n / 4) :: letter a (n % 4 * 16) :: padding a 2
  | [x, y] =>
    let n := x.toNat * 256 + y.toNat
    letter a (n / 1024) :: letter a (n / 16 % 64) :: letter a (n % 16 * 4) :: padding a 1
  | x :: y :: z :: rest =>
    let n := (x.toNat * 256 + y.toNat) * 256 + z.toNat
    letter a (n / 262144) :: letter a (n / 4096 % 64) :: letter a (n / 64 % 64) ::
      letter a (n % 64) :: encodeChars a rest

def encode (a : Alphabet) (bytes : Bytes) : String :=
  String.ofList (encodeChars a bytes)

/-- The bytes of the values of letters. The bits that the last letters do not need have to be
zero. -/
def ofValues? : List Nat → Option Bytes
  | [] => some []
  | [_] => none
  | [p, q] => if q % 16 = 0 then some [UInt8.ofNat (p * 4 + q / 16)] else none
  | [p, q, r] =>
    if r % 4 = 0 then
      some [UInt8.ofNat (p * 4 + q / 16), UInt8.ofNat (q % 16 * 16 + r / 4)]
    else none
  | p :: q :: r :: s :: rest => do
    let bytes ← ofValues? rest
    pure (UInt8.ofNat (p * 4 + q / 16) :: UInt8.ofNat (q % 16 * 16 + r / 4) ::
      UInt8.ofNat (r % 4 * 64 + s) :: bytes)

/-- The letters without the padding that their alphabet asks for. -/
def unpad? (a : Alphabet) (cs : List Char) : Option (List Char) :=
  match a with
  | .url => some cs
  | .standard =>
    if cs.length % 4 ≠ 0 then none
    else
      let marks := min 2 (cs.reverse.takeWhile (· = '=')).length
      some (cs.take (cs.length - marks))

/-- The bytes of letters. -/
def decodeChars? (a : Alphabet) (cs : List Char) : Option Bytes := do
  let letters ← unpad? a cs
  let values ← letters.mapM (value? a)
  ofValues? values

def decode? (a : Alphabet) (s : String) : Option Bytes :=
  decodeChars? a s.toList

end DeviceAdmission.Base64
