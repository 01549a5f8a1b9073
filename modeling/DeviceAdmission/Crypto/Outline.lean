import DeviceAdmission.Crypto.KeyFault
import DeviceAdmission.Crypto.Pem
import DeviceAdmission.Time.Calendar

/-!
# The outline of a key file

A key file is accepted for what its outer structure says. Its block is read as nested DER values, of
which only the kinds matter that lead to a key: sequences, object identifiers, bit strings and octet
strings. Reading is lenient about lengths, and strict about the values of the kinds it knows.
-/

namespace DeviceAdmission

/-- A DER value, as far as key files need it. -/
inductive DerValue where
  | sequence (items : List DerValue)
  | objectId (arcs : List Nat)
  | bitString (bytes : Bytes)
  | octetString (bytes : Bytes)
  | other
  deriving Repr, Inhabited

namespace DerValue

/-- Read a number of seven bits a byte, the last byte below 128. -/
def readBase128 : (rest : Bytes) → (value : Nat) → Option (Nat × Bytes)
  | [], _ => none
  | b :: rest, value =>
    let value := value * 128 + b.toNat % 128
    if b.toNat < 128 then some (value, rest) else readBase128 rest value

/-- Read a tag: its number, whether it holds values, and whether it belongs to the universal
class. -/
def readTag : Bytes → Option ((Nat × Bool × Bool) × Bytes)
  | [] => none
  | b :: rest =>
    let constructed := b.toNat / 32 % 2 = 1
    let universal := b.toNat / 64 = 0
    if b.toNat % 32 = 31 then do
      let (tag, rest) ← readBase128 rest 0
      pure ((tag, constructed, universal), rest)
    else some ((b.toNat % 32, constructed, universal), rest)

/-- Read a length of at most eight bytes. -/
def readLength : Bytes → Option (Nat × Bytes)
  | [] => none
  | b :: rest =>
    if b.toNat < 128 then some (b.toNat, rest)
    else
      let count := b.toNat - 128
      if 8 < count ∨ rest.length < count then none
      else some ((rest.take count).foldl (fun n c => n * 256 + c.toNat) 0, rest.drop count)

/-- The numbers of an object identifier behind its first byte. -/
def readArcs : (fuel : Nat) → Bytes → Option (List Nat)
  | _, [] => some []
  | 0, _ :: _ => none
  | fuel + 1, b :: rest => do
    let (arc, rest) ← readBase128 (b :: rest) 0
    let arcs ← readArcs fuel rest
    pure (arc :: arcs)

def readObjectId : Bytes → Option DerValue
  | [] => none
  | b :: rest => do
    let n := b.toNat
    let first := if n < 40 then [0, n] else if n < 80 then [1, n - 40] else [2, n - 80]
    let arcs ← readArcs rest.length rest
    pure (.objectId (first ++ arcs))

/-- A bit string: the number of unused bits, then the bits. -/
def readBitString : Bytes → Option DerValue
  | [] => some (.bitString [])
  | unused :: bytes => if bytes.length * 8 < unused.toNat then none else some (.bitString bytes)

/-- The letters of a printable text. -/
def isPrintable (b : UInt8) : Bool :=
  let c := Char.ofNat b.toNat
  c.isAlphanum || " '()+,-./:=?".toList.contains c

/-- The number of `count` digits at the front of bytes. -/
def digits? (count : Nat) (bytes : Bytes) : Option (Nat × Bytes) :=
  let front := bytes.take count
  if front.length = count ∧ front.all (fun b => 48 ≤ b && b ≤ 57) then
    some (front.foldl (fun n b => n * 10 + (b.toNat - 48)) 0, bytes.drop count)
  else none

/-- Read a date and a time of day behind a year. -/
def clockRest? (year : Int) (bytes : Bytes) : Option Bytes := do
  let (month, rest) ← digits? 2 bytes
  let (day, rest) ← digits? 2 rest
  let (hour, rest) ← digits? 2 rest
  let (minute, rest) ← digits? 2 rest
  let (second, rest) ← digits? 2 rest
  let date : Date := ⟨year, month, day⟩
  if date.isValid && hour < 24 && minute < 60 && second < 60 then some rest else none

/-- Whether bytes are a time with a year of two digits. -/
def isShortTime (bytes : Bytes) : Bool :=
  match digits? 2 bytes with
  | some (year, rest) =>
    let fullYear : Nat := if year < 50 then 2000 + year else 1900 + year
    bytes.length = 13 && clockRest? fullYear rest = some [90]
  | none => false

/-- Read a year of four digits, with or without a sign. -/
def signedYear? : Bytes → Option (Int × Bytes)
  | 43 :: rest => (digits? 4 rest).map fun r => ((r.1 : Int), r.2)
  | 45 :: rest => (digits? 4 rest).map fun r => (-(r.1 : Int), r.2)
  | rest => (digits? 4 rest).map fun r => ((r.1 : Int), r.2)

/-- The least number of bytes of a time with a full year. -/
def leastTimeLength : Nat := 15

/-- The number of bytes that a time with a full year is filled up to. -/
def filledTimeLength : Nat := 25

/-- A time with a point before its fraction and with zeros before its last byte. -/
def filledTime (bytes : Bytes) : Bytes :=
  let pointed := if bytes.contains 46 then bytes else bytes.take 14 ++ 46 :: bytes.drop 14
  let zeros := List.replicate (filledTimeLength - pointed.length) 48
  pointed.take (pointed.length - 1) ++ zeros ++ pointed.drop (pointed.length - 1)

/-- Whether bytes are a time with a full year, which may have a fraction. -/
def isLongTime (bytes : Bytes) : Bool :=
  match (signedYear? (filledTime bytes)).bind fun r => clockRest? r.1 r.2 with
  | some (46 :: rest) =>
    let fraction := rest.takeWhile fun b => 48 ≤ b && b ≤ 57
    leastTimeLength ≤ bytes.length && !fraction.isEmpty && rest.drop fraction.length = [90]
  | _ => false

/-- Read a value of the universal class that holds no values. -/
def readSimple (tag : Nat) (body : Bytes) : Option DerValue :=
  let checked (ok : Bool) : Option DerValue := if ok then some .other else none
  if tag = 1 then checked (body.length = 1)
  else if tag = 3 then readBitString body
  else if tag = 4 then some (.octetString body)
  else if tag = 6 then readObjectId body
  else if tag = 12 ∨ tag = 20 ∨ tag = 28 ∨ tag = 30 then checked (Utf8.decode? body).isSome
  else if tag = 19 then checked (body.all isPrintable)
  else if tag = 23 then checked (isShortTime body)
  else if tag = 24 then checked (isLongTime body)
  else some .other

/-- Read values one after another until the bytes end. Sequences and sets may not be empty. -/
def readAll : (fuel : Nat) → Bytes → Option (List DerValue)
  | _, [] => some []
  | 0, _ :: _ => none
  | fuel + 1, b :: rest => do
    let ((tag, _, universal), rest) ← readTag (b :: rest)
    let (length, rest) ← readLength rest
    if rest.length < length then none
    else
      let body := rest.take length
      let value ←
        if !universal then some DerValue.other
        else if tag = 16 ∨ tag = 17 then do
          let items ← readAll fuel body
          if items.isEmpty then none
          else some (if tag = 16 then DerValue.sequence items else DerValue.other)
        else readSimple tag body
      let values ← readAll fuel (rest.drop length)
      pure (value :: values)

/-- The values of bytes, of which there is at least one. -/
def read? (bytes : Bytes) : Option (List DerValue) :=
  (readAll (bytes.length + 1) bytes).filter (!·.isEmpty)

/-! ## Finding the key -/

mutual

/-- The object identifiers of a value in order, those in sequences included. -/
def objectIds : DerValue → List (List Nat)
  | .sequence items => objectIdsOf items
  | .objectId arcs => [arcs]
  | .bitString _ | .octetString _ | .other => []

def objectIdsOf : List DerValue → List (List Nat)
  | [] => []
  | v :: rest => objectIds v ++ objectIdsOf rest

end

mutual

/-- The bit strings and octet strings of a value in order, those in sequences included. -/
def strings : DerValue → List Bytes
  | .sequence items => stringsOf items
  | .bitString bytes | .octetString bytes => [bytes]
  | .objectId _ | .other => []

def stringsOf : List DerValue → List Bytes
  | [] => []
  | v :: rest => strings v ++ stringsOf rest

end

end DerValue

/-- The kinds of keys that key files name. -/
inductive KeyKind where
  | ellipticCurve
  | rsa
  | edwards
  deriving DecidableEq, Repr

/-- The kind of key that an object identifier names. -/
def KeyKind.ofObjectId? (arcs : List Nat) : Option KeyKind :=
  if arcs = [1, 2, 840, 10045, 2, 1] then some ellipticCurve
  else if arcs = [1, 2, 840, 113549, 1, 1, 1] then some rsa
  else if arcs = [1, 3, 101, 112] then some edwards
  else none

/-- The bytes of the RSA key in a key file. They are not looked at: whether they are a key shows
when the key is used. -/
def rsaKeyContents (text : String) : Except KeyFileFault Bytes :=
  match Pem.read? text with
  | none => .error .format
  | some block =>
    match DerValue.read? block.contents with
    | none => .error .format
    | some values =>
      if block.tag = "RSA PRIVATE KEY" ∨ block.tag = "RSA PUBLIC KEY" then .ok block.contents
      else if block.tag = "PRIVATE KEY" ∨ block.tag = "PUBLIC KEY" ∨ block.tag = "CERTIFICATE" then
        match (DerValue.objectIdsOf values).findSome? KeyKind.ofObjectId? with
        | some .rsa =>
          match DerValue.stringsOf values with
          | bytes :: _ => .ok bytes
          | [] => .error .noKeyContent
        | _ => .error .format
      else .error .format

end DeviceAdmission
