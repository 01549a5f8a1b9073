import DeviceAdmission.Json.Value
import DeviceAdmission.Number.Shortest
import DeviceAdmission.Text.Utf8

/-!
# Writing values

The bytes of a document without white space. In a text the quote, the backslash and the control
characters are escaped, those with a letter of their own by it, and all else is written as it is.
-/

namespace DeviceAdmission.Json

/-- The bytes of characters that are ASCII. -/
def asciiBytes (cs : List Char) : Bytes :=
  cs.map fun c => UInt8.ofNat c.toNat

def hexDigitByte (n : Nat) : UInt8 :=
  if n < 10 then UInt8.ofNat (48 + n) else UInt8.ofNat (87 + n)

/-- A byte as it is written inside a text. -/
def escapeByte (b : UInt8) : Bytes :=
  if b = 34 then [92, 34]
  else if b = 92 then [92, 92]
  else if b = 8 then [92, 98]
  else if b = 12 then [92, 102]
  else if b = 10 then [92, 110]
  else if b = 13 then [92, 114]
  else if b = 9 then [92, 116]
  else if b < 32 then [92, 117, 48, 48, hexDigitByte (b.toNat / 16), hexDigitByte (b.toNat % 16)]
  else [b]

/-- A text between its quotes. -/
def writeText (s : String) : Bytes :=
  34 :: (Utf8.encode s).flatMap escapeByte ++ [34]

def Number.write : Number → Bytes
  | .integer i => asciiBytes (Numeral.writeInt i)
  | .real x => asciiBytes x.write

mutual

/-- The document of a value. -/
def Value.write : Value → Bytes
  | .null => asciiBytes ['n', 'u', 'l', 'l']
  | .bool true => asciiBytes ['t', 'r', 'u', 'e']
  | .bool false => asciiBytes ['f', 'a', 'l', 's', 'e']
  | .number n => n.write
  | .text s => writeText s
  | .list items => 91 :: writeItems items ++ [93]
  | .object fields => 123 :: writeFields fields ++ [125]

/-- Items with commas between them. -/
def writeItems : List Value → Bytes
  | [] => []
  | [v] => v.write
  | v :: rest => v.write ++ 44 :: writeItems rest

/-- Fields with commas between them. -/
def writeFields : List (String × Value) → Bytes
  | [] => []
  | [(k, v)] => writeText k ++ 58 :: v.write
  | (k, v) :: rest => writeText k ++ 58 :: v.write ++ 44 :: writeFields rest

end

/-- The text of a document. -/
def Value.writeString (v : Value) : String :=
  Utf8.decodeLossy v.write

end DeviceAdmission.Json
