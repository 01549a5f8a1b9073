import DeviceAdmission.Database.Header

/-!
# Text forms

The texts of a database are all in one form, which its header tells: UTF-8, or units of two bytes
with the low or the high one first.
-/

namespace DeviceAdmission.Database

/-- The texts in which a database can be written. -/
inductive TextForm where
  | utf8
  | utf16LowFirst
  | utf16HighFirst
  deriving DecidableEq, Repr

namespace TextForm

/-- The text form that the header of a file tells. -/
def ofHeader (contents : Bytes) : TextForm :=
  match numberAt contents 56 4 % 4 with
  | 2 => utf16LowFirst
  | 3 => utf16HighFirst
  | _ => utf8

/-- Units of two bytes. A byte that is left over does not count. -/
def units (value : UInt8 → UInt8 → Nat) : Bytes → List Nat
  | a :: b :: rest => value a b :: units value rest
  | _ => []

/-- The characters of units, of which two may stand for one character. -/
def characters : List Nat → List Char
  | high :: low :: rest =>
    if 0xD800 ≤ high ∧ high < 0xDC00 ∧ 0xDC00 ≤ low ∧ low < 0xE000 then
      .ofNat (0x10000 + (high - 0xD800) * 0x400 + (low - 0xDC00)) :: characters rest
    else .ofNat high :: characters (low :: rest)
  | [unit] => [.ofNat unit]
  | [] => []

/-- Read a text. -/
def read? : TextForm → Bytes → Option String
  | utf8, bytes => Utf8.decode? bytes
  | utf16LowFirst, bytes =>
    some (.ofList (characters (units (fun a b => b.toNat * 256 + a.toNat) bytes)))
  | utf16HighFirst, bytes =>
    some (.ofList (characters (units (fun a b => a.toNat * 256 + b.toNat) bytes)))

end TextForm

end DeviceAdmission.Database
