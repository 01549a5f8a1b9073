import DeviceAdmission.Text.Blank
import DeviceAdmission.Text.Combining
import DeviceAdmission.Text.Unassigned

/-!
# Quoted text in messages

A text is shown in a message between double quotes. A quote and a backslash get a backslash in
front, and a character without a visible form of its own is shown by its name or its code point.
-/

namespace DeviceAdmission.Text

/-- A hexadecimal numeral with small letters and no leading zeros. -/
def hexNumeral (n : Nat) : List Char :=
  Nat.toDigits 16 n

/-- Characters that only say how others are to be shown. -/
def formatRanges : List CodeRange :=
  [(0xAD, 0xAD), (0x600, 0x605), (0x61C, 0x61C), (0x6DD, 0x6DD), (0x70F, 0x70F), (0x890, 0x891),
    (0x8E2, 0x8E2), (0x180E, 0x180E), (0x200B, 0x200F), (0x202A, 0x202E), (0x2060, 0x2064),
    (0x2066, 0x206F), (0xFEFF, 0xFEFF), (0xFFF9, 0xFFFB), (0x110BD, 0x110BD), (0x110CD, 0x110CD),
    (0x13430, 0x1343F), (0x1BCA0, 0x1BCA3), (0x1D173, 0x1D17A), (0xE0001, 0xE0001),
    (0xE0020, 0xE007F)]

/-- Code points that everyone may use as they like. -/
def privateRanges : List CodeRange :=
  [(0xE000, 0xF8FF), (0xF0000, 0xFFFFD), (0x100000, 0x10FFFD)]

def isControl (c : Char) : Bool :=
  c.toNat < 0x20 || (0x7F ≤ c.toNat && c.toNat ≤ 0x9F)

/-- The characters shown by their code point: controls, blanks other than the space, format
characters, combining ones, and code points of private use or of no use. -/
def isUnseen (c : Char) : Bool :=
  isControl c || (isBlank c && c ≠ ' ') ||
    (0x7F < c.toNat &&
      (isInRanges formatRanges c || isInRanges privateRanges c || isCombining c ||
        isUnassigned c))

/-- A character as it is shown between the quotes. -/
def quotedChar (c : Char) : List Char :=
  if c = '\x00' then ['\\', '0']
  else if c = '\t' then ['\\', 't']
  else if c = '\r' then ['\\', 'r']
  else if c = '\n' then ['\\', 'n']
  else if c = '"' then ['\\', '"']
  else if c = '\\' then ['\\', '\\']
  else if isUnseen c then '\\' :: 'u' :: '\x7b' :: hexNumeral c.toNat ++ ['\x7d']
  else [c]

/-- A text as it is shown in a message. -/
def quoted (s : String) : String :=
  String.ofList ('"' :: s.toList.flatMap quotedChar ++ ['"'])

end DeviceAdmission.Text
