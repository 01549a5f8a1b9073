import DeviceAdmission.Text.Numeral
import DeviceAdmission.Text.Utf8
import DeviceAdmission.Yaml.Scalar
import DeviceAdmission.Yaml.Token

/-!
# Anchors, tags and directives

Names that mark a node for later use, tags that say what a node is, and the lines in front of a
document that declare its version and the handles of its tags.
-/

namespace DeviceAdmission.Yaml

/-! ## Anchors and aliases -/

/-- The characters that may follow the name of an anchor, beside spaces. -/
def afterAnchor : List Char := ['?', ':', ',', ']', '\x7d', '%', '@', '\x60']

/-- Read the name of an anchor or an alias. -/
def anchorName? (s : Spots) : Option (String × Spots) :=
  let (name, s) := s.span isWordChar
  if name.isEmpty || !(s.spaceAt 0 || s.oneOfAt 0 afterAnchor) then none
  else some (String.ofList name, s)

/-! ## Tags -/

/-- The characters of tags beside those of words. -/
def tagMarks : List Char :=
  [';', '/', '?', ':', '@', '&', '=', '+', '$', '.', '%', '!', '~', '*', '\'', '(', ')']

/-- The characters that only tags between angle brackets and declared ones may hold. -/
def longTagMarks : List Char := [',', '[', ']']

def isTagChar (isLong : Bool) (c : Char) : Bool :=
  isWordChar c || tagMarks.contains c || (isLong && longTagMarks.contains c)

/-- The number of bytes of the character that a byte begins. -/
def tagCharLength? (b : Nat) : Option Nat :=
  if b < 0x80 then some 1
  else if b / 32 = 6 then some 2
  else if b / 16 = 14 then some 3
  else if b / 8 = 30 then some 4
  else none

/-- Read the byte of an escape. -/
def escapedByte? : Spots → Option (Nat × Spots)
  | p :: high :: low :: rest => do
    if p.char ≠ '%' then none
    let high ← hexDigit? high.char
    let low ← hexDigit? low.char
    pure (high * 16 + low, rest)
  | _ => none

/-- Read `count` more escaped bytes of a character. -/
def escapedBytes? : (count : Nat) → Spots → Option (Bytes × Spots)
  | 0, s => some ([], s)
  | count + 1, s => do
    let (b, s) ← escapedByte? s
    if b / 64 ≠ 2 then none
    let (bytes, s) ← escapedBytes? count s
    pure (UInt8.ofNat b :: bytes, s)

/-- Read the bytes of an escaped character. -/
def escapedChar? (s : Spots) : Option (Bytes × Spots) := do
  let (b, s) ← escapedByte? s
  let length ← tagCharLength? b
  let (bytes, s) ← escapedBytes? (length - 1) s
  pure (UInt8.ofNat b :: bytes, s)

/-- Read the characters of a tag. -/
def tagBytes (isLong : Bool) : (fuel : Nat) → Spots → Option (Bytes × Spots)
  | 0, _ => none
  | _ + 1, [] => some ([], [])
  | fuel + 1, s :: rest =>
    if !isTagChar isLong s.char then some ([], s :: rest)
    else if s.char = '%' then do
      let (c, r) ← escapedChar? (s :: rest)
      let (bytes, r) ← tagBytes isLong fuel r
      pure (c ++ bytes, r)
    else do
      let (bytes, r) ← tagBytes isLong fuel rest
      pure (Utf8.encode s.char.toString ++ bytes, r)

/-- Read the bytes of a tag. -/
def tagBytes? (isLong : Bool) (s : Spots) : Option (Bytes × Spots) :=
  tagBytes isLong (s.length + 1) s

/-- A tag ends before a zero byte. -/
def upToZero (bytes : Bytes) : Tag :=
  bytes.takeWhile (· ≠ 0)

/-- Read a handle: a word between two exclamation marks, the second of which may be missing. -/
def tagHandle? : Spots → Option (String × Spots)
  | [] => none
  | s :: rest =>
    if s.char ≠ '!' then none
    else
      let (word, rest) := Spots.span isWordChar rest
      if Spots.head? rest = some '!' then
        some (String.ofList ('!' :: word ++ ['!']), rest.drop 1)
      else some (String.ofList ('!' :: word), rest)

/-- Whether a handle has both exclamation marks. -/
def isClosedHandle (handle : String) : Bool :=
  1 < handle.length && handle.toList.getLast? = some '!'

/-- Read a tag between angle brackets, behind its first bracket. -/
def verbatimTag? (s : Spots) : Option (Token × Spots) := do
  let (bytes, s) ← tagBytes? true s
  if bytes.isEmpty || s.head? ≠ some '>' then none
  else pure (.tag "" (upToZero bytes), s.drop 1)

/-- Read a tag with a handle, or one without: a tag that is a mere exclamation mark has no
handle. -/
def shortTag? (s : Spots) : Option (Token × Spots) := do
  let (handle, s) ← tagHandle? s
  let (bytes, s) ← tagBytes? false s
  if isClosedHandle handle then
    if bytes.isEmpty then none else pure (.tag handle (upToZero bytes), s)
  else
    let suffix := upToZero ((Utf8.encode handle).drop 1 ++ bytes)
    if suffix.isEmpty then pure (.tag "" bareTag, s) else pure (.tag "!" suffix, s)

/-- Read a tag, which a space has to follow, or a comma in a flow collection. -/
def tag? (inFlow : Bool) (s : Spots) : Option (Token × Spots) := do
  let (t, s) ← if s.oneOfAt 1 ['<'] then verbatimTag? (s.drop 2) else shortTag? s
  if s.spaceAt 0 || (inFlow && s.head? = some ',') then pure (t, s) else none

/-! ## Directives -/

/-- The rest of the line behind blanks. -/
def skipBlanks (s : Spots) : Spots :=
  (s.span isBlank).2

/-- Read a part of a version: up to nine digits. -/
def versionPart? (s : Spots) : Option (Nat × Spots) := do
  let (digits, s) := s.span Char.isDigit
  if 9 < digits.length then none
  else pure (← Numeral.read? digits, s)

/-- Read the value of a version directive. -/
def versionDirective? (s : Spots) : Option (Token × Spots) := do
  let (major, s) ← versionPart? (skipBlanks s)
  if s.head? ≠ some '.' then none
  let (minor, s) ← versionPart? (s.drop 1)
  pure (.version major minor, s)

/-- Read the value of a directive that declares the handle of a tag. -/
def tagDirective? (s : Spots) : Option (Token × Spots) := do
  let (handle, s) ← tagHandle? (skipBlanks s)
  if !(isClosedHandle handle || handle = "!") || !(s.head?.any isBlank) then none
  let (expansion, s) ← tagBytes? true (skipBlanks s)
  if expansion.isEmpty || !(s.spaceAt 0) then none
  pure (.tagHandle handle (upToZero expansion), s)

/-- Read a directive behind its percent sign, and the rest of its line. -/
def directive? (s : Spots) : Option (Token × Spots) := do
  let (name, s) := s.span isWordChar
  if !(s.spaceAt 0) then none
  let (t, s) ←
    if name = ['Y', 'A', 'M', 'L'] then versionDirective? s
    else if name = ['T', 'A', 'G'] then tagDirective? s
    else none
  pure (t, ← restOfLine? s)

end DeviceAdmission.Yaml
