import DeviceAdmission.Json.Cursor

/-!
# Reading quoted text

The content of a quoted text after its opening quote. Escapes are undone byte by byte, and the bytes
that result must be the UTF-8 bytes of a text. A text that is passed over is not decoded: neither
its bytes nor its surrogates have to make sense.
-/

namespace DeviceAdmission.Json

/-- The value of a hexadecimal digit. -/
def hexDigit? (b : UInt8) : Option Nat :=
  if 48 ≤ b ∧ b ≤ 57 then some (b.toNat - 48)
  else if 65 ≤ b ∧ b ≤ 70 then some (b.toNat - 55)
  else if 97 ≤ b ∧ b ≤ 102 then some (b.toNat - 87)
  else none

/-- The value of four hexadecimal digits. -/
def hexUnit? (a b c d : UInt8) : Option Nat := do
  let a ← hexDigit? a
  let b ← hexDigit? b
  let c ← hexDigit? c
  let d ← hexDigit? d
  pure (((a * 16 + b) * 16 + c) * 16 + d)

/-- The byte that a letter after a backslash stands for. -/
def escapedByte? (b : UInt8) : Option UInt8 :=
  if b = 34 ∨ b = 92 ∨ b = 47 then some b
  else if b = 98 then some 8
  else if b = 102 then some 12
  else if b = 110 then some 10
  else if b = 114 then some 13
  else if b = 116 then some 9
  else none

/-- A half of a pair that stands for one character beyond the first 65536. -/
def isHighSurrogate (u : Nat) : Bool := 0xD800 ≤ u && u ≤ 0xDBFF

def isLowSurrogate (u : Nat) : Bool := 0xDC00 ≤ u && u ≤ 0xDFFF

/-- The bytes of a code point. -/
def codePointBytes (n : Nat) : Bytes :=
  Utf8.encode (String.singleton (Char.ofNat n))

/-- The code point of a pair of surrogates. -/
def pairValue (high low : Nat) : Nat :=
  (high - 0xD800) * 0x400 + (low - 0xDC00) + 0x10000

/-- What an escape stands for, and the escape without its backslash. -/
structure Escape where
  bytes : Bytes
  length : Nat

/-- The fault of an escape, placed `length` bytes behind its backslash. -/
structure EscapeFault where
  problem : Problem
  length : Nat

/-- Read four hexadecimal digits that stand `before` bytes behind a backslash. -/
def readUnit (before : Nat) : Bytes → Except EscapeFault Nat
  | a :: b :: c :: d :: _ =>
    match hexUnit? a b c d with
    | some u => .ok u
    | none => .error ⟨.escapeUnknown, before + 4⟩
  | rest => .error ⟨.textEnds, before + rest.length⟩

/-- Read the low half of a pair after the high half `u`. -/
def readLowSurrogate (u : Nat) : Bytes → Except EscapeFault Escape
  | [] => .error ⟨.textEnds, 5⟩
  | 92 :: [] => .error ⟨.textEnds, 6⟩
  | 92 :: 117 :: rest => do
    let low ← readUnit 7 rest
    if isLowSurrogate low then .ok ⟨codePointBytes (pairValue u low), 11⟩
    else .error ⟨.surrogateLone, 11⟩
  | 92 :: _ :: _ => .error ⟨.surrogateUnfinished, 7⟩
  | _ :: _ => .error ⟨.surrogateUnfinished, 6⟩

/-- Read an escape from the bytes behind its backslash. -/
def readEscape : Bytes → Except EscapeFault Escape
  | [] => .error ⟨.textEnds, 0⟩
  | 117 :: rest => do
    let u ← readUnit 1 rest
    if isLowSurrogate u then .error ⟨.surrogateLone, 5⟩
    else if isHighSurrogate u then readLowSurrogate u (rest.drop 4)
    else .ok ⟨codePointBytes u, 5⟩
  | b :: _ =>
    match escapedByte? b with
    | some byte => .ok ⟨[byte], 1⟩
    | none => .error ⟨.escapeUnknown, 1⟩

/-- The content of a text up to its closing quote, and the number of bytes it was written with, the
quote included; a problem comes with the number of bytes before its place. -/
def readContent (rest : Bytes) (content : List Bytes) (length : Nat) :
    Except EscapeFault (Bytes × Nat) :=
  match rest with
  | [] => .error ⟨.textEnds, length⟩
  | b :: rest =>
    if b = 34 then .ok (content.reverse.flatten, length + 1)
    else if b = 92 then
      match readEscape rest with
      | .ok e => readContent (rest.drop e.length) (e.bytes :: content) (length + 1 + e.length)
      | .error f => .error ⟨f.problem, length + 1 + f.length⟩
    else if b < 32 then .error ⟨.controlCharacter, length + 1⟩
    else readContent rest ([b] :: content) (length + 1)
termination_by rest.length
decreasing_by all_goals simp only [List.length_cons, List.length_drop]; omega

/-- The number of bytes of a text as it is written, its closing quote included, when it is passed
over undecoded. -/
def passContent (rest : Bytes) (length : Nat) : Except EscapeFault Nat :=
  match rest with
  | [] => .error ⟨.textEnds, length⟩
  | b :: rest =>
    if b = 34 then .ok (length + 1)
    else if b = 92 then
      match rest with
      | [] => .error ⟨.textEnds, length + 1⟩
      | e :: rest =>
        if e = 117 then
          match readUnit 1 rest with
          | .ok _ => passContent (rest.drop 4) (length + 6)
          | .error f => .error ⟨f.problem, length + 1 + f.length⟩
        else if (escapedByte? e).isSome then passContent rest (length + 2)
        else .error ⟨.escapeUnknown, length + 2⟩
    else if b < 32 then .error ⟨.controlCharacter, length⟩
    else passContent rest (length + 1)
termination_by rest.length
decreasing_by all_goals simp only [List.length_cons, List.length_drop]; omega

namespace Reader

/-- Read the content of a text whose opening quote is past. Where its bytes are those of no text,
the place of the fault lies before the end of the text by as many bytes as follow the last one that
still made sense once the escapes are undone. -/
def textContent : Reader String := do
  match readContent (← get).rest [] 0 with
  | .error f => failPast f.problem f.length f.length
  | .ok (bytes, length) =>
    match Utf8.decode? bytes with
    | some s =>
      skip length
      pure s
    | none =>
      let unread := bytes.length - Utf8.validLength bytes
      failPast .bytesUnreadable (length - unread) length

/-- Pass the content of a text whose opening quote is past. -/
def passText : Reader Unit := do
  match passContent (← get).rest 0 with
  | .error f => failPast f.problem f.length f.length
  | .ok length => skip length

end Reader

end DeviceAdmission.Json
