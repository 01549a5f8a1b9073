/-!
# Text as bytes

The UTF-8 bytes of a text, the strict reading of bytes as text, and a tolerant reading in which each
longest broken stretch shows as the replacement character. The main statement is that the strict
reading accepts exactly the bytes that some text is written as.
-/

namespace DeviceAdmission

/-- A byte string. -/
abbrev Bytes := List UInt8

namespace Utf8

/-- The bytes of a text. -/
def encode (s : String) : Bytes :=
  s.toByteArray.data.toList

/-- The text whose bytes these are, if there is one. -/
def decode? (bytes : Bytes) : Option String :=
  String.fromUTF8? ⟨bytes.toArray⟩

/-- Strict reading undoes writing. -/
@[simp] theorem decode?_encode (s : String) : decode? (encode s) = some s := by
  have harray : (⟨(encode s).toArray⟩ : ByteArray) = s.toByteArray := by
    simp [encode]
  unfold decode? String.fromUTF8?
  rw [harray, dif_pos s.isValidUTF8]
  rfl

/-- Bytes are read as a text exactly when they are the bytes of that text. -/
theorem decode?_eq_some_iff {bytes : Bytes} {s : String} :
    decode? bytes = some s ↔ bytes = encode s := by
  constructor
  · intro h
    unfold decode? String.fromUTF8? at h
    split at h
    · simp only [Option.some.injEq] at h
      subst h
      simp [encode, String.fromUTF8]
    · cases h
  · rintro rfl
    exact decode?_encode s

/-- Different texts have different bytes. -/
theorem encode_injective {s t : String} (h : encode s = encode t) : s = t := by
  have := decode?_encode s
  rw [h, decode?_encode] at this
  exact (Option.some.inj this).symm

/-! ## Broken bytes -/

/-- What the first byte of a character announces: how many bytes follow, the bits it gives itself,
and the range of the byte after it. -/
structure Lead where
  following : Nat
  bits : Nat
  low : UInt8
  high : UInt8

/-- The announcement of a first byte, if a character can begin with it. -/
def lead? (b : UInt8) : Option Lead :=
  if b < 0x80 then some ⟨0, b.toNat, 0x80, 0xBF⟩
  else if b < 0xC2 then none
  else if b < 0xE0 then some ⟨1, b.toNat - 0xC0, 0x80, 0xBF⟩
  else if b = 0xE0 then some ⟨2, 0, 0xA0, 0xBF⟩
  else if b = 0xED then some ⟨2, 13, 0x80, 0x9F⟩
  else if b < 0xF0 then some ⟨2, b.toNat - 0xE0, 0x80, 0xBF⟩
  else if b = 0xF0 then some ⟨3, 0, 0x90, 0xBF⟩
  else if b < 0xF4 then some ⟨3, b.toNat - 0xF0, 0x80, 0xBF⟩
  else if b = 0xF4 then some ⟨3, 4, 0x80, 0x8F⟩
  else none

/-- Read up to `following` more bytes of a character, the next of them within the range. The result
is the code point, or nothing where a byte is missing or out of range, and the bytes not used. -/
def readFollowing : (following bits : Nat) → (low high : UInt8) → Bytes → Option Nat × Bytes
  | 0, bits, _, _, rest => (some bits, rest)
  | _ + 1, _, _, _, [] => (none, [])
  | n + 1, bits, low, high, b :: rest =>
    if low ≤ b ∧ b ≤ high then readFollowing n (bits * 64 + (b.toNat - 0x80)) 0x80 0xBF rest
    else (none, b :: rest)

/-- Read one character, or one longest broken stretch, from bytes that begin with `b`. -/
def readPiece (b : UInt8) (rest : Bytes) : Option Char × Bytes :=
  match lead? b with
  | none => (none, rest)
  | some lead =>
    let r := readFollowing lead.following lead.bits lead.low lead.high rest
    (r.1.map Char.ofNat, r.2)

theorem length_readFollowing_le (n bits : Nat) (low high : UInt8) (rest : Bytes) :
    (readFollowing n bits low high rest).2.length ≤ rest.length := by
  induction n generalizing bits low high rest with
  | zero => simp [readFollowing]
  | succ n ih =>
    cases rest with
    | nil => simp [readFollowing]
    | cons b rest =>
      unfold readFollowing
      split
      · exact Nat.le_succ_of_le (ih ..)
      · simp

theorem length_readPiece_le (b : UInt8) (rest : Bytes) :
    (readPiece b rest).2.length ≤ rest.length := by
  unfold readPiece
  split
  · exact Nat.le_refl _
  · exact length_readFollowing_le ..

/-- The characters of a byte string in order, with nothing in place of each longest broken
stretch. -/
def pieces : Bytes → List (Option Char)
  | [] => []
  | b :: rest => (readPiece b rest).1 :: pieces (readPiece b rest).2
termination_by bytes => bytes.length
decreasing_by exact Nat.lt_succ_of_le (length_readPiece_le b rest)

/-- Bytes as text, each longest broken stretch shown as the replacement character. -/
def decodeLossy (bytes : Bytes) : String :=
  String.ofList ((pieces bytes).map (·.getD '\uFFFD'))

/-- The number of bytes before the first broken stretch. -/
def validLength (bytes : Bytes) : Nat :=
  ((pieces bytes).takeWhile Option.isSome).foldl
    (fun n piece => n + (piece.map Char.utf8Size).getD 0) 0

end Utf8

end DeviceAdmission
