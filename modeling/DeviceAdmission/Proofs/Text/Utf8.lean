import DeviceAdmission.Text.Utf8
import Mathlib.Tactic.SplitIfs
import Mathlib.Data.List.Basic

/-!
# The order of texts and of their bytes

Texts are compared character by character and byte strings byte by byte, and the two orders agree:
the bytes of a lesser character are less, whatever follows them. A text of ASCII characters has a
byte for each of them, and the tolerant reading gives the text back.
-/

namespace DeviceAdmission.Utf8

open String

variable {c d : Char} {cs ds : List Char} {m n : Nat}

/-- The bytes of a text are those of its characters. -/
theorem encode_eq_flatMap (s : String) : encode s = s.toList.flatMap utf8EncodeChar := by
  have bytes : s.toByteArray = s.toList.utf8Encode := by
    rw [← toByteArray_ofList, ofList_toList]
  rw [encode, bytes, List.utf8Encode]
  simp

/-! ## Order -/

theorem cons_ofNat_lt_iff {rest rest' : Bytes} (mByte : m < 256) (nByte : n < 256) :
    UInt8.ofNat m :: rest < UInt8.ofNat n :: rest' ↔ m < n ∨ m = n ∧ rest < rest' := by
  rw [List.cons_lt_cons_iff, UInt8.lt_iff_toNat_lt, ← UInt8.toNat_inj,
    UInt8.toNat_ofNat_of_lt' mByte, UInt8.toNat_ofNat_of_lt' nByte]

/-- The bytes of a lesser character are less, whatever follows. -/
theorem utf8EncodeChar_append_lt (less : c < d) (rest rest' : Bytes) :
    utf8EncodeChar c ++ rest < utf8EncodeChar d ++ rest' := by
  have lessNat : c.val.toNat < d.val.toNat := less
  have most : d.val.toNat < 1114112 := by
    rcases d.valid with low | high
    · exact Nat.lt_trans low (by decide)
    · exact high.2
  unfold utf8EncodeChar
  generalize c.val.toNat = m at lessNat
  generalize d.val.toNat = n at lessNat most
  have mTop : m / 262144 % 8 = m / 262144 := Nat.mod_eq_of_lt (by omega)
  have nTop : n / 262144 % 8 = n / 262144 := Nat.mod_eq_of_lt (by omega)
  -- A longer form begins with a greater byte, and forms of one length hold the digits of the code
  -- points to the base 64, the most significant first.
  dsimp only
  split_ifs <;>
    simp (disch := omega) only [List.cons_append, List.nil_append, cons_ofNat_lt_iff] <;> omega

theorem flatMap_utf8EncodeChar_lt (less : cs < ds) :
    cs.flatMap utf8EncodeChar < ds.flatMap utf8EncodeChar := by
  induction cs generalizing ds with
  | nil =>
      cases ds with
      | nil => exact absurd less (List.lt_irrefl _)
      | cons d ds =>
          rw [List.flatMap_nil, List.flatMap_cons]
          cases bytes : utf8EncodeChar d with
          | nil => exact absurd bytes (utf8EncodeChar_ne_nil)
          | cons b rest => exact List.nil_lt_cons _ _
  | cons c cs ih =>
      cases ds with
      | nil => exact absurd less (List.not_lt_nil _)
      | cons d ds =>
          rw [List.flatMap_cons, List.flatMap_cons]
          rcases List.cons_lt_cons_iff.mp less with first | ⟨rfl, later⟩
          · exact utf8EncodeChar_append_lt first _ _
          · exact List.append_left_lt (ih later)

/-- A lesser text has lesser bytes. -/
theorem encode_lt_encode {s t : String} (less : s < t) : encode s < encode t := by
  rw [encode_eq_flatMap, encode_eq_flatMap]
  exact flatMap_utf8EncodeChar_lt (String.lt_iff.mp less)

/-! ## ASCII -/

/-- The bytes of ASCII characters, one for each. -/
def ascii (cs : List Char) : Bytes :=
  cs.map fun c => UInt8.ofNat c.toNat

theorem toNat_ascii (small : c.toNat < 128) : (UInt8.ofNat c.toNat).toNat = c.toNat :=
  UInt8.toNat_ofNat_of_lt' (Nat.lt_trans small (by decide))

/-- Only the byte of an ASCII character is that byte. -/
theorem mem_ascii_iff (small : ∀ c ∈ cs, c.toNat < 128) (dSmall : d.toNat < 128) :
    UInt8.ofNat d.toNat ∈ ascii cs ↔ d ∈ cs := by
  rw [ascii, List.mem_map]
  constructor
  · rintro ⟨c, member, bytes⟩
    have codes := congrArg UInt8.toNat bytes
    rw [toNat_ascii (small c member), toNat_ascii dSmall] at codes
    rw [← Char.toNat_inj.mp codes]
    exact member
  · intro member
    exact ⟨d, member, rfl⟩

theorem encode_eq_ascii {s : String} (small : ∀ c ∈ s.toList, c.toNat < 128) :
    encode s = ascii s.toList := by
  rw [encode_eq_flatMap, ascii]
  generalize s.toList = cs at small
  induction cs with
  | nil => rfl
  | cons c rest ih =>
      have one : utf8EncodeChar c = [UInt8.ofNat c.toNat] := by
        have low : c.val.toNat ≤ 127 := Nat.le_of_lt_succ (small c List.mem_cons_self)
        rw [utf8EncodeChar, if_pos low]
        rfl
      rw [List.flatMap_cons, one, ih fun d member => small d (List.mem_cons_of_mem c member)]
      rfl

/-- The tolerant reading gives ASCII characters back. -/
theorem decodeLossy_ascii (small : ∀ c ∈ cs, c.toNat < 128) :
    decodeLossy (ascii cs) = String.ofList cs := by
  have read : pieces (ascii cs) = cs.map some := by
    induction cs with
    | nil => rw [ascii, List.map_nil, pieces, List.map_nil]
    | cons c rest ih =>
        have cSmall := small c List.mem_cons_self
        have lead : lead? (UInt8.ofNat c.toNat) = some ⟨0, c.toNat, 0x80, 0xBF⟩ := by
          have low : UInt8.ofNat c.toNat < 0x80 := by
            rw [UInt8.lt_iff_toNat_lt, toNat_ascii cSmall]
            exact cSmall
          rw [lead?, if_pos low, toNat_ascii cSmall]
        have piece : readPiece (UInt8.ofNat c.toNat) (ascii rest) = (some c, ascii rest) := by
          rw [readPiece, lead]
          simp only [readFollowing, Option.map_some, Char.ofNat_toNat]
        have later := ih fun d member => small d (List.mem_cons_of_mem c member)
        rw [ascii, List.map_cons, pieces, ← ascii, piece, later, List.map_cons]
  rw [decodeLossy, read, List.map_map]
  exact congrArg String.ofList (List.map_id' cs)

end DeviceAdmission.Utf8
