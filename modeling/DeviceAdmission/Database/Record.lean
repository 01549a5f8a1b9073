import DeviceAdmission.Text.Utf8

/-!
# Records

A row of a table as bytes: a head with the type of each cell, then the cells. Numbers in heads are
written in groups of seven bits, the highest first, every byte but the last with its high bit set; a
ninth byte holds eight bits.
-/

namespace DeviceAdmission.Database

/-- The number that bytes stand for, the highest first. -/
def ofBytes (bytes : Bytes) : Nat :=
  bytes.foldl (fun n b => n * 256 + b.toNat) 0

/-- The byte at a place, which is zero behind the last one. -/
def byteAt (bytes : Bytes) (place : Nat) : Nat :=
  (bytes[place]?.map UInt8.toNat).getD 0

/-- The number in some bytes from a place on. -/
def numberAt (bytes : Bytes) (place width : Nat) : Nat :=
  ofBytes ((List.range width).map fun i => (bytes[place + i]?).getD 0)

/-- Read a number in groups of seven bits behind `n`, with up to `more` groups before a whole
byte. -/
def readGroups : (more n : Nat) → Bytes → Nat × Bytes
  | _, n, [] => (n, [])
  | 0, n, b :: rest => (n * 256 + b.toNat, rest)
  | more + 1, n, b :: rest =>
    if b < 128 then (n * 128 + b.toNat, rest)
    else readGroups more (n * 128 + (b.toNat - 128)) rest

/-- Read a number in groups of seven bits. -/
def readNumber (bytes : Bytes) : Nat × Bytes :=
  readGroups 8 0 bytes

/-- A byte without the high bit is a number by itself. -/
theorem readNumber_cons_of_lt {b : UInt8} (h : b < 128) (rest : Bytes) :
    readNumber (b :: rest) = (b.toNat, rest) := by
  simp [readNumber, readGroups, h]

theorem length_readGroups_le (more n : Nat) (bytes : Bytes) :
    (readGroups more n bytes).2.length ≤ bytes.length := by
  induction bytes generalizing more n with
  | nil => cases more <;> simp [readGroups]
  | cons b rest ih =>
    cases more with
    | zero => simp [readGroups]
    | succ more =>
      unfold readGroups
      split
      · simp
      · exact Nat.le_succ_of_le (ih ..)

/-- A number takes bytes off the front. -/
theorem length_readNumber_le (bytes : Bytes) : (readNumber bytes).2.length ≤ bytes.length :=
  length_readGroups_le 8 0 bytes

/-- The contents of a cell. -/
inductive Cell where
  | null
  | integer (n : Int)
  /-- A number by its floating-point bits. -/
  | real (bits : Nat)
  | text (bytes : Bytes)
  | bytes (bytes : Bytes)
  deriving DecidableEq, Repr

namespace Cell

/-- The integer that bytes stand for in two's complement. -/
def signed (bytes : Bytes) : Int :=
  let start : Int := if bytes.head?.any (128 ≤ ·) then -1 else 0
  bytes.foldl (fun n b => n * 256 + (b.toNat : Int)) start

/-- How many bytes a cell of a type takes. -/
def size (type : Nat) : Nat :=
  if type ≤ 4 then type
  else if type = 5 then 6
  else if type ≤ 7 then 8
  else (type - 12) / 2

/-- The cell of a type with the bytes. -/
def ofBytes (type : Nat) (bytes : Bytes) : Cell :=
  if type = 0 then null
  else if type ≤ 6 then integer (signed bytes)
  else if type = 7 then real (Database.ofBytes bytes)
  else if type = 8 then integer 0
  else if type = 9 then integer 1
  else if type < 12 then null
  else if type % 2 = 0 then .bytes bytes
  else text bytes

/-- Whether a cell holds the number zero. -/
def isZero : Cell → Bool
  | integer n => n = 0
  | real bits => bits = 0 || bits = 0x8000000000000000
  | _ => false

end Cell

namespace Record

/-- The numbers that bytes hold one after another, at most `most` of them. -/
def numbers : (most : Nat) → Bytes → List Nat
  | _, [] => []
  | 0, _ :: _ => []
  | most + 1, b :: bytes =>
    let (n, rest) := readNumber (b :: bytes)
    n :: numbers most rest

/-- The cells of the types, one after another. -/
def cellsOf : (types : List Nat) → Bytes → List Cell
  | [], _ => []
  | type :: types, bytes =>
    .ofBytes type (bytes.take (Cell.size type)) :: cellsOf types (bytes.drop (Cell.size type))

/-- The cells of a record. The head begins with its own size. -/
def cells (record : Bytes) : List Cell :=
  let (size, rest) := readNumber record
  let types := rest.take (size - (record.length - rest.length))
  cellsOf (numbers types.length types) (record.drop size)

end Record

end DeviceAdmission.Database
