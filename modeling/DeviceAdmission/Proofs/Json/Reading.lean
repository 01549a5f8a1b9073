import DeviceAdmission.Json.Record
import DeviceAdmission.Json.Writer

/-!
# Reading what was written

A reader that succeeds takes a value off the front of the bytes. What it takes does not depend on
the place of the bytes in their document, so success is a relation between bytes, a value and the
bytes that are left. The main statement is that a text is read back from the bytes it is written as.
-/

namespace DeviceAdmission.Json

namespace Reader

variable {α β : Type}

/-- On `bytes` the reader gives `a` and leaves `rest`, wherever in a document they stand. -/
def Reads (r : Reader α) (bytes : Bytes) (a : α) (rest : Bytes) : Prop :=
  ∀ place, ∃ behind, r ⟨bytes, place⟩ = (.ok a, ⟨rest, behind⟩)

theorem Reads.pure (a : α) (bytes : Bytes) : Reads (Pure.pure a) bytes a bytes :=
  fun place => ⟨place, rfl⟩

/-- A sequence of readers takes one value after the other. -/
theorem Reads.bind {x : Reader α} {f : α → Reader β} {bytes middle rest : Bytes} {a : α} {b : β}
    (first : Reads x bytes a middle) (second : Reads (f a) middle b rest) :
    Reads (x >>= f) bytes b rest := by
  intro place
  rcases first place with ⟨between, firstEq⟩
  rcases second between with ⟨behind, secondEq⟩
  refine ⟨behind, ?_⟩
  change (ExceptT.bind x f) _ = _
  simp only [ExceptT.bind, ExceptT.mk, Bind.bind, StateT.bind, firstEq]
  exact secondEq

theorem Reads.map {x : Reader α} {bytes rest : Bytes} {a : α} (f : α → β)
    (h : Reads x bytes a rest) : Reads (f <$> x) bytes (f a) rest := by
  intro place
  rcases h place with ⟨behind, equation⟩
  refine ⟨behind, ?_⟩
  change (ExceptT.map f x) _ = _
  simp only [ExceptT.map, ExceptT.mk, Bind.bind, StateT.bind, equation]
  rfl

/-- The bytes that are left determine how a reader goes on. -/
theorem Reads.get_bind {f : Cursor → Reader β} {bytes rest : Bytes} {b : β}
    (h : ∀ place, Reads (f ⟨bytes, place⟩) bytes b rest) :
    Reads (MonadState.get >>= f) bytes b rest :=
  fun place => h place place

theorem Reads.attempt {x : Reader α} {bytes rest : Bytes} {a : α} (h : Reads x bytes a rest) :
    Reads (attempt x) bytes (.ok a) rest := by
  intro place
  obtain ⟨behind, equation⟩ := h place
  refine ⟨behind, ?_⟩
  simp only [Reader.attempt]
  rw [equation]

/-- A document that a reader takes as a whole is read. -/
theorem run_eq_ok_of_reads {r : Reader α} {bytes : Bytes} {a : α} (h : Reads r bytes a []) :
    run r bytes = .ok a := by
  rcases h ⟨1, 0⟩ with ⟨behind, equation⟩
  simp only [run, Cursor.start, equation]
  rfl

/-! ## Single bytes -/

theorem reads_skip (n : Nat) (bytes : Bytes) : Reads (skip n) bytes () (bytes.drop n) :=
  fun place => ⟨place.afterAll (bytes.take n), rfl⟩

theorem reads_peek (bytes : Bytes) : Reads peek bytes bytes.head? bytes :=
  fun place => ⟨place, rfl⟩

theorem reads_next (bytes : Bytes) : Reads next bytes bytes.head? (bytes.drop 1) :=
  fun place => ⟨place.afterAll (bytes.take 1), rfl⟩

theorem reads_takeWhile (p : UInt8 → Bool) (bytes : Bytes) :
    Reads (takeWhile p) bytes (bytes.takeWhile p) (bytes.dropWhile p) := by
  intro place
  refine ⟨place.afterAll (bytes.take (bytes.takeWhile p).length), ?_⟩
  have split : bytes.takeWhile p ++ bytes.dropWhile p = bytes := List.takeWhile_append_dropWhile
  have restEq : bytes.drop (bytes.takeWhile p).length = bytes.dropWhile p :=
    calc bytes.drop (bytes.takeWhile p).length
        = (bytes.takeWhile p ++ bytes.dropWhile p).drop (bytes.takeWhile p).length := by rw [split]
      _ = bytes.dropWhile p := List.drop_left
  simp only [takeWhile, Cursor.skip, restEq]

/-- A byte that is no white space is the next one. -/
theorem reads_peekPastSpace {b : UInt8} (rest : Bytes) (notSpace : isSpace b = false) :
    Reads peekPastSpace (b :: rest) (some b) (b :: rest) := by
  intro place
  refine ⟨place, ?_⟩
  simp [peekPastSpace, Cursor.skipSpace, Cursor.skip, notSpace, Position.afterAll]

theorem reads_valueStart {b : UInt8} (rest : Bytes) (notSpace : isSpace b = false) :
    Reads valueStart (b :: rest) b (b :: rest) :=
  (reads_peekPastSpace rest notSpace).bind (.pure b _)

theorem reads_colon (rest : Bytes) : Reads colon (58 :: rest) () rest :=
  (reads_peekPastSpace rest (by decide)).bind (reads_skip 1 _)

end Reader

/-! ## Texts -/

theorem hexDigit?_hexDigitByte : ∀ n < 16, hexDigit? (hexDigitByte n) = some n := by
  decide

/-- The bytes of a control character are the one byte with its number. -/
theorem codePointBytes_of_lt : ∀ n < 32, codePointBytes n = [UInt8.ofNat n] := by
  decide +kernel

/-- The digits that a control character is escaped with are read as its number. -/
theorem hexUnit?_control {b : UInt8} (control : b < 32) :
    hexUnit? 48 48 (hexDigitByte (b.toNat / 16)) (hexDigitByte (b.toNat % 16)) = some b.toNat := by
  have small : b.toNat < 32 := UInt8.lt_iff_toNat_lt.mp control
  have zero : hexDigit? 48 = some 0 := by decide
  have high := hexDigit?_hexDigitByte (b.toNat / 16) (by omega)
  have low := hexDigit?_hexDigitByte (b.toNat % 16) (by omega)
  simp only [hexUnit?, zero, high, low, Option.bind_eq_bind, Option.bind_some, Option.pure_def,
    Option.some.injEq]
  omega

/-- The escape of a control character by its number is read as the byte. -/
theorem readEscape_unit {b : UInt8} (control : b < 32) (rest : Bytes) :
    readEscape (117 :: 48 :: 48 :: hexDigitByte (b.toNat / 16) :: hexDigitByte (b.toNat % 16) ::
      rest) = .ok ⟨[b], 5⟩ := by
  have small : b.toNat < 32 := UInt8.lt_iff_toNat_lt.mp control
  have notLow : isLowSurrogate b.toNat = false := by
    simp only [isLowSurrogate, Bool.and_eq_false_iff, decide_eq_false_iff_not]
    omega
  have notHigh : isHighSurrogate b.toNat = false := by
    simp only [isHighSurrogate, Bool.and_eq_false_iff, decide_eq_false_iff_not]
    omega
  have bytesEq : codePointBytes b.toNat = [b] := by
    rw [codePointBytes_of_lt b.toNat small, UInt8.ofNat_toNat]
  simp [readEscape, readUnit, hexUnit?_control control, notLow, notHigh, bytesEq, Bind.bind,
    Except.bind]

/-- A byte as it is written is read as that byte. -/
theorem readContent_escapeByte (b : UInt8) (rest : Bytes) (content : List Bytes) (length : Nat) :
    readContent (escapeByte b ++ rest) content length =
      readContent rest ([b] :: content) (length + (escapeByte b).length) := by
  by_cases quote : b = 34
  · subst quote; simp [escapeByte, readContent, readEscape, escapedByte?]
  by_cases backslash : b = 92
  · subst backslash; simp [escapeByte, readContent, readEscape, escapedByte?]
  by_cases lettered : b = 8 ∨ b = 12 ∨ b = 10 ∨ b = 13 ∨ b = 9
  · rcases lettered with rfl | rfl | rfl | rfl | rfl <;>
      simp [escapeByte, readContent, readEscape, escapedByte?]
  simp only [not_or] at lettered
  rcases lettered with ⟨h8, h12, h10, h13, h9⟩
  by_cases control : b < 32
  · have written : escapeByte b =
        [92, 117, 48, 48, hexDigitByte (b.toNat / 16), hexDigitByte (b.toNat % 16)] := by
      simp [escapeByte, quote, backslash, h8, h12, h10, h13, h9, control]
    rw [written]
    simp only [List.cons_append, List.nil_append]
    rw [readContent, if_neg (by decide), if_pos rfl, readEscape_unit control]
    rfl
  · have written : escapeByte b = [b] := by
      simp [escapeByte, quote, backslash, h8, h12, h10, h13, h9, control]
    rw [written, List.cons_append, readContent, if_neg quote, if_neg backslash, if_neg control]
    rfl

/-- The content of a text as it is written is read up to its closing quote. -/
theorem readContent_flatMap_escapeByte (bytes rest : Bytes) (content : List Bytes)
    (length : Nat) :
    readContent (bytes.flatMap escapeByte ++ 34 :: rest) content length =
      .ok (content.reverse.flatten ++ bytes, length + (bytes.flatMap escapeByte).length + 1) := by
  induction bytes generalizing content length with
  | nil => simp [readContent]
  | cons b bytes ih =>
      rw [List.flatMap_cons, List.append_assoc, readContent_escapeByte, ih]
      simp [Nat.add_assoc]

namespace Reader

theorem reads_textContent (s : String) (rest : Bytes) :
    Reads textContent ((Utf8.encode s).flatMap escapeByte ++ 34 :: rest) s rest := by
  refine Reads.get_bind fun place => ?_
  simp only [readContent_flatMap_escapeByte, List.reverse_nil, List.flatten_nil, List.nil_append,
    Utf8.decode?_encode]
  apply Reads.bind (reads_skip _ _)
  have restEq : ((Utf8.encode s).flatMap escapeByte ++ 34 :: rest).drop
      (0 + ((Utf8.encode s).flatMap escapeByte).length + 1) = rest := by
    rw [Nat.zero_add, ← List.drop_drop, List.drop_left]
    rfl
  rw [restEq]
  exact .pure s rest

/-- A text is read back from the bytes it is written as. -/
theorem reads_text (s : String) (rest : Bytes) : Reads text (writeText s ++ rest) s rest := by
  have written : writeText s ++ rest =
      34 :: ((Utf8.encode s).flatMap escapeByte ++ 34 :: rest) := by
    simp [writeText]
  rw [written]
  exact (reads_valueStart _ (by decide)).bind ((reads_skip 1 _).bind (reads_textContent s rest))

end Reader

end DeviceAdmission.Json
