import DeviceAdmission.Proofs.Json.Integers

/-!
# Reading objects as records

An object as it is written is read field by field. A field that the record has is read by it, and
any other is passed over. The main statement is that a record is read from an object whose fields
can be collected in this way and include the required ones.
-/

namespace DeviceAdmission.Json

namespace Reader

/-! ## Passing over fields -/

theorem passContent_escapeByte (b : UInt8) (rest : Bytes) (length : Nat) :
    passContent (escapeByte b ++ rest) length =
      passContent rest (length + (escapeByte b).length) := by
  by_cases quote : b = 34
  · subst quote; simp [escapeByte, passContent, escapedByte?]
  by_cases backslash : b = 92
  · subst backslash; simp [escapeByte, passContent, escapedByte?]
  by_cases lettered : b = 8 ∨ b = 12 ∨ b = 10 ∨ b = 13 ∨ b = 9
  · rcases lettered with rfl | rfl | rfl | rfl | rfl <;>
      simp [escapeByte, passContent, escapedByte?]
  simp only [not_or] at lettered
  rcases lettered with ⟨h8, h12, h10, h13, h9⟩
  by_cases control : b < 32
  · have written : escapeByte b =
        [92, 117, 48, 48, hexDigitByte (b.toNat / 16), hexDigitByte (b.toNat % 16)] := by
      simp [escapeByte, quote, backslash, h8, h12, h10, h13, h9, control]
    rw [written]
    simp only [List.cons_append, List.nil_append]
    rw [passContent.eq_def]
    simp [readUnit, hexUnit?_control control]
  · have written : escapeByte b = [b] := by
      simp [escapeByte, quote, backslash, h8, h12, h10, h13, h9, control]
    rw [written, List.cons_append, passContent.eq_def]
    simp [quote, backslash, control]

/-- A text as it is written is passed over up to its closing quote. -/
theorem passContent_flatMap_escapeByte (bytes rest : Bytes) (length : Nat) :
    passContent (bytes.flatMap escapeByte ++ 34 :: rest) length =
      .ok (length + (bytes.flatMap escapeByte).length + 1) := by
  induction bytes generalizing length with
  | nil =>
      rw [passContent.eq_def]
      simp
  | cons b bytes ih =>
      rw [List.flatMap_cons, List.append_assoc, passContent_escapeByte, ih]
      simp [Nat.add_assoc]

theorem reads_passText (s : String) (rest : Bytes) :
    Reads passText ((Utf8.encode s).flatMap escapeByte ++ 34 :: rest) () rest := by
  refine Reads.get_bind fun place => ?_
  simp only [passContent_flatMap_escapeByte]
  have restEq : ((Utf8.encode s).flatMap escapeByte ++ 34 :: rest).drop
      (0 + ((Utf8.encode s).flatMap escapeByte).length + 1) = rest := by
    rw [Nat.zero_add, ← List.drop_drop, List.drop_left]
    rfl
  have skipped := reads_skip (0 + ((Utf8.encode s).flatMap escapeByte).length + 1)
    ((Utf8.encode s).flatMap escapeByte ++ 34 :: rest)
  rwa [restEq] at skipped

/-- A value that does not nest is passed over as a whole. -/
theorem reads_passValue {b : UInt8} {more rest : Bytes} (notSpace : isSpace b = false)
    (passed : Reads (passScalar b) (b :: more) true rest) :
    Reads passValue (b :: more) () rest := by
  refine Reads.get_bind fun place => ?_
  simp only [List.length_cons, passNested]
  apply (reads_peekPastSpace more notSpace).bind
  apply passed.bind
  apply (Reads.pure (false, []) rest).bind
  exact (Reads.pure [] rest).bind (.pure () rest)

/-- Whether a value is passed over where it stands in an object. -/
def Passes (v : Value) : Prop :=
  ∀ rest, Delimited rest → Reads passValue (v.write ++ rest) () rest

theorem passes_text (s : String) : Passes (.text s) := by
  intro rest _
  have written : (Value.text s).write ++ rest =
      34 :: ((Utf8.encode s).flatMap escapeByte ++ 34 :: rest) := by
    simp [Value.write, writeText]
  rw [written]
  apply reads_passValue (by decide)
  exact (reads_skip 1 _).bind ((reads_passText s rest).bind (.pure _ _))

theorem passes_integer (i : Int) : Passes (.number (.integer i)) := by
  intro rest delimited
  rw [Value.write]
  cases i with
  | ofNat n =>
      rcases exists_digits n with ⟨first, more, digits⟩
      obtain ⟨noSpace, noNull, noTrue, noFalse, noMinus, noQuote⟩ :=
        first_of_isDigit digits.first_isDigit
      have written : (Number.integer (.ofNat n)).write = first :: more := digits.written
      rw [written]
      apply reads_passValue noSpace
      simp only [passScalar, if_neg noNull, if_neg noTrue, if_neg noFalse, if_neg noMinus,
        if_pos digits.first_isDigit]
      have passed := reads_passNumber (n := n) delimited
      rw [digits.written] at passed
      exact passed.bind (.pure true rest)
  | negSucc n =>
      have written : (Number.integer (.negSucc n)).write =
          45 :: asciiBytes (Numeral.write (n + 1)) := rfl
      rw [written]
      apply reads_passValue (by decide)
      exact (reads_skip 1 _).bind ((reads_passNumber delimited).bind (.pure _ _))

end Reader

/-! ## Collecting fields -/

namespace Record

variable {σ : Type}

open Reader

/-- From what was read so far, the fields of an object lead to what is read in the end. -/
inductive Collects (r : Record σ) : σ → Fields → σ → Prop
  | done (sofar : σ) : Collects r sofar [] sofar
  | known {sofar next last : σ} {key : String} {v : Value} {fields : Fields} {field : Field σ}
      (found : r.fields.find? (·.key = key) = some field) (unset : field.isSet sofar = false)
      (read : ∀ rest, Delimited rest → Reads (field.read sofar) (v.write ++ rest) next rest)
      (others : Collects r next fields last) : Collects r sofar ((key, v) :: fields) last
  | unknown {sofar last : σ} {key : String} {v : Value} {fields : Fields}
      (absent : r.fields.find? (·.key = key) = none) (passes : Passes v)
      (others : Collects r sofar fields last) : Collects r sofar ((key, v) :: fields) last

/-- What stands behind a field: the other fields, with a comma before them. -/
def writeOthers : Fields → Bytes
  | [] => []
  | fields => 44 :: writeFields fields

theorem writeFields_cons (key : String) (v : Value) (fields : Fields) :
    writeFields ((key, v) :: fields) = writeText key ++ 58 :: (v.write ++ writeOthers fields) := by
  cases fields with
  | nil => simp [writeFields, writeOthers]
  | cons field fields =>
      rcases field with ⟨k, w⟩
      simp [writeFields, writeOthers]

theorem delimited_writeOthers (fields : Fields) (rest : Bytes) :
    Delimited (writeOthers fields ++ 125 :: rest) := by
  cases fields with
  | nil => exact ⟨125, rest, rfl, .inr rfl⟩
  | cons field fields => exact ⟨44, _, rfl, .inl rfl⟩

theorem length_le_length_writeFields (fields : Fields) :
    fields.length ≤ (writeFields fields).length := by
  induction fields with
  | nil => exact Nat.zero_le _
  | cons field fields ih =>
      obtain ⟨key, v⟩ := field
      rw [writeFields_cons]
      cases fields with
      | nil => simp [writeText]
      | cons next fields =>
          simp only [writeOthers, List.length_append, List.length_cons] at ih ⊢
          omega

/-- The bytes of fields after a field was read, or before. -/
def writeRemaining (first : Bool) (fields : Fields) : Bytes :=
  if first then writeFields fields else writeOthers fields

/-- At the closing bracket there are no more fields. -/
theorem reads_moreFields_nil (first : Bool) (rest : Bytes) :
    Reads (moreFields first) (125 :: rest) false (125 :: rest) := by
  apply (reads_peekPastSpace rest (by decide)).bind
  exact (Reads.pure (some 125) _).bind (.pure false _)

/-- Where fields remain, the key of the first one comes next. -/
theorem reads_moreFields_cons (first : Bool) (field : String × Value) (fields : Fields)
    (rest : Bytes) :
    Reads (moreFields first) (writeRemaining first (field :: fields) ++ rest) true
      (writeFields (field :: fields) ++ rest) := by
  rcases field with ⟨key, v⟩
  have written : ∃ tail, writeFields ((key, v) :: fields) ++ rest = 34 :: tail := by
    rw [writeFields_cons, writeText]
    exact ⟨_, rfl⟩
  rcases written with ⟨tail, written⟩
  cases first with
  | true =>
      simp only [writeRemaining, if_true, written]
      apply (reads_peekPastSpace tail (by decide)).bind
      exact (Reads.pure (some 34) _).bind (.pure true _)
  | false =>
      have behind : writeRemaining false ((key, v) :: fields) ++ rest = 44 :: 34 :: tail := by
        rw [← written]
        rfl
      rw [behind, written]
      apply (reads_peekPastSpace _ (by decide)).bind
      refine (reads_skip 1 _).bind ((reads_peekPastSpace tail (by decide)).bind ?_)
      exact (Reads.pure (some 34) _).bind (.pure true _)

/-- The fields of an object are collected up to the closing bracket. -/
theorem reads_readFields {r : Record σ} {sofar last : σ} {fields : Fields}
    (collects : Collects r sofar fields last)
    (complete : (r.fields.find? fun f => f.required && !f.isSet last) = none)
    (first : Bool) (rest : Bytes) {fuel : Nat} (enough : fields.length < fuel) :
    Reads (r.readFields fuel first sofar) (writeRemaining first fields ++ 125 :: rest) last
      rest := by
  induction collects generalizing first fuel with
  | done sofar =>
      obtain ⟨fuel, rfl⟩ : ∃ n, fuel = n + 1 := ⟨fuel - 1, by simp at enough; omega⟩
      have nothing : writeRemaining first [] = [] := by cases first <;> rfl
      rw [nothing, List.nil_append]
      apply (reads_moreFields_nil first rest).bind
      simp only [Bool.false_eq_true, if_false, complete]
      exact (reads_skip 1 _).bind (.pure _ _)
  | @known sofar next last key v fields field found unset read others ih =>
      obtain ⟨fuel, rfl⟩ : ∃ n, fuel = n + 1 := ⟨fuel - 1, by simp at enough; omega⟩
      have fewer : fields.length < fuel := by simpa using enough
      apply (reads_moreFields_cons first (key, v) fields _).bind
      simp only [if_true, writeFields_cons, writeText, List.cons_append, List.append_assoc,
        List.nil_append]
      refine (reads_skip 1 _).bind ((reads_textContent key _).bind ?_)
      simp only [found, unset, Bool.false_eq_true, if_false]
      refine (reads_colon _).bind ((read _ (delimited_writeOthers fields rest)).bind ?_)
      exact ih complete false fewer
  | @unknown sofar last key v fields absent passes others ih =>
      obtain ⟨fuel, rfl⟩ : ∃ n, fuel = n + 1 := ⟨fuel - 1, by simp at enough; omega⟩
      have fewer : fields.length < fuel := by simpa using enough
      apply (reads_moreFields_cons first (key, v) fields _).bind
      simp only [if_true, writeFields_cons, writeText, List.cons_append, List.append_assoc,
        List.nil_append]
      refine (reads_skip 1 _).bind ((reads_textContent key _).bind ?_)
      simp only [absent]
      refine (reads_colon _).bind ((passes _ (delimited_writeOthers fields rest)).bind ?_)
      exact ih complete false fewer

/-- A record is read from an object whose fields can be collected and include the required ones. -/
theorem run_read_object {r : Record σ} {last : σ} {fields : Fields}
    (collects : Collects r r.blank fields last)
    (complete : (r.fields.find? fun f => f.required && !f.isSet last) = none) :
    Reader.run r.read (Value.object fields).write = .ok last := by
  apply run_eq_ok_of_reads
  have written : (Value.object fields).write = 123 :: (writeFields fields ++ [125]) := by
    simp [Value.write]
  rw [written]
  apply (reads_valueStart _ (by decide)).bind
  simp only [if_neg (by decide : (123 : UInt8) ≠ 91), if_true]
  refine (reads_skip 1 _).bind (Reads.get_bind fun place => ?_)
  apply reads_readFields collects complete true []
  have := length_le_length_writeFields fields
  simp only [List.drop_one, List.tail_cons, List.length_append, List.length_cons, List.length_nil]
  omega

end Record

end DeviceAdmission.Json
