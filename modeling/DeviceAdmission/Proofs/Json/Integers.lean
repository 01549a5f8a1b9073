import DeviceAdmission.Proofs.Json.Reading

/-!
# Reading integers

The digits that a number is written with are read as that number, and passed over as one value,
where a comma or a closing bracket follows. The main statement is that every integer that fits in
64 bits with its sign is read back.
-/

namespace DeviceAdmission

namespace Numeral

/-- Only zero is written with a zero in front. -/
theorem head?_write_ne_zero {n : Nat} (positive : n ≠ 0) : (write n).head? ≠ some '0' := by
  induction n using Nat.strongRecOn with
  | ind n ih =>
      by_cases small : n < 10
      · have digits : ∀ m < 10, m ≠ 0 → m.digitChar ≠ '0' := by decide
        simpa [write, Nat.toDigits_of_lt_base small] using digits n small positive
      · have split : write n = write (n / 10) ++ [(n % 10).digitChar] :=
          Nat.toDigits_of_base_le (by decide) (by omega)
        have front := ih (n / 10) (by omega) (by omega)
        cases written : write (n / 10) with
        | nil => exact absurd written Nat.toDigits_ne_nil
        | cons c cs =>
            rw [written] at front
            simpa [split, written] using front

end Numeral

namespace Json

open Reader

theorem ascii_of_isDigit {c : Char} (digit : c.isDigit = true) :
    isDigit (UInt8.ofNat c.toNat) = true ∧
      digitValue (UInt8.ofNat c.toNat) = c.toNat - '0'.toNat := by
  have bounds : 48 ≤ c.toNat ∧ c.toNat ≤ 57 := by
    simpa [Char.isDigit, Char.le_def, UInt32.le_iff_toNat_le] using digit
  have toNat : (UInt8.ofNat c.toNat).toNat = c.toNat := by
    rw [UInt8.toNat_ofNat']
    omega
  constructor
  · simp only [isDigit, Bool.and_eq_true, decide_eq_true_eq, UInt8.le_iff_toNat_le, toNat]
    exact bounds
  · simp only [digitValue, toNat]
    rfl

theorem le_ofDigitChars (cs : List Char) (value : Nat) :
    value ≤ Nat.ofDigitChars 10 cs value := by
  induction cs generalizing value with
  | nil => simp
  | cons c cs ih =>
      rw [Nat.ofDigitChars_cons]
      have := ih (10 * value + (c.toNat - '0'.toNat))
      omega

/-- Digits that fit are all added. -/
theorem addDigits_asciiBytes {cs : List Char} {value : Nat}
    (digits : ∀ c ∈ cs, c.isDigit = true)
    (fits : Nat.ofDigitChars 10 cs value ≤ maxWord) :
    addDigits value (asciiBytes cs) = (Nat.ofDigitChars 10 cs value, cs.length) := by
  induction cs generalizing value with
  | nil => simp [asciiBytes, addDigits]
  | cons c cs ih =>
      have valueEq := (ascii_of_isDigit (digits c List.mem_cons_self)).2
      have stepEq : value * 10 + digitValue (UInt8.ofNat c.toNat) =
          10 * value + (c.toNat - '0'.toNat) := by
        rw [valueEq, Nat.mul_comm]
      rw [Nat.ofDigitChars_cons] at fits ⊢
      have below : 10 * value + (c.toNat - '0'.toNat) < integerLimit :=
        Nat.lt_succ_of_le (Nat.le_trans (le_ofDigitChars cs _) fits)
      have rest := ih (fun d member => digits d (List.mem_cons_of_mem c member)) fits
      simp only [asciiBytes, List.map_cons, addDigits, stepEq, if_pos below]
      rw [asciiBytes] at rest
      rw [rest]
      rfl

/-- What follows a value inside an object: a comma or the closing bracket. -/
def Delimited (rest : Bytes) : Prop :=
  ∃ b tail, rest = b :: tail ∧ (b = 44 ∨ b = 125)

/-- A delimiter is no part of a number and no white space. -/
theorem Delimited.head? {rest : Bytes} (h : Delimited rest) :
    ∃ b, rest.head? = some b ∧ isDigit b = false ∧ b ≠ 46 ∧ b ≠ 101 ∧ b ≠ 69 := by
  rcases h with ⟨b, tail, rfl, rfl | rfl⟩
  · exact ⟨44, rfl, by decide⟩
  · exact ⟨125, rfl, by decide⟩

/-- The digits of a number in an object end before the delimiter. -/
theorem Delimited.span_digits {more rest : Bytes} (delimited : Delimited rest)
    (digits : ∀ b ∈ more, isDigit b = true) :
    (more ++ rest).takeWhile isDigit = more ∧ (more ++ rest).dropWhile isDigit = rest := by
  rcases delimited with ⟨b, tail, rfl, delimiter⟩
  have notDigit : isDigit b = false := by
    rcases delimiter with rfl | rfl <;> decide
  rw [List.takeWhile_append_of_pos digits, List.dropWhile_append_of_pos digits]
  simp [notDigit]

/-- The digits of a number, the first of them set apart. -/
structure Digits (n : Nat) (first : UInt8) (more : Bytes) : Prop where
  written : asciiBytes (Numeral.write n) = first :: more
  first_isDigit : isDigit first = true
  more_isDigit : ∀ b ∈ more, isDigit b = true
  zero_alone : first = 48 → n = 0 ∧ more = []
  added : n ≤ maxWord → addDigits (digitValue first) more = (n, more.length)

theorem exists_digits (n : Nat) : ∃ first more, Digits n first more := by
  have digits : ∀ c ∈ Numeral.write n, c.isDigit = true := fun c member =>
    Nat.isDigit_of_mem_toDigits (by decide) (by decide) member
  have valueEq : Nat.ofDigitChars 10 (Numeral.write n) 0 = n :=
    Nat.ofDigitChars_toDigits (by decide) (by decide)
  cases written : Numeral.write n with
  | nil => exact absurd written Nat.toDigits_ne_nil
  | cons c cs =>
      rw [written] at digits valueEq
      have firstAscii := ascii_of_isDigit (digits c List.mem_cons_self)
      have rest : ∀ d ∈ cs, d.isDigit = true := fun d member =>
        digits d (List.mem_cons_of_mem c member)
      refine ⟨UInt8.ofNat c.toNat, asciiBytes cs, ?_, firstAscii.1, ?_, ?_, ?_⟩
      · rw [written]
        rfl
      · intro b member
        rcases List.mem_map.mp member with ⟨d, memberD, rfl⟩
        exact (ascii_of_isDigit (rest d memberD)).1
      · intro zero
        have charZero : c = '0' := by
          have bounds : 48 ≤ c.toNat ∧ c.toNat ≤ 57 := by
            simpa [Char.isDigit, Char.le_def, UInt32.le_iff_toNat_le] using
              digits c List.mem_cons_self
          have toNat : (UInt8.ofNat c.toNat).toNat = 48 := by rw [zero]; rfl
          rw [UInt8.toNat_ofNat'] at toNat
          apply Char.ext
          apply UInt32.toNat_inj.mp
          change c.toNat = 48
          omega
        have isZero : n = 0 := Decidable.byContradiction fun positive =>
          Numeral.head?_write_ne_zero positive (by rw [written, charZero]; rfl)
        subst isZero
        have single : Numeral.write 0 = ['0'] := by decide
        rw [single] at written
        cases written
        exact ⟨rfl, rfl⟩
      · intro fits
        have stepEq : digitValue (UInt8.ofNat c.toNat) = 10 * 0 + (c.toNat - '0'.toNat) := by
          rw [firstAscii.2]
          omega
        rw [Nat.ofDigitChars_cons] at valueEq
        rw [stepEq, addDigits_asciiBytes rest (by omega), valueEq]
        simp [asciiBytes]

namespace Reader

/-- Where a number is written as an integer in an object, nothing more belongs to it. -/
theorem reads_afterInteger {negative : Bool} {n : Nat} {rest : Bytes} (delimited : Delimited rest)
    (fits : negative = true → 0 < n ∧ n ≤ maxSigned + 1) :
    Reads (afterInteger negative n 0) rest (.integer (if negative then -n else n)) rest := by
  obtain ⟨b, head, -, noPoint, noSmall, noCapital⟩ := delimited.head?
  apply Reads.bind (reads_peek rest)
  rw [head]
  have noExponent : isExponentLetter (some b) = false := by
    simp [isExponentLetter, noSmall, noCapital]
  simp only [Option.some.injEq, noPoint, if_false, noExponent, Bool.false_eq_true, ne_eq,
    not_true_eq_false]
  cases negative with
  | false => exact .pure _ _
  | true =>
      rcases fits rfl with ⟨positive, small⟩
      have kept : ¬(n = 0 ∨ maxSigned + 1 < n) := by omega
      simp only [Bool.not_true, Bool.false_eq_true, if_false, kept, if_true]
      exact .pure _ _

/-- Digits are read as their number. -/
theorem reads_number (negative : Bool) {n : Nat} {rest : Bytes} (delimited : Delimited rest)
    (small : n ≤ maxWord) (fits : negative = true → 0 < n ∧ n ≤ maxSigned + 1) :
    Reads (number negative) (asciiBytes (Numeral.write n) ++ rest)
      (.integer (if negative then -n else n)) rest := by
  rcases exists_digits n with ⟨first, more, digits⟩
  rcases delimited.head? with ⟨b, head, notDigit, -⟩
  rw [digits.written]
  apply Reads.bind (reads_next _)
  simp only [List.cons_append, List.head?_cons, List.drop_one, List.tail_cons]
  by_cases zero : first = 48
  · obtain ⟨rfl, rfl⟩ := digits.zero_alone zero
    rw [if_pos zero, List.nil_append]
    apply Reads.bind (reads_peek rest)
    rw [head]
    simp only [Option.map_some, Option.getD_some, notDigit, Bool.false_eq_true, if_false]
    exact reads_afterInteger delimited fits
  · rw [if_neg zero, if_pos digits.first_isDigit]
    rcases delimited.span_digits digits.more_isDigit with ⟨taken, left⟩
    apply Reads.bind (reads_takeWhile isDigit _)
    rw [taken, left, digits.added small]
    simp only [Nat.sub_self]
    exact reads_afterInteger delimited fits

/-- A digit is not white space and begins no other scalar. -/
theorem first_of_isDigit {b : UInt8} (digit : isDigit b = true) :
    isSpace b = false ∧ b ≠ 110 ∧ b ≠ 116 ∧ b ≠ 102 ∧ b ≠ 45 ∧ b ≠ 34 := by
  refine ⟨?_, ?_, ?_, ?_, ?_, ?_⟩
  · simp only [isDigit, isSpace, Bool.and_eq_true, decide_eq_true_eq] at digit ⊢
    grind
  all_goals
    rintro rfl
    revert digit
    decide

/-- The bytes of an integer, of which the first is not white space, are read as that integer. -/
theorem reads_scalar_integer {i : Int} {rest : Bytes} (delimited : Delimited rest)
    (fits : fitsWord i = true) :
    ∃ first more, (Number.integer i).write = first :: more ∧ isSpace first = false ∧
      Reads (scalar first) (first :: more ++ rest) (some (.number (.integer i))) rest := by
  simp only [fitsWord, Bool.and_eq_true, decide_eq_true_eq] at fits
  cases i with
  | ofNat n =>
      rcases exists_digits n with ⟨first, more, digits⟩
      obtain ⟨noSpace, noNull, noTrue, noFalse, noMinus, noQuote⟩ :=
        first_of_isDigit digits.first_isDigit
      have small : n ≤ maxWord := Int.ofNat_le.mp fits.2
      refine ⟨first, more, digits.written, noSpace, ?_⟩
      simp only [scalar, if_neg noNull, if_neg noTrue, if_neg noFalse, if_neg noMinus,
        if_pos digits.first_isDigit]
      rw [← digits.written]
      have read := reads_number false delimited small
        fun h => absurd h Bool.false_ne_true
      exact read.bind (.pure _ _)
  | negSucc n =>
      have small : n + 1 ≤ maxSigned + 1 := by
        have least : -9223372036854775808 ≤ -((n : Int) + 1) := by
          simpa only [minSigned, Int.negSucc_eq] using fits.1
        simp only [maxSigned]
        omega
      refine ⟨45, asciiBytes (Numeral.write (n + 1)), rfl, by decide, ?_⟩
      simp only [scalar, if_neg (by decide : (45 : UInt8) ≠ 110),
        if_neg (by decide : (45 : UInt8) ≠ 116), if_neg (by decide : (45 : UInt8) ≠ 102), if_true]
      have word : n + 1 ≤ maxWord := Nat.le_trans small (by decide)
      have read := reads_number true delimited word
        fun _ => ⟨Nat.succ_pos n, small⟩
      exact (reads_skip 1 _).bind (read.bind (.pure _ _))

/-! ## Passing over -/

/-- The rest of a number without a fraction and an exponent is nothing. -/
theorem reads_passNumber {n : Nat} {rest : Bytes} (delimited : Delimited rest) :
    Reads passNumber (asciiBytes (Numeral.write n) ++ rest) () rest := by
  rcases exists_digits n with ⟨first, more, digits⟩
  obtain ⟨b, head, notDigit, noPoint, noSmall, noCapital⟩ := delimited.head?
  have noExponent : isExponentLetter (some b) = false := by
    simp [isExponentLetter, noSmall, noCapital]
  rw [digits.written]
  apply Reads.bind (reads_next _)
  simp only [List.cons_append, List.head?_cons, List.drop_one, List.tail_cons, Option.map_some,
    Option.getD_some, digits.first_isDigit, Bool.not_true, Bool.false_eq_true, if_false,
    Option.some.injEq]
  by_cases zero : first = 48
  · rcases digits.zero_alone zero with ⟨rfl, rfl⟩
    rw [if_pos zero, List.nil_append]
    apply Reads.bind (reads_peek rest)
    simp only [head, Option.map_some, Option.getD_some, notDigit, Bool.false_eq_true, if_false]
    apply Reads.bind (reads_peek rest)
    simp only [head, Option.some.injEq, noPoint, if_false]
    apply Reads.bind (reads_peek rest)
    simp only [head, noExponent, Bool.false_eq_true, if_false]
    exact .pure _ _
  · rw [if_neg zero]
    apply Reads.bind (reads_takeWhile isDigit _)
    rw [(delimited.span_digits digits.more_isDigit).2]
    apply Reads.bind (reads_peek rest)
    simp only [head, Option.some.injEq, noPoint, if_false]
    apply Reads.bind (reads_peek rest)
    simp only [head, noExponent, Bool.false_eq_true, if_false]
    exact .pure _ _

end Reader

end Json

end DeviceAdmission
