import DeviceAdmission.Proofs.Time.Calendar
import DeviceAdmission.Time.Rfc3339
import Mathlib.Algebra.Group.Nat.Defs

/-!
# Reading timestamps

The parts of a timestamp are taken off its front one by one, each with the width it was written
with. The main statement is that an instant of the years 0 to 9999 is read back exactly from its
timestamp.
-/

namespace DeviceAdmission

namespace Numeral

/-- A padded numeral of a number that needs no more digits has exactly the width asked for. -/
theorem length_writePadded {width n : Nat} (positive : 0 < width) (fits : n < 10 ^ width) :
    (writePadded width n).length = width := by
  have short : (write n).length ≤ width :=
    (Nat.length_toDigits_le_iff (by decide) positive).mpr fits
  simp only [writePadded, List.length_append, List.length_replicate]
  omega

theorem isDigit_of_mem_writePadded {width n : Nat} {c : Char} (member : c ∈ writePadded width n) :
    c.isDigit = true := by
  rcases List.mem_append.mp member with zero | digit
  · rw [List.eq_of_mem_replicate zero]
    decide
  · exact Nat.isDigit_of_mem_toDigits (by decide) (by decide) digit

/-- Zeros in front of a numeral do not count. -/
@[simp]
theorem ofDigitChars_writePadded (width n : Nat) :
    Nat.ofDigitChars 10 (writePadded width n) 0 = n := by
  rw [writePadded, Nat.ofDigitChars_append, Nat.ofDigitChars_replicate_zero, Nat.mul_zero, write]
  exact Nat.ofDigitChars_ten_toDigits

theorem read?_writePadded (width n : Nat) : read? (writePadded width n) = some n := by
  refine read?_eq_some_iff.mpr ⟨?_, ?_, ofDigitChars_writePadded width n⟩
  · exact List.append_ne_nil_of_right_ne_nil _ Nat.toDigits_ne_nil
  · exact List.all_eq_true.mpr fun c member => isDigit_of_mem_writePadded member

end Numeral

namespace Rfc3339

open Numeral

/-- A number is taken off the front as it was written. -/
theorem takeDigits?_writePadded {width n : Nat} (positive : 0 < width) (fits : n < 10 ^ width)
    (rest : List Char) : takeDigits? width (writePadded width n ++ rest) = some (n, rest) := by
  have length := length_writePadded positive fits
  have front : (writePadded width n ++ rest).take width = writePadded width n :=
    List.take_left' length
  have back : (writePadded width n ++ rest).drop width = rest := List.drop_left' length
  simp only [takeDigits?, front, back, length, ne_eq, not_true_eq_false, if_false,
    read?_writePadded, Option.bind_eq_bind, Option.bind_some, Option.pure_def]

@[simp]
theorem takeChar?_cons (c : Char) (rest : List Char) : takeChar? c (c :: rest) = some rest :=
  if_pos rfl

@[simp]
theorem takeParting?_cons (rest : List Char) : takeParting? ('T' :: rest) = some rest :=
  rfl

/-- Both ways to write the zone are those of UTC. -/
@[simp]
theorem readZone?_chars (zone : Zone) : readZone? zone.chars = some 0 := by
  cases zone <;> decide

/-- No zone begins with a digit or a point. -/
theorem exists_chars (zone : Zone) :
    ∃ c rest, zone.chars = c :: rest ∧ c.isDigit = false ∧ c ≠ '.' := by
  cases zone with
  | letter => exact ⟨'Z', [], rfl, by decide, by decide⟩
  | offset => exact ⟨'+', _, rfl, by decide, by decide⟩

/-- A fraction of as many digits as its width stands for that many of nine digits. -/
theorem takeFraction?_writePadded {width n : Nat} (positive : 0 < width) (most : width ≤ 9)
    (fits : n < 10 ^ width) (zone : Zone) :
    takeFraction? ('.' :: writePadded width n ++ zone.chars) =
      some (10 ^ (9 - width) * n, zone.chars) := by
  rcases exists_chars zone with ⟨c, rest, charsEq, notDigit, -⟩
  have length := length_writePadded positive fits
  have digits : (writePadded width n ++ zone.chars).takeWhile Char.isDigit =
      writePadded width n := by
    rw [List.takeWhile_append_of_pos fun _ => isDigit_of_mem_writePadded, charsEq,
      List.takeWhile_cons_of_neg (by simp [notDigit]), List.append_nil]
  have some_digit : writePadded width n ≠ [] := by
    intro none
    rw [none] at length
    exact absurd length (by simp only [List.length_nil]; omega)
  have kept : (writePadded width n).take 9 = writePadded width n :=
    List.take_of_length_le (by omega)
  simp only [takeFraction?, List.cons_append, digits, some_digit, if_false, kept, length,
    Nat.ofDigitChars_append, ofDigitChars_writePadded, Nat.ofDigitChars_replicate_zero,
    List.drop_left' length]

/-- A fraction is taken off the front as it was written. -/
theorem takeFraction?_writeFraction {nanos : Nat} (fits : nanos < 1000000000) (zone : Zone) :
    takeFraction? (writeFraction nanos ++ zone.chars) = some (nanos, zone.chars) := by
  unfold writeFraction
  split
  · rename_i whole
    rcases exists_chars zone with ⟨c, rest, charsEq, -, notPoint⟩
    rw [List.nil_append, charsEq, whole]
    unfold takeFraction?
    split
    · rename_i behind equal
      exact absurd (List.cons.inj equal).1 notPoint
    · rfl
  · split
    · rw [takeFraction?_writePadded (by decide) (by decide) (by omega)]
      congr 2
      omega
    · split
      · rw [takeFraction?_writePadded (by decide) (by decide) (by omega)]
        congr 2
        omega
      · rw [takeFraction?_writePadded (by decide) (by decide) (by omega)]
        congr 2
        omega

/-- An instant of the years 0 to 9999 is read back from its timestamp. -/
theorem read?_write {t : Instant} (zone : Zone) (least : 0 ≤ t.date.year)
    (most : t.date.year ≤ 9999) : read? (write zone t) = some t := by
  have valid : t.date.isValid = true := Date.isValid_ofDay _
  have dayEq : t.date.toDay = t.seconds / 86400 := Date.toDay_ofDay _
  have bounds := valid
  simp only [Date.isValid, Bool.and_eq_true, decide_eq_true_eq] at bounds
  rcases bounds with ⟨⟨⟨-, month_le⟩, -⟩, day_le⟩
  have few : Date.daysInMonth t.date.year t.date.month ≤ 31 := by
    unfold Date.daysInMonth
    repeat' split
    all_goals decide
  have inDay : t.secondOfDay < 86400 := by
    unfold Instant.secondOfDay
    omega
  have inSecond : t.subsecond < 1000000000 := by
    unfold Instant.subsecond nanosPerSecond
    omega
  have yearEq : ((t.date.year.natAbs : Nat) : Int) = t.date.year := by omega
  have dateEq : (⟨(t.date.year.natAbs : Nat), t.date.month, t.date.day⟩ : Date) = t.date := by
    rw [yearEq]
  rw [read?, write, String.toList_ofList]
  simp only [writeChars, writeYear, if_pos (And.intro least most), List.append_assoc,
    List.cons_append, readChars?, Option.bind_eq_bind]
  rw [takeDigits?_writePadded (by decide) (by omega)]
  simp only [Option.bind_some, takeChar?_cons]
  rw [takeDigits?_writePadded (by decide) (by omega)]
  simp only [Option.bind_some, takeChar?_cons]
  rw [takeDigits?_writePadded (by decide) (by omega)]
  simp only [Option.bind_some, takeParting?_cons]
  rw [takeDigits?_writePadded (by decide) (by omega)]
  simp only [Option.bind_some, takeChar?_cons]
  rw [takeDigits?_writePadded (by decide) (by omega)]
  simp only [Option.bind_some, takeChar?_cons]
  rw [takeDigits?_writePadded (by decide) (by omega)]
  simp only [Option.bind_some, takeFraction?_writeFraction inSecond, readZone?_chars, dateEq,
    valid, Bool.true_and]
  have inHours : t.secondOfDay / 3600 < 24 := by omega
  have inMinutes : t.secondOfDay / 60 % 60 < 60 := by omega
  have inSeconds : t.secondOfDay % 60 ≤ 60 := by omega
  simp only [inHours, inMinutes, inSeconds, decide_true, Bool.and_self, if_true, dayEq,
    Option.some.injEq]
  have nanosEq : t.nanos = t.seconds * nanosPerSecond + t.subsecond := by
    simp only [Instant.seconds, Instant.subsecond, nanosPerSecond]
    omega
  have secondsEq : t.seconds / 86400 * 86400 + (t.secondOfDay / 3600 * 3600 +
      t.secondOfDay / 60 % 60 * 60 + t.secondOfDay % 60 : Nat) - 0 = t.seconds := by
    have split : (t.secondOfDay : Int) = t.seconds % 86400 := by
      unfold Instant.secondOfDay
      omega
    omega
  rw [secondsEq, ← nanosEq]

/-! ## Years that are not read -/

/-- No number is taken off the front where another character stands. -/
theorem takeDigits?_eq_none {c : Char} (notDigit : c.isDigit = false) (width : Nat)
    (rest : List Char) : takeDigits? (width + 1) (c :: rest) = none := by
  have unread : Numeral.read? (c :: rest.take width) = none := by
    cases read : Numeral.read? (c :: rest.take width) with
    | none => rfl
    | some n =>
        have digits := (read?_eq_some_iff.mp read).2.1
        rw [List.all_cons, notDigit, Bool.false_and] at digits
        cases digits
  simp only [takeDigits?, List.take_succ_cons, unread]
  split
  · rfl
  · rfl

/-- A timestamp of another year is written with a sign, which the reader does not take. -/
theorem read?_write_eq_none {t : Instant} (zone : Zone)
    (outside : ¬(0 ≤ t.date.year ∧ t.date.year ≤ 9999)) : read? (write zone t) = none := by
  rw [read?, write, String.toList_ofList]
  simp only [writeChars, writeYear, if_neg outside, List.cons_append, readChars?]
  rw [takeDigits?_eq_none]
  · rfl
  · split
    · rfl
    · rfl

end Rfc3339

end DeviceAdmission
