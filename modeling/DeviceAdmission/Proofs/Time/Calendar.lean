import DeviceAdmission.Time.Calendar

/-!
# Days and dates

A day is taken apart into an era of 400 years, a year of the era and a day of that year. The main
statements are that the date of a day is one of the calendar, that it is the date of no other day,
and that a year begins with its first day.
-/

namespace DeviceAdmission.Date

/-- The year of an era that a day of the era lies in. -/
def yearOfEra (doe : Nat) : Nat :=
  (doe - doe / 1460 + doe / 36524 - doe / 146096) / 365

/-- The days of an era before one of its years. -/
def daysBefore (yoe : Nat) : Nat :=
  365 * yoe + yoe / 4 - yoe / 100

/-- Where a day lies that is not the last one of its era, by its century and its cycle of four
years. -/
theorem yearOfEra_bounds {doe century : Nat} (inEra : doe < 146096)
    (centuryEq : doe / 36524 = century) :
    100 * century ≤ yearOfEra doe ∧ yearOfEra doe < 100 * century + 100 ∧
      yearOfEra doe / 4 ≤ doe / 1460 ∧ doe / 1460 ≤ (yearOfEra doe + 1) / 4 ∧
      365 * yearOfEra doe + doe / 1460 ≤ doe + century ∧
      doe + century < 365 * yearOfEra doe + 365 + doe / 1460 := by
  have few : century < 4 := by omega
  have notLast : doe / 146096 = 0 := by omega
  have fewCycles : doe / 1460 ≤ doe := by omega
  simp only [yearOfEra, centuryEq, notLast]
  generalize cyclesEq : doe / 1460 = cycles at *
  generalize yearEq : (doe - cycles + century - 0) / 365 = year
  -- Each division is given by its bounds, which are linear.
  have year_le : 365 * year ≤ doe - cycles + century := by omega
  have lt_year : doe - cycles + century < 365 * year + 365 := by omega
  have century_le : 36524 * century ≤ doe := by omega
  have lt_century : doe < 36524 * century + 36524 := by omega
  have cycles_le : 1460 * cycles ≤ doe := by omega
  have lt_cycles : doe < 1460 * cycles + 1460 := by omega
  clear cyclesEq yearEq centuryEq notLast
  refine ⟨?_, ?_, ?_, ?_, ?_, ?_⟩ <;> omega

/-- A day of an era lies in a year of the era, and in its 366th day only in a leap year. -/
theorem yearOfEra_spec {doe : Nat} (inEra : doe < 146097) :
    yearOfEra doe < 400 ∧ daysBefore (yearOfEra doe) ≤ doe ∧
      doe - daysBefore (yearOfEra doe) ≤ 365 ∧
      (doe - daysBefore (yearOfEra doe) = 365 →
        yearOfEra doe % 4 = 3 ∧ (yearOfEra doe % 100 ≠ 99 ∨ yearOfEra doe = 399)) := by
  by_cases last : doe = 146096
  · subst last
    decide
  · obtain ⟨century_le, lt_century, year_le, le_year, days_le, lt_days⟩ :=
      yearOfEra_bounds (by omega) (rfl : doe / 36524 = _)
    have centuryEq : yearOfEra doe / 100 = doe / 36524 := by omega
    simp only [daysBefore, centuryEq]
    have few : doe / 36524 < 4 := by omega
    generalize yearOfEra doe = year at *
    refine ⟨by omega, by omega, by omega, ?_⟩
    intro longest
    have cycleEnd : year % 4 = 3 := by omega
    refine ⟨cycleEnd, ?_⟩
    omega

/-! ## Dates of the parts of a day -/

/-- The date of a day of a year of an era, counted from 1 March. -/
def ofParts (era : Int) (yoe doy : Nat) : Date :=
  let mp := (5 * doy + 2) / 153
  let month := if mp < 10 then mp + 3 else mp - 9
  { year := yoe + era * 400 + (if month ≤ 2 then 1 else 0)
    month := month
    day := doy - (153 * mp + 2) / 5 + 1 }

/-- Every day is taken apart into the parts of its date. -/
theorem exists_parts (day : Int) :
    ∃ (era : Int) (yoe doy : Nat), ofDay day = ofParts era yoe doy ∧
      day + epochOffset = era * 146097 + (daysBefore yoe + doy : Nat) ∧ yoe < 400 ∧ doy ≤ 365 ∧
      (doy = 365 → yoe % 4 = 3 ∧ (yoe % 100 ≠ 99 ∨ yoe = 399)) := by
  have inEra : ((day + epochOffset) % 146097).toNat < 146097 := by omega
  rcases yearOfEra_spec inEra with ⟨yoe_lt, before_le, doy_le, longest⟩
  refine ⟨(day + epochOffset) / 146097, yearOfEra ((day + epochOffset) % 146097).toNat,
    ((day + epochOffset) % 146097).toNat -
      daysBefore (yearOfEra ((day + epochOffset) % 146097).toNat), rfl, ?_, yoe_lt, doy_le, longest⟩
  rw [Nat.add_sub_of_le before_le]
  omega

/-- The months of the year up to February, which ends it, and those of the next. -/
theorem ofParts_cases (era : Int) (yoe : Nat) {doy : Nat} (inYear : doy ≤ 365) :
    ∃ mp, mp < 12 ∧ (153 * mp + 2) / 5 ≤ doy ∧ doy < (153 * (mp + 1) + 2) / 5 ∧
      ((mp < 10 ∧ ofParts era yoe doy =
          ⟨yoe + era * 400, mp + 3, doy - (153 * mp + 2) / 5 + 1⟩) ∨
        (10 ≤ mp ∧ ofParts era yoe doy =
          ⟨yoe + era * 400 + 1, mp - 9, doy - (153 * mp + 2) / 5 + 1⟩)) := by
  refine ⟨(5 * doy + 2) / 153, by omega, by omega, by omega, ?_⟩
  by_cases early : (5 * doy + 2) / 153 < 10
  · left
    have notEnd : ¬(5 * doy + 2) / 153 + 3 ≤ 2 := by omega
    refine ⟨early, ?_⟩
    simp only [ofParts, early, notEnd, if_true, if_false, Int.add_zero]
  · right
    have atEnd : (5 * doy + 2) / 153 - 9 ≤ 2 := by omega
    refine ⟨by omega, ?_⟩
    simp only [ofParts, early, atEnd, if_true, if_false]

theorem toDay_ofParts (era : Int) {yoe doy : Nat} (inEra : yoe < 400) (inYear : doy ≤ 365) :
    toDay (ofParts era yoe doy) = era * 146097 + (daysBefore yoe + doy : Nat) - epochOffset := by
  have eraEq : ((yoe : Int) + era * 400) / 400 = era := by omega
  have yearEq : (((yoe : Int) + era * 400) % 400).toNat = yoe := by omega
  have daysEq : yoe * 365 + yoe / 4 - yoe / 100 = daysBefore yoe := by
    rw [daysBefore, Nat.mul_comm]
  obtain ⟨mp, mp_lt, month_le, -, ⟨early, dateEq⟩ | ⟨late, dateEq⟩⟩ :=
    ofParts_cases era yoe inYear
  · have later : ¬mp + 3 ≤ 2 := by omega
    have month : 2 < mp + 3 := by omega
    simp only [dateEq, toDay, later, month, if_true, if_false, eraEq, yearEq, dayOfEra, daysEq]
    omega
  · have atEnd : mp - 9 ≤ 2 := by omega
    have month : ¬2 < mp - 9 := by omega
    have monthEq : mp - 9 + 9 = mp := by omega
    simp only [dateEq, toDay, atEnd, month, monthEq, if_true, if_false, Int.add_sub_cancel, eraEq,
      yearEq, dayOfEra, daysEq]
    omega

theorem isLeapYear_iff {year : Int} :
    isLeapYear year = true ↔ year % 4 = 0 ∧ (year % 100 ≠ 0 ∨ year % 400 = 0) := by
  simp [isLeapYear]

theorem isValid_ofParts (era : Int) {yoe doy : Nat} (inYear : doy ≤ 365)
    (longest : doy = 365 → yoe % 4 = 3 ∧ (yoe % 100 ≠ 99 ∨ yoe = 399)) :
    isValid (ofParts era yoe doy) = true := by
  obtain ⟨mp, mp_lt, month_le, lt_month, ⟨early, dateEq⟩ | ⟨late, dateEq⟩⟩ :=
    ofParts_cases era yoe inYear
  · rw [dateEq]
    simp only [isValid, daysInMonth, Bool.and_eq_true, decide_eq_true_eq]
    refine ⟨⟨⟨by omega, by omega⟩, by omega⟩, ?_⟩
    rw [if_neg (by omega)]
    split <;> omega
  · rw [dateEq]
    simp only [isValid, daysInMonth, Bool.and_eq_true, decide_eq_true_eq]
    refine ⟨⟨⟨by omega, by omega⟩, by omega⟩, ?_⟩
    by_cases february : mp - 9 = 2
    · rw [if_pos february]
      by_cases leap : isLeapYear (yoe + era * 400 + 1) = true
      · rw [if_pos leap]
        omega
      · have notLeap := mt isLeapYear_iff.mpr leap
        rw [if_neg leap]
        omega
    · rw [if_neg february, if_neg (by omega)]
      omega

/-! ## Years -/

/-- The days of the years before one, each counted from 1 March. -/
def daysOfYears (year : Int) : Int :=
  365 * year + year / 4 - year / 100 + year / 400

/-- A year has at least 365 days. -/
theorem daysOfYears_le {a b : Int} (h : a ≤ b) :
    daysOfYears a + 365 * (b - a) ≤ daysOfYears b := by
  have quarters : a / 4 ≤ b / 4 := by omega
  have aCenturies : a / 100 = a / 4 / 25 := by omega
  have bCenturies : b / 100 = b / 4 / 25 := by omega
  have centuries : a / 4 - a / 4 / 25 ≤ b / 4 - b / 4 / 25 := by
    generalize a / 4 = u at *
    generalize b / 4 = v at *
    clear aCenturies bCenturies h
    omega
  simp only [daysOfYears, aCenturies, bCenturies]
  omega

theorem daysOfYears_era (era : Int) {yoe : Nat} (inEra : yoe < 400) :
    daysOfYears (yoe + era * 400) = era * 146097 + (daysBefore yoe : Nat) := by
  simp only [daysOfYears, daysBefore]
  omega

theorem toDay_first (year : Int) :
    toDay ⟨year, 1, 1⟩ = daysOfYears (year - 1) + 306 - epochOffset := by
  have inEra : ((year - 1) % 400).toNat < 400 := by omega
  have split : (((year - 1) % 400).toNat : Int) + (year - 1) / 400 * 400 = year - 1 := by omega
  have days := daysOfYears_era ((year - 1) / 400) inEra
  have same : ∀ n : Nat, n * 365 + n / 4 - n / 100 = daysBefore n := by
    intro n
    rw [daysBefore, Nat.mul_comm]
  rw [split] at days
  have early : 1 ≤ 2 := by decide
  have notLater : ¬2 < 1 := by decide
  simp only [toDay, early, notLater, if_true, if_false, dayOfEra, same, days]
  omega

/-! ## Main statements -/

/-- A day is the one of its date. -/
@[simp]
theorem toDay_ofDay (day : Int) : toDay (ofDay day) = day := by
  rcases exists_parts day with ⟨era, yoe, doy, dateEq, dayEq, inEra, inYear, -⟩
  rw [dateEq, toDay_ofParts era inEra inYear]
  omega

/-- The date of a day is one of the calendar. -/
@[simp]
theorem isValid_ofDay (day : Int) : isValid (ofDay day) = true := by
  rcases exists_parts day with ⟨era, yoe, doy, dateEq, -, -, inYear, longest⟩
  rw [dateEq]
  exact isValid_ofParts era inYear longest

/-- A day is one of a year or a later one exactly when it is not before the first of the year. -/
theorem le_year_iff {year day : Int} : year ≤ (ofDay day).year ↔ toDay ⟨year, 1, 1⟩ ≤ day := by
  obtain ⟨era, yoe, doy, dateEq, dayEq, inEra, inYear, -⟩ := exists_parts day
  rw [toDay_first]
  have days := daysOfYears_era era inEra
  generalize firstEq : (yoe : Int) + era * 400 = first at *
  obtain ⟨mp, mp_lt, month_le, lt_month, ⟨early, partsEq⟩ | ⟨late, partsEq⟩⟩ :=
    ofParts_cases era yoe inYear
  · have notYet : doy < 306 := by omega
    rw [dateEq, partsEq]
    simp only [firstEq]
    constructor
    · intro year_le
      have before := daysOfYears_le (a := year - 1) (b := first - 1) (by omega)
      have last := daysOfYears_le (a := first - 1) (b := first) (by omega)
      omega
    · intro first_le
      by_cases later : first < year
      · have after := daysOfYears_le (a := first) (b := year - 1) (by omega)
        omega
      · omega
  · have atEnd : 306 ≤ doy := by omega
    rw [dateEq, partsEq]
    simp only [firstEq]
    constructor
    · intro year_le
      have before := daysOfYears_le (a := year - 1) (b := first) (by omega)
      omega
    · intro first_le
      by_cases later : first + 1 < year
      · have after := daysOfYears_le (a := first + 1) (b := year - 1) (by omega)
        have next := daysOfYears_le (a := first) (b := first + 1) (by omega)
        omega
      · omega
end DeviceAdmission.Date
