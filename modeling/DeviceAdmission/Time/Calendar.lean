/-!
# Calendar dates

Days counted from 1 January 1970 and dates of the Gregorian calendar, extended without end in both
directions. Both conversions count in eras of 400 years of 146097 days that begin on 1 March, so
that a leap day ends its year.
-/

namespace DeviceAdmission

structure Date where
  year : Int
  month : Nat
  day : Nat
  deriving DecidableEq, Repr

namespace Date

/-- The days before 1 January 1970 since the era of the year 0 began on 1 March. -/
def epochOffset : Int := 719468

/-- The day of a 400-year era, from its year and the day of that year, both counted from 1 March. -/
def dayOfEra (year dayOfYear : Nat) : Nat :=
  year * 365 + year / 4 - year / 100 + dayOfYear

/-- The date of a day counted from 1 January 1970. -/
def ofDay (day : Int) : Date :=
  let shifted := day + epochOffset
  let era := shifted / 146097
  let doe := (shifted % 146097).toNat
  let yoe := (doe - doe / 1460 + doe / 36524 - doe / 146096) / 365
  let doy := doe - (365 * yoe + yoe / 4 - yoe / 100)
  let mp := (5 * doy + 2) / 153
  let month := if mp < 10 then mp + 3 else mp - 9
  { year := yoe + era * 400 + (if month ≤ 2 then 1 else 0)
    month := month
    day := doy - (153 * mp + 2) / 5 + 1 }

/-- The day of a date, counted from 1 January 1970. -/
def toDay (d : Date) : Int :=
  let year := if d.month ≤ 2 then d.year - 1 else d.year
  let era := year / 400
  let yoe := (year % 400).toNat
  let mp := if 2 < d.month then d.month - 3 else d.month + 9
  era * 146097 + dayOfEra yoe ((153 * mp + 2) / 5 + d.day - 1) - epochOffset

def isLeapYear (year : Int) : Bool :=
  year % 4 = 0 && (year % 100 ≠ 0 || year % 400 = 0)

/-- The number of days of a month. -/
def daysInMonth (year : Int) (month : Nat) : Nat :=
  if month = 2 then if isLeapYear year then 29 else 28
  else if month = 4 ∨ month = 6 ∨ month = 9 ∨ month = 11 then 30
  else 31

/-- Whether the calendar has the date. -/
def isValid (d : Date) : Bool :=
  1 ≤ d.month && d.month ≤ 12 && 1 ≤ d.day && d.day ≤ daysInMonth d.year d.month

example : ofDay 0 = ⟨1970, 1, 1⟩ ∧ toDay ⟨1970, 1, 1⟩ = 0 := by decide

example : ofDay 19782 = ⟨2024, 2, 29⟩ ∧ toDay ⟨2024, 2, 29⟩ = 19782 := by decide

end Date

end DeviceAdmission
