/-!
# Proleptic Gregorian calendar

Days are counted from 1970-01-01. `Date.dayNumber` counts the days before a date, and
`Date.ofDayNumber` finds the date of a count: a guess from the mean length of a year is off by
at most one year, and the start of the years beside it decides. Years may be zero or negative.
-/

namespace LogIntake.Time

/-- Whether a year has a 29 February. -/
def isLeapYear (y : Int) : Bool :=
  y % 4 = 0 ∧ (y % 100 ≠ 0 ∨ y % 400 = 0)

/-- The number of days from 0001-01-01 to the first day of a year. -/
def yearStart (y : Int) : Int :=
  365 * (y - 1) + (y - 1) / 4 - (y - 1) / 100 + (y - 1) / 400

/-- The number of days in a month of a leap year or of another year; none for months that do
not exist. -/
def daysInMonth (leap : Bool) : Nat → Nat
  | 1 | 3 | 5 | 7 | 8 | 10 | 12 => 31
  | 4 | 6 | 9 | 11 => 30
  | 2 => if leap then 29 else 28
  | _ => 0

/-- The number of days in the months of a year before a month. -/
def daysBeforeMonth (leap : Bool) (month : Nat) : Nat :=
  ((List.range month).map (daysInMonth leap)).foldl (· + ·) 0

/-- A day of the calendar: months and days count from one. -/
structure Date where
  year : Int
  month : Nat
  day : Nat
  deriving DecidableEq, Repr

namespace Date

/-- The number of days from 0001-01-01 to 1970-01-01. -/
def epochStart : Int := 719162

/-- Whether the month exists and has the day. -/
def exists? (d : Date) : Bool :=
  1 ≤ d.day && d.day ≤ daysInMonth (isLeapYear d.year) d.month

/-- The number of days from 1970-01-01 to a date. -/
def dayNumber (d : Date) : Int :=
  yearStart d.year + daysBeforeMonth (isLeapYear d.year) d.month + (d.day - 1) - epochStart

/-- The year that a day lies in, counted from 0001-01-01. -/
def yearOf (n : Int) : Int :=
  let guess := 400 * n / 146097 + 1
  if n < yearStart guess then guess - 1
  else if yearStart (guess + 1) ≤ n then guess + 1
  else guess

/-- Month and day of a day of a year, both counted from zero: skips whole months from `month`
on, looking at `fuel` of them. -/
def monthAndDay (leap : Bool) (month dayOfYear : Nat) : Nat → Nat × Nat
  | 0 => (month, dayOfYear)
  | fuel + 1 =>
    let n := daysInMonth leap month
    if dayOfYear < n then (month, dayOfYear)
    else monthAndDay leap (month + 1) (dayOfYear - n) fuel

/-- The date that is a number of days after 1970-01-01. -/
def ofDayNumber (n : Int) : Date :=
  let n := n + epochStart
  let year := yearOf n
  let (month, day) := monthAndDay (isLeapYear year) 1 (n - yearStart year).toNat 11
  ⟨year, month, day + 1⟩

end Date

end LogIntake.Time
