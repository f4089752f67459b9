/-!
# The Gregorian calendar

Days are counted from 1 January 1970, before which the count is negative. The calendar is extended
without end in both directions; the year 0 precedes the year 1.

A date is found from its day by counting from 1 March of the year 0, so that a leap day is the last
day of its year: 400 years have 146097 days, and within them the year, then the month, then the day
of the month are quotients and remainders. The count of a date adds the days of whole years, of the
months before it, and of the month itself.

## Main definitions

* `Date`, `Date.ofDay`: the date of a day.
* `Date.toDay`: the day of a date.
* `isLeapYear`, `monthLength`: the lengths of years and months.
-/

namespace HttpServer

/-- The year has a 29 February. -/
def isLeapYear (year : Int) : Bool :=
  year % 4 == 0 && (year % 100 != 0 || year % 400 == 0)

/-- The number of days of a month, counted from one. -/
def monthLength (year : Int) (month : Nat) : Nat :=
  if month = 2 then if isLeapYear year then 29 else 28
  else if month = 4 ∨ month = 6 ∨ month = 9 ∨ month = 11 then 30
  else 31

/-- A date of the Gregorian calendar. -/
structure Date where
  /-- The year. -/
  year : Int
  /-- The month, from 1 to 12. -/
  month : Nat
  /-- The day of the month, from 1. -/
  day : Nat
  deriving DecidableEq, Repr

namespace Date

/-- The number of days of 400 years. -/
def cycleDays : Int := 146097

/-- The day on which 1 March of the year 0 falls. -/
def marchOfYearZero : Int := -719468

/-- The year of a day within 400 years, years starting in March. -/
def yearOfCycle (day : Nat) : Nat :=
  (day - day / 1460 + day / 36524 - day / 146096) / 365

/-- The month of a day within a year that starts in March, counted from zero. -/
def monthOfYear (day : Nat) : Nat :=
  (5 * day + 2) / 153

/-- The days before a month of a year that starts in March. -/
def daysBeforeMonth (month : Nat) : Nat :=
  (153 * month + 2) / 5

/-- The days before a year of 400 years, years starting in March. -/
def daysBeforeYear (year : Nat) : Nat :=
  365 * year + year / 4 - year / 100

/-- The date of a day. -/
def ofDay (n : Int) : Date :=
  let count := n - marchOfYearZero
  let cycle := count / cycleDays
  let day := (count % cycleDays).toNat
  let year := yearOfCycle day
  let dayOfYear := day - daysBeforeYear year
  let month := monthOfYear dayOfYear
  let dayOfMonth := dayOfYear - daysBeforeMonth month + 1
  if month < 10 then ⟨cycle * 400 + year, month + 3, dayOfMonth⟩
  else ⟨cycle * 400 + year + 1, month - 9, dayOfMonth⟩

/-- The days of the months before this one in its year. -/
def daysBefore (year : Int) : Nat → Nat
  | 0 => 0
  | 1 => 0
  | month + 2 => daysBefore year (month + 1) + monthLength year (month + 1)

/-- The number of days from the start of the year 1 to the start of this year. -/
def daysBeforeStart (year : Int) : Int :=
  let y := year - 1
  365 * y + y / 4 - y / 100 + y / 400

/-- The day on which a date falls. -/
def toDay (d : Date) : Int :=
  daysBeforeStart d.year + daysBefore d.year d.month + d.day - 719163

/-- The day of the week of a day, counted from Monday. -/
def weekday (n : Int) : Nat :=
  ((n + 3) % 7).toNat

/-- The month and the day exist. -/
def IsValid (d : Date) : Prop :=
  1 ≤ d.month ∧ d.month ≤ 12 ∧ 1 ≤ d.day ∧ d.day ≤ monthLength d.year d.month

instance (d : Date) : Decidable d.IsValid := by
  unfold IsValid
  infer_instance

end Date

end HttpServer
