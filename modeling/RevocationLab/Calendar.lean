/-
**Seconds and calendar dates.**

Dates run from the first second of 1970 to the last second of 9999, in the Gregorian calendar and
without leap seconds.  A date is found from its seconds by walking over the years and then over the
months, and the seconds from a date by adding up the years and months before it.

Main definitions:

* `Calendar.isLeap`, `Calendar.yearDays`, `Calendar.monthDays` — the lengths of years and months;
* `Calendar.Date`, `Calendar.Date.isValid` — a date with its time of day;
* `Calendar.Date.seconds`, `Calendar.Date.ofSeconds` — the two directions.
-/

set_option autoImplicit false

namespace RevocationLab

namespace Calendar

/-! ### Lengths -/

/-- The first year of the calendar. -/
def firstYear : Nat := 1970

/-- The last year of the calendar. -/
def lastYear : Nat := 9999

/-- The last second of the calendar. -/
def lastSecond : Nat := 253402300799

/-- Whether a year has a leap day. -/
def isLeap (y : Nat) : Bool :=
  y % 4 == 0 && (y % 100 != 0 || y % 400 == 0)

/-- The number of days of a year. -/
def yearDays (y : Nat) : Nat := if isLeap y then 366 else 365

/-- The number of days of each month of a year. -/
def monthDays (y : Nat) : List Nat :=
  [31, if isLeap y then 29 else 28, 31, 30, 31, 30, 31, 31, 30, 31, 30, 31]

/-! ### Dates -/

/-- A date with its time of day. -/
structure Date where
  year : Nat
  month : Nat
  day : Nat
  hour : Nat
  minute : Nat
  second : Nat
  deriving DecidableEq, Repr

/-- Whether every part of the date is in its range. -/
def Date.isValid (d : Date) : Bool :=
  firstYear ≤ d.year && d.year ≤ lastYear && 1 ≤ d.month && d.month ≤ 12 && 1 ≤ d.day
    && d.day ≤ (monthDays d.year).getD (d.month - 1) 0
    && d.hour < 24 && d.minute < 60 && d.second < 60

/-! ### From dates to seconds -/

/-- The days of the `n` years from the first one. -/
def daysOfYears : Nat → Nat
  | 0 => 0
  | n + 1 => daysOfYears n + yearDays (firstYear + n)

/-- The days of some months together. -/
def daysOfMonths : List Nat → Nat
  | [] => 0
  | n :: r => n + daysOfMonths r

/-- The days from the start of the calendar to the start of a date's day. -/
def Date.days (d : Date) : Nat :=
  daysOfYears (d.year - firstYear) + daysOfMonths ((monthDays d.year).take (d.month - 1)) + (d.day - 1)

/-- The seconds from the start of the calendar to a date. -/
def Date.seconds (d : Date) : Nat :=
  d.days * 86400 + d.hour * 3600 + d.minute * 60 + d.second

/-! ### From seconds to dates -/

/-- The year that is `days` days after the start of year `y`, and the days left in it; at most
`fuel` years on. -/
def splitYear : Nat → Nat → Nat → Nat × Nat
  | 0, y, days => (y, days)
  | fuel + 1, y, days =>
      if days < yearDays y then (y, days) else splitYear fuel (y + 1) (days - yearDays y)

/-- The month with number `m` or later that is `days` days after the start of month `m`, and the days
left in it; the list holds the lengths of the months from `m` on. -/
def splitMonth : List Nat → Nat → Nat → Nat × Nat
  | [], m, days => (m, days)
  | n :: r, m, days => if days < n then (m, days) else splitMonth r (m + 1) (days - n)

/-- The date that is `n` seconds after the start of the calendar. -/
def Date.ofSeconds (n : Nat) : Date :=
  let (year, days) := splitYear (lastYear - firstYear) firstYear (n / 86400)
  let (month, day) := splitMonth (monthDays year) 1 days
  let rest := n % 86400
  ⟨year, month, day + 1, rest / 3600, rest / 60 % 60, rest % 60⟩

end Calendar

end RevocationLab
