/-!
# The proleptic Gregorian calendar

Dates as year, month and day, and their count in days from 1970-01-01.  Both
directions are linear arithmetic with divisions by constants: the years before a
date are counted from the leap-year rule, the months from a table.

## Main definitions

* `Date.dayNumber` — the days from 1970-01-01 to a date.
* `Date.ofDayNumber` — the date a count of days leads to.
-/

namespace TabularQuery

/-- A calendar date.  Months and days count from one. -/
structure Date where
  year : Int
  month : Nat
  day : Nat
  deriving DecidableEq, Repr

namespace Date

/-- Every fourth year is a leap year, except every hundredth, except every four
hundredth. -/
def isLeapYear (y : Int) : Bool :=
  y % 4 == 0 && (y % 100 != 0 || y % 400 == 0)

/-- The number of days of a month; there are none in a month that does not exist. -/
def monthLength (leap : Bool) : Nat → Nat
  | 1 => 31
  | 2 => if leap then 29 else 28
  | 3 => 31
  | 4 => 30
  | 5 => 31
  | 6 => 30
  | 7 => 31
  | 8 => 31
  | 9 => 30
  | 10 => 31
  | 11 => 30
  | 12 => 31
  | _ => 0

/-- The number of days of a year before a month. -/
def monthStart (leap : Bool) (month : Nat) : Nat :=
  (List.range (month - 1)).foldr (fun m days => monthLength leap (m + 1) + days) 0

/-- The number of days from 0001-01-01 to the first of January of a year. -/
def yearStart (y : Int) : Int :=
  365 * (y - 1) + (y - 1) / 4 - (y - 1) / 100 + (y - 1) / 400

/-- The day number of 1970-01-01, counted from 0001-01-01. -/
def epoch : Int := 719162

/-- Whether the date is one of the calendar. -/
def isValid (d : Date) : Bool :=
  1 ≤ d.day && d.day ≤ monthLength (isLeapYear d.year) d.month

/-- The number of days from 1970-01-01 to a date. -/
def dayNumber (d : Date) : Int :=
  yearStart d.year + monthStart (isLeapYear d.year) d.month + (d.day - 1 : Nat) - epoch

/-- The year in which a day lies, counted from 0001-01-01.  A year has 146097/400 days
on average, and the estimate from that is at most one year off. -/
def yearOf (n : Int) : Int :=
  let y := n * 400 / 146097 + 1
  if n < yearStart y then y - 1 else if yearStart (y + 1) ≤ n then y + 1 else y

/-- The month in which a day of a year lies, and the day of the month. -/
def monthOf (leap : Bool) (n : Nat) : Nat × Nat :=
  let month := ((List.range 12).map (· + 1)).countP fun m => monthStart leap m ≤ n
  (month, n - monthStart leap month + 1)

/-- The date that lies a number of days after 1970-01-01. -/
def ofDayNumber (n : Int) : Date :=
  let n := n + epoch
  let y := yearOf n
  let (m, d) := monthOf (isLeapYear y) (n - yearStart y).toNat
  ⟨y, m, d⟩

example : dayNumber ⟨1970, 1, 1⟩ = 0 := by decide
example : dayNumber ⟨2024, 2, 29⟩ = 19782 := by decide
example : ofDayNumber 19782 = ⟨2024, 2, 29⟩ := by decide
example : ofDayNumber (-719163) = ⟨0, 12, 31⟩ := by decide

end Date

end TabularQuery
