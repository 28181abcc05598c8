import TabularQuery.Text.Blank
import TabularQuery.Time.Calendar

/-!
# Instants

An instant of universal time, to the nanosecond, and the text the service stores for
it.  A leap second is the second before it prolonged: its nanoseconds run from
`1000000000` on.
-/

namespace TabularQuery

/-- An instant: whole seconds since 1970-01-01T00:00:00Z and the nanoseconds after
them. -/
structure Instant where
  seconds : Int
  nanos : Nat
  deriving DecidableEq, Repr

namespace Instant

/-- The number of seconds of a day. -/
def daySeconds : Int := 86400

/-- The least and the greatest year of an instant. -/
def leastYear : Int := -262143

/-- The greatest year of an instant. -/
def greatestYear : Int := 262142

/-- The date of the instant. -/
def date (t : Instant) : Date :=
  Date.ofDayNumber (t.seconds / daySeconds)

/-- The seconds since midnight. -/
def secondOfDay (t : Instant) : Nat :=
  (t.seconds % daySeconds).toNat

/-- A year in four digits; with a sign in front when it is not between 0 and 9999. -/
def yearText (y : Int) : List Char :=
  if 0 ≤ y ∧ y ≤ 9999 then Text.padded 4 y.toNat
  else (if y < 0 then '-' else '+') :: Text.padded 4 y.natAbs

/-- The stored form, `YYYY-MM-DDTHH:MM:SS.mmmZ`: universal time, cut down to whole
milliseconds, the second 60 within a leap second. -/
def text (t : Instant) : List Char :=
  let d := t.date
  let s := t.secondOfDay
  let (second, nanos) :=
    if 1000000000 ≤ t.nanos then (s % 60 + 1, t.nanos - 1000000000) else (s % 60, t.nanos)
  yearText d.year ++ '-' :: Text.padded 2 d.month ++ '-' :: Text.padded 2 d.day ++
    'T' :: Text.padded 2 (s / 3600) ++ ':' :: Text.padded 2 (s / 60 % 60) ++
    ':' :: Text.padded 2 second ++ '.' :: Text.padded 3 (nanos / 1000000) ++ ['Z']

/-- The instant cut down to whole milliseconds. -/
def toMillis (t : Instant) : Instant :=
  ⟨t.seconds, t.nanos / 1000000 * 1000000⟩

/-- The instant with a clock reading on a date, `offset` seconds ahead of universal time.
The second 60 is a leap second.  There is none when the date lies outside the years of
an instant, before or after the offset is taken off. -/
def ofClock (d : Date) (hour minute second nanos : Nat) (offset : Int) : Option Instant :=
  let inRange (y : Int) : Bool := leastYear ≤ y && y ≤ greatestYear
  if !inRange d.year || !d.isValid then none
  else
    let (second, nanos) := if second = 60 then (59, nanos + 1000000000) else (second, nanos)
    let clock : Nat := hour * 3600 + minute * 60 + second
    let t : Instant := ⟨d.dayNumber * daySeconds + clock - offset, nanos⟩
    if inRange t.date.year then some t else none

example : (Instant.mk 1709285400 0).text = "2024-03-01T09:30:00.000Z".toList := by decide
example : (Instant.mk (-1) 1999999999).text = "1969-12-31T23:59:60.999Z".toList := by decide

end Instant

end TabularQuery
