import TabularQuery.Time.Instant

/-!
# Reading instants

The forms in which the service writes a time stamp, a time stamp without a zone and
a date, and a tolerant form of the Internet profile of ISO 8601 for typed columns.
Every form is a sequence of small readers; each takes what it reads from the front of
the text and names the reason when it cannot.

## Main definitions

* `Instant.read?` — the instant of a stored temporal text.
* `Instant.readTolerant` — the instant of a typed column, or why there is none.
-/

namespace TabularQuery

/-- Why a text is not a time. -/
inductive TimeFault where
  | outOfRange
  | impossible
  | invalid
  | tooShort
  | tooLong
  deriving DecidableEq, Repr

/-- The wording of a fault. -/
def TimeFault.message : TimeFault → String
  | outOfRange => "input is out of range"
  | impossible => "no possible date and time matching input"
  | invalid => "input contains invalid characters"
  | tooShort => "premature end of input"
  | tooLong => "trailing input"

namespace Time

/-- What a reader takes from the front of a text, and what it leaves. -/
abbrev Read (α : Type) := List Char → Except TimeFault (α × List Char)

/-- A run of decimal digits, at least `least` and at most `most` of them. -/
def number (least most : Nat) : Read Nat := fun s =>
  let ds := (s.take most).takeWhile Text.isDigit
  if least ≤ ds.length then .ok (Text.readDigits ds, s.drop ds.length)
  else if s.length < least then .error .tooShort
  else .error .invalid

/-- A number that must lie between two bounds. -/
def bounded (least most low high : Nat) : Read Nat := fun s => do
  let (n, rest) ← number least most s
  if low ≤ n ∧ n ≤ high then .ok (n, rest) else .error .outOfRange

/-- One given character. -/
def literal (c : Char) : Read Unit
  | [] => .error .tooShort
  | d :: rest => if c == d then .ok ((), rest) else .error .invalid

/-- The letter or the blank between a date and a time. -/
def dateTimeMark : Read Unit
  | [] => .error .tooShort
  | d :: rest =>
    if d == 'T' || d == 't' || d == ' ' then .ok ((), rest) else .error .invalid

/-- The digits after the point of a second, nine of which count. -/
def fraction : Read Nat := fun s => do
  let (n, rest) ← number 1 9 s
  let used := s.length - rest.length
  .ok (n * Nat.pow 10 (9 - used), rest.dropWhile Text.isDigit)

/-- A point and a fraction, or nothing. -/
def optionalFraction : Read Nat
  | '.' :: rest => fraction rest
  | s => .ok (0, s)

/-- A year of 32 bits: digits in any number after a sign, at most four without one. -/
def signedYear : Read Int := fun s =>
  match Text.trimLeft s with
  | '-' :: rest => do
    let (n, rest) ← number 1 rest.length.succ rest
    if n ≤ 2147483648 then .ok (-(n : Int), rest) else .error .outOfRange
  | '+' :: rest => do
    let (n, rest) ← number 1 rest.length.succ rest
    if n ≤ 2147483647 then .ok ((n : Int), rest) else .error .outOfRange
  | s => do
    let (n, rest) ← number 1 4 s
    .ok ((n : Int), rest)

/-- A number of one or two digits within bounds, blanks in front of it skipped. -/
def loose (low high : Nat) : Read Nat := fun s =>
  bounded 1 2 low high (Text.trimLeft s)

/-- How the hours and the minutes of an offset are set apart. -/
inductive OffsetMark where
  /-- Exactly one colon. -/
  | colon
  /-- Any colons and blanks, or nothing. -/
  | loose

/-- Takes the mark between the hours and the minutes of an offset. -/
def OffsetMark.skip : OffsetMark → List Char → Except TimeFault (List Char)
  | colon, s => (literal ':' s).map (·.2)
  | loose, s => .ok (s.dropWhile fun c => c == ':' || Text.isBlank c)

/-- Two characters as a pair, or a sign that the text has fewer than two bytes. -/
def pair (s : List Char) : Except TimeFault (Char × Char) :=
  if Text.byteLength s < 2 then .error .tooShort
  else
    match s with
    | a :: b :: _ => .ok (a, b)
    | _ => .error .invalid

/-- The minutes of an offset. -/
def offsetMinutes (optional : Bool) : Read Nat := fun s =>
  match pair s with
  | .ok (a, b) =>
    if Text.isDigit a && Text.isDigit b then
      if a ≤ '5' then .ok (Text.digitValue a * 10 + Text.digitValue b, s.drop 2)
      else .error .outOfRange
    else .error .invalid
  | .error f => if optional && s.isEmpty then .ok (0, s) else .error f

/-- The seconds by which a zone is ahead of universal time: `Z`, or a sign, hours and
minutes.  The minutes may be missing at the end of the text if they are optional. -/
def offset (mark : OffsetMark) (optionalMinutes : Bool) : Read Int
  | [] => .error .tooShort
  | c :: rest =>
    if c == 'Z' || c == 'z' then .ok (0, rest)
    else if c == '+' || c == '-' || c == '\u2212' then do
      let (a, b) ← pair rest
      if Text.isDigit a && Text.isDigit b then
        let hours := Text.digitValue a * 10 + Text.digitValue b
        let rest ← mark.skip (rest.drop 2)
        let (minutes, rest) ← offsetMinutes optionalMinutes rest
        let seconds : Int := (hours * 3600 + minutes * 60 : Nat)
        .ok (if c == '+' then seconds else -seconds, rest)
      else .error .invalid
    else .error .invalid

/-- A date and a clock reading, before they are checked against the calendar. -/
structure Parts where
  year : Int
  month : Nat
  day : Nat
  hour : Nat := 0
  minute : Nat := 0
  second : Nat := 0
  nanos : Nat := 0
  offset : Int := 0

/-- The instant the parts denote. -/
def Parts.toInstant (p : Parts) : Except TimeFault Instant :=
  let d : Date := ⟨p.year, p.month, p.day⟩
  if p.year < Instant.leastYear || Instant.greatestYear < p.year || !d.isValid then
    .error .outOfRange
  else if p.offset ≤ -Instant.daySeconds || Instant.daySeconds ≤ p.offset then
    .error .outOfRange
  else
    match Instant.ofClock d p.hour p.minute p.second p.nanos p.offset with
    | some t => .ok t
    | none => .error .impossible

/-- Nothing may be left of the text. -/
def finish (p : Parts) : List Char → Except TimeFault Instant
  | [] => p.toInstant
  | _ => .error .tooLong

/-- The strict profile: every field at its full width and one colon in the offset. -/
def strict (s : List Char) : Except TimeFault Instant := do
  let (year, s) ← number 4 4 s
  let (_, s) ← literal '-' s
  let (month, s) ← bounded 2 2 1 12 s
  let (_, s) ← literal '-' s
  let (day, s) ← bounded 2 2 1 31 s
  let (_, s) ← dateTimeMark s
  let (hour, s) ← bounded 2 2 0 23 s
  let (_, s) ← literal ':' s
  let (minute, s) ← bounded 2 2 0 59 s
  let (_, s) ← literal ':' s
  let (second, s) ← bounded 2 2 0 60 s
  let (nanos, s) ← optionalFraction s
  let (offset, s) ← offset .colon false s
  finish { year, month, day, hour, minute, second, nanos, offset } s

/-- A date with loose fields. -/
def looseDate : Read Parts := fun s => do
  let (year, s) ← signedYear s
  let (_, s) ← literal '-' s
  let (month, s) ← loose 1 12 s
  let (_, s) ← literal '-' s
  let (day, s) ← loose 1 31 s
  .ok ({ year, month, day }, s)

/-- A clock reading with loose fields, put into the parts of a date. -/
def looseClock (p : Parts) : Read Parts := fun s => do
  let (hour, s) ← loose 0 23 s
  let (_, s) ← literal ':' s
  let (minute, s) ← loose 0 59 s
  let (_, s) ← literal ':' s
  let (second, s) ← loose 0 60 s
  let (nanos, s) ← optionalFraction s
  .ok ({ p with hour, minute, second, nanos }, s)

/-- Date, blanks, clock reading and an offset whose minutes may be missing. -/
def spaced (s : List Char) : Except TimeFault Instant := do
  let (p, s) ← looseDate s
  let (p, s) ← looseClock p (Text.trimLeft s)
  let (offset, s) ← offset .loose true (Text.trimLeft s)
  finish { p with offset } s

/-- Date, the letter `T` and a clock reading, in universal time. -/
def zoneless (s : List Char) : Except TimeFault Instant := do
  let (p, s) ← looseDate s
  let (_, s) ← literal 'T' s
  let (p, s) ← looseClock p s
  finish p s

/-- Date, blanks and a clock reading, in universal time. -/
def zonelessSpaced (s : List Char) : Except TimeFault Instant := do
  let (p, s) ← looseDate s
  let (p, s) ← looseClock p (Text.trimLeft s)
  finish p s

/-- A date alone: its midnight in universal time. -/
def dateOnly (s : List Char) : Except TimeFault Instant := do
  let (p, s) ← looseDate s
  finish p s

/-- The offset of the tolerant form, which may be the word `UTC`. -/
def namedOffset : Read Int := fun s =>
  match s with
  | a :: b :: c :: rest =>
    if [a, b, c].map Char.toUpper == ['U', 'T', 'C'] then .ok (0, rest)
    else offset .loose false s
  | _ => offset .loose false s

end Time

namespace Instant

/-- The instant of a stored temporal text, blanks at its ends put aside.  A text without a
zone is in universal time. -/
def read? (s : List Char) : Option Instant :=
  let s := Text.trim s
  [Time.strict, Time.spaced, Time.zoneless, Time.zonelessSpaced, Time.dateOnly].findSome?
    fun form => (form s).toOption

/-- The instant of a typed column.  Blanks may stand around the fields, and the offset is
required. -/
def readTolerant (s : List Char) : Except TimeFault Instant := do
  let (year, s) ← Time.signedYear s
  let (_, s) ← Time.literal '-' (Text.trimLeft s)
  let (month, s) ← Time.loose 1 12 s
  let (_, s) ← Time.literal '-' (Text.trimLeft s)
  let (day, s) ← Time.loose 1 31 s
  let (_, s) ← Time.dateTimeMark s
  let (hour, s) ← Time.loose 0 23 s
  let (_, s) ← Time.literal ':' (Text.trimLeft s)
  let (minute, s) ← Time.loose 0 59 s
  let (_, s) ← Time.literal ':' (Text.trimLeft s)
  let (second, s) ← Time.loose 0 60 s
  let (nanos, s) ← Time.optionalFraction s
  let (offset, s) ← Time.namedOffset (Text.trimLeft s)
  if Text.allBlank s then
    Time.Parts.toInstant { year, month, day, hour, minute, second, nanos, offset }
  else .error .tooLong

example : read? "2024-05-01 12:00:00+02".toList = some ⟨1714557600, 0⟩ := by decide
example : read? "2024-05-01".toList = some ⟨1714521600, 0⟩ := by decide
example : read? "2024-02-30".toList = none := by decide

end Instant

end TabularQuery
