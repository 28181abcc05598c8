import TabularQuery.Proofs.Text.Digits
import TabularQuery.Proofs.Time.Calendar
import TabularQuery.Time.Reading

/-!
# The text of an instant is read again

An instant whose year has four digits is written in the strict form, every field at its
full width.  A second that is prolonged is written as the next one, which is 60 at the end of
a minute; within a minute, where there are no leap seconds, the text is that of an instant in
the next second.  The text is read as the instant that is written, cut down to whole
milliseconds: the fields are read one by one, and the date and the clock count up to the
seconds they came from.

## Main definitions

* `Instant.Dated` — instants that are written in the strict form.
* `Instant.Regular` — those whose second is prolonged only at the end of a minute.
* `Instant.written` — the regular instant with the same text.
* `Time.ReadsFields`, `Instant.read_text` — forms that read the strict form.
* `Instant.read?_text_of_dated` — what the text of an instant is read as among all forms.
-/

namespace TabularQuery

/-! ## Small readers -/

namespace Time

/-- A run of digits of a length that is allowed is read where it ends, or where it has the
greatest length. -/
theorem number_append {least most : Nat} {ds rest : List Char} (hd : Text.Digits ds)
    (hleast : least ≤ ds.length) (hmost : ds.length ≤ most)
    (hend : ds.length = most ∨ Text.Stops Text.isDigit rest) :
    number least most (ds ++ rest) = .ok (Text.readDigits ds, rest) := by
  have hstops : Text.Stops Text.isDigit (rest.take (most - ds.length)) := by
    rcases hend with heq | hstops
    · rw [heq, Nat.sub_self]
      exact Text.stops_nil
    · cases rest with
      | nil => simpa using Text.stops_nil
      | cons c rest =>
        cases most - ds.length with
        | zero => exact Text.stops_nil
        | succ k => exact Text.stops_cons.2 (Text.stops_cons.1 hstops)
  have hrun : ((ds ++ rest).take most).takeWhile Text.isDigit = ds := by
    rw [List.take_append, List.take_of_length_le hmost]
    exact Text.takeWhile_append hd.2 hstops
  simp only [number, hrun, if_pos hleast, List.drop_left]

/-- A number at its full width is read, also where a shorter one might be. -/
theorem number_padded {least width n : Nat} (hleast : least ≤ width) (hwidth : 0 < width)
    (h : n < 10 ^ width) (rest : List Char) :
    number least width (Text.padded width n ++ rest) = .ok (n, rest) := by
  have hlength := Text.length_padded hwidth h
  rw [number_append (Text.digits_padded width n) (hleast.trans hlength.ge) hlength.le
    (.inl hlength), Text.readDigits_padded]

/-- So is one that lies between its bounds. -/
theorem bounded_padded {least width low high n : Nat} (hleast : least ≤ width)
    (hwidth : 0 < width) (h : n < 10 ^ width) (hbounds : low ≤ n ∧ n ≤ high)
    (rest : List Char) :
    bounded least width low high (Text.padded width n ++ rest) = .ok (n, rest) := by
  rw [bounded, number_padded hleast hwidth h]
  exact if_pos hbounds

theorem literal_cons (c : Char) (rest : List Char) : literal c (c :: rest) = .ok ((), rest) := by
  rw [literal, if_pos (beq_self_eq_true c)]

theorem dateTimeMark_cons (rest : List Char) : dateTimeMark ('T' :: rest) = .ok ((), rest) :=
  rfl

theorem offset_utc (mark : OffsetMark) (optionalMinutes : Bool) (rest : List Char) :
    offset mark optionalMinutes ('Z' :: rest) = .ok (0, rest) :=
  rfl

/-- Digits end in front of the zone of universal time. -/
theorem stops_zone : Text.Stops Text.isDigit ['Z'] := by
  rw [Text.stops_cons]
  decide

/-- Milliseconds are read as nanoseconds. -/
theorem fraction_padded {n : Nat} (h : n < 10 ^ 3) {rest : List Char}
    (hrest : Text.Stops Text.isDigit rest) :
    fraction (Text.padded 3 n ++ rest) = .ok (n * 1000000, rest) := by
  have hlength : (Text.padded 3 n).length = 3 := Text.length_padded (by decide) h
  have hnumber : number 1 9 (Text.padded 3 n ++ rest) = .ok (n, rest) := by
    rw [number_append (Text.digits_padded 3 n) (by omega) (by omega) (.inr hrest),
      Text.readDigits_padded]
  have hused : (Text.padded 3 n ++ rest).length - rest.length = 3 := by
    rw [List.length_append, hlength, Nat.add_sub_cancel]
  simp only [fraction, hnumber, bind, Except.bind, hused, hrest.dropWhile_eq]

/-- The strict form with every field at its full width. -/
def strictText (year month day hour minute second millis : Nat) : List Char :=
  Text.padded 4 year ++ '-' :: (Text.padded 2 month ++ '-' :: (Text.padded 2 day ++
    'T' :: (Text.padded 2 hour ++ ':' :: (Text.padded 2 minute ++
      ':' :: (Text.padded 2 second ++ '.' :: (Text.padded 3 millis ++ ['Z']))))))

/-- A form reads the fields of the strict form, each within its bounds. -/
def ReadsFields (form : List Char → Except TimeFault Instant) : Prop :=
  ∀ {year month day hour minute second millis : Nat}, year < 10 ^ 4 →
    1 ≤ month ∧ month ≤ 12 → 1 ≤ day ∧ day ≤ 31 → hour ≤ 23 → minute ≤ 59 → second ≤ 60 →
    millis < 10 ^ 3 →
    form (strictText year month day hour minute second millis) =
      Parts.toInstant
        { year, month, day, hour, minute, second, nanos := millis * 1000000 }

/-- The strict form does so, one field after the other. -/
theorem strict_strictText : ReadsFields strict := by
  intro year month day hour minute second millis hyear hmonth hday hhour hminute hsecond hmillis
  have hfield {low high n : Nat} (h : n ≤ 60) (hbounds : low ≤ n ∧ n ≤ high) (rest : List Char) :
      bounded 2 2 low high (Text.padded 2 n ++ rest) = .ok (n, rest) :=
    bounded_padded (le_refl 2) (by decide) (by omega) hbounds rest
  simp only [strict, strictText, bind, Except.bind,
    number_padded (le_refl 4) (by decide) hyear, literal_cons,
    hfield (by omega) hmonth, hfield (by omega) hday, dateTimeMark_cons,
    hfield (by omega) ⟨Nat.zero_le _, hhour⟩, hfield (by omega) ⟨Nat.zero_le _, hminute⟩,
    hfield hsecond ⟨Nat.zero_le _, hsecond⟩,
    optionalFraction, fraction_padded hmillis stops_zone, offset_utc, finish]

end Time

/-! ## Instants -/

namespace Instant

/-- An instant in a year of four digits.  A second is prolonged by another one at most. -/
structure Dated (t : Instant) : Prop where
  year : 0 ≤ t.date.year ∧ t.date.year ≤ 9999
  nanos : t.nanos < 2000000000

/-- A dated instant whose second is prolonged only at the end of a minute. -/
structure Regular (t : Instant) : Prop extends t.Dated where
  leap : 1000000000 ≤ t.nanos → t.seconds % 60 = 59

instance (t : Instant) : Decidable t.Dated :=
  decidable_of_iff ((0 ≤ t.date.year ∧ t.date.year ≤ 9999) ∧ t.nanos < 2000000000)
    ⟨fun h => ⟨h.1, h.2⟩, fun h => ⟨h.year, h.nanos⟩⟩

instance (t : Instant) : Decidable t.Regular :=
  decidable_of_iff (t.Dated ∧ (1000000000 ≤ t.nanos → t.seconds % 60 = 59))
    ⟨fun h => ⟨h.1, h.2⟩, fun h => ⟨h.toDated, h.leap⟩⟩

/-- A prolonged second is the last one of a minute of its day, too. -/
theorem Regular.leap_secondOfDay {t : Instant} (h : t.Regular) (hlong : 1000000000 ≤ t.nanos) :
    t.secondOfDay % 60 = 59 := by
  have := h.leap hlong
  simp only [secondOfDay, daySeconds]
  omega

/-- Nothing is cut off an instant of whole milliseconds, and something off any other. -/
theorem toMillis_eq_iff {t : Instant} : t.toMillis = t ↔ t.nanos % 1000000 = 0 := by
  obtain ⟨seconds, nanos⟩ := t
  simp only [toMillis, mk.injEq, true_and]
  omega

theorem Regular.toMillis {t : Instant} (h : t.Regular) : t.toMillis.Regular where
  year := h.year
  nanos := (Nat.div_mul_le_self _ _).trans_lt h.nanos
  leap hlong := h.leap (hlong.trans (Nat.div_mul_le_self _ _))

/-- The second within its minute as it is written, 60 when it is prolonged, and the
nanoseconds after it. -/
def clockSecond (t : Instant) : Nat × Nat :=
  if 1000000000 ≤ t.nanos then (t.secondOfDay % 60 + 1, t.nanos - 1000000000)
  else (t.secondOfDay % 60, t.nanos)

theorem text_eq_strictText {t : Instant} (h : t.Dated) :
    t.text = Time.strictText t.date.year.toNat t.date.month t.date.day (t.secondOfDay / 3600)
      (t.secondOfDay / 60 % 60) t.clockSecond.1 (t.clockSecond.2 / 1000000) := by
  have hsecond : (if 1000000000 ≤ t.nanos then (t.secondOfDay % 60 + 1, t.nanos - 1000000000)
      else (t.secondOfDay % 60, t.nanos)) = t.clockSecond := rfl
  simp only [text, hsecond, yearText, if_pos h.year, Time.strictText, List.append_assoc,
    List.cons_append]

theorem secondOfDay_lt (t : Instant) : t.secondOfDay < 86400 := by
  simp only [secondOfDay, daySeconds]
  omega

theorem clockSecond_le {t : Instant} (h : t.Regular) :
    t.clockSecond.1 ≤ 60 ∧ t.clockSecond.2 / 1000000 < 10 ^ 3 := by
  have hnanos := h.nanos
  rw [clockSecond]
  split <;> dsimp only <;> omega

/-- The second 60 and the nanoseconds after it are the second 59 prolonged again. -/
theorem clockSecond_restored {t : Instant} (h : t.Regular) :
    (if t.clockSecond.1 = 60 then (59, t.clockSecond.2 / 1000000 * 1000000 + 1000000000)
      else (t.clockSecond.1, t.clockSecond.2 / 1000000 * 1000000)) =
      (t.secondOfDay % 60, t.nanos / 1000000 * 1000000) := by
  by_cases hlong : 1000000000 ≤ t.nanos
  · rw [clockSecond, if_pos hlong, h.leap_secondOfDay hlong, if_pos rfl, Prod.mk.injEq]
    exact ⟨rfl, by dsimp only; omega⟩
  · have hne : t.secondOfDay % 60 ≠ 60 := by omega
    rw [clockSecond, if_neg hlong, if_neg hne]

/-- The day and the clock count up to the seconds. -/
theorem seconds_eq (t : Instant) :
    t.date.dayNumber * daySeconds +
      ((t.secondOfDay / 3600 * 3600 + t.secondOfDay / 60 % 60 * 60 + t.secondOfDay % 60 : Nat) :
        Int) - 0 = t.seconds := by
  have hnumber : t.date.dayNumber = t.seconds / daySeconds :=
    (Date.counts_ofDayNumber _).number
  have hclock : t.secondOfDay / 3600 * 3600 + t.secondOfDay / 60 % 60 * 60 +
      t.secondOfDay % 60 = t.secondOfDay := by omega
  rw [hclock, hnumber, secondOfDay]
  simp only [daySeconds]
  omega

theorem ofClock_fields {t : Instant} (h : t.Regular) :
    ofClock t.date (t.secondOfDay / 3600) (t.secondOfDay / 60 % 60) t.clockSecond.1
      (t.clockSecond.2 / 1000000 * 1000000) 0 = some t.toMillis := by
  have hyear := h.year
  have hrange : (leastYear ≤ t.date.year && t.date.year ≤ greatestYear) = true := by
    rw [Bool.and_eq_true, decide_eq_true_eq, decide_eq_true_eq, leastYear, greatestYear]
    omega
  have hvalid : t.date.isValid = true := (Date.counts_ofDayNumber _).valid
  have hdate : Instant.date ⟨t.seconds, t.nanos / 1000000 * 1000000⟩ = t.date := rfl
  simp only [ofClock, hrange, hvalid, clockSecond_restored h, seconds_eq, hdate, if_true]
  rfl

/-- The fields of a regular instant are those of the instant cut down to milliseconds. -/
theorem toInstant_fields {t : Instant} (h : t.Regular) :
    Time.Parts.toInstant
        { year := t.date.year, month := t.date.month, day := t.date.day
          hour := t.secondOfDay / 3600, minute := t.secondOfDay / 60 % 60
          second := t.clockSecond.1, nanos := t.clockSecond.2 / 1000000 * 1000000 } =
      .ok t.toMillis := by
  have hyear := h.year
  have hrange : (decide (t.date.year < leastYear) || decide (greatestYear < t.date.year) ||
      !t.date.isValid) = false := by
    have hvalid : t.date.isValid = true := (Date.counts_ofDayNumber _).valid
    rw [hvalid, Bool.not_true, Bool.or_false, Bool.or_eq_false_iff, decide_eq_false_iff_not,
      decide_eq_false_iff_not, leastYear, greatestYear]
    omega
  have hzone : (decide ((0 : Int) ≤ -daySeconds) || decide (daySeconds ≤ 0)) = false := rfl
  simp only [Time.Parts.toInstant, hrange, hzone, ofClock_fields h]
  rfl

/-- A form that reads the strict form field by field reads the text of a regular instant. -/
theorem read_text {form : List Char → Except TimeFault Instant} (hform : Time.ReadsFields form)
    {t : Instant} (h : t.Regular) : form t.text = .ok t.toMillis := by
  have hcounts : t.date.Counts (t.seconds / daySeconds) := Date.counts_ofDayNumber _
  have hday := t.secondOfDay_lt
  obtain ⟨hsecond, hmillis⟩ := clockSecond_le h
  have hyear := h.year
  rw [text_eq_strictText h.toDated, hform (by omega) hcounts.month hcounts.day (by omega) (by omega)
    hsecond hmillis, Int.toNat_of_nonneg h.year.1]
  exact toInstant_fields h

/-- **A regular instant is read from its strict form**, cut down to milliseconds. -/
theorem strict_text {t : Instant} (h : t.Regular) : Time.strict t.text = .ok t.toMillis :=
  read_text Time.strict_strictText h

/-- Its text begins with a digit and ends with a letter, so that it has no blanks at its
ends. -/
theorem trim_text {t : Instant} (h : t.Regular) : Text.trim t.text = t.text := by
  obtain ⟨init, hinit⟩ : ∃ init, t.text = init ++ ['Z'] := ⟨_, rfl⟩
  have hfirst : Text.Stops Text.isBlank t.text := by
    rw [text_eq_strictText h.toDated, Time.strictText,
      Text.stops_append_of_ne_nil (Text.digits_padded 4 _).1]
    exact (Text.digits_padded 4 _).stops_isBlank
  have hlast : Text.Stops Text.isBlank t.text.reverse := by
    rw [hinit, List.reverse_append]
    exact Text.stops_cons.2 rfl
  rw [Text.trim, Text.trimLeft, hfirst.dropWhile_eq, Text.trimRight, hlast.dropWhile_eq,
    List.reverse_reverse]

/-- **The text of a regular instant is read as the instant cut down to milliseconds.** -/
theorem read?_text {t : Instant} (h : t.Regular) : read? t.text = some t.toMillis := by
  rw [read?, trim_text h, List.findSome?_cons, strict_text h]
  rfl

/-! ## Seconds that are prolonged within a minute -/

/-- The instant that is written: a second that is prolonged within a minute is written as the
next one. -/
def written (t : Instant) : Instant :=
  if 1000000000 ≤ t.nanos ∧ t.seconds % 60 ≠ 59 then ⟨t.seconds + 1, t.nanos - 1000000000⟩
  else t

variable {t : Instant}

theorem written_of_irregular (hlong : 1000000000 ≤ t.nanos) (hwithin : t.seconds % 60 ≠ 59) :
    t.written = ⟨t.seconds + 1, t.nanos - 1000000000⟩ :=
  if_pos ⟨hlong, hwithin⟩

theorem written_of_leap (h : 1000000000 ≤ t.nanos → t.seconds % 60 = 59) : t.written = t :=
  if_neg fun hboth => hboth.2 (h hboth.1)

theorem Regular.written_eq (h : t.Regular) : t.written = t :=
  written_of_leap h.leap

/-- The next second of a minute is of the same day. -/
theorem date_next (hwithin : t.seconds % 60 ≠ 59) (nanos : Nat) :
    Instant.date ⟨t.seconds + 1, nanos⟩ = t.date := by
  have hday : (t.seconds + 1) / daySeconds = t.seconds / daySeconds := by
    simp only [daySeconds]
    omega
  rw [date, date, hday]

/-- The clock of the next second of a minute shows the same hour and minute. -/
theorem secondOfDay_next (hwithin : t.seconds % 60 ≠ 59) (nanos : Nat) :
    let next := secondOfDay ⟨t.seconds + 1, nanos⟩
    next / 3600 = t.secondOfDay / 3600 ∧ next / 60 % 60 = t.secondOfDay / 60 % 60 ∧
      next % 60 = t.secondOfDay % 60 + 1 := by
  simp only [secondOfDay, daySeconds]
  omega

theorem clockSecond_next (h : t.Dated) (hlong : 1000000000 ≤ t.nanos)
    (hwithin : t.seconds % 60 ≠ 59) :
    clockSecond ⟨t.seconds + 1, t.nanos - 1000000000⟩ = t.clockSecond := by
  have hshort : ¬ 1000000000 ≤ t.nanos - 1000000000 := by
    have := h.nanos
    omega
  rw [clockSecond, clockSecond, if_neg hshort, if_pos hlong,
    (secondOfDay_next hwithin _).2.2]

/-- The instant that is written is regular, -/
theorem Dated.regular_written (h : t.Dated) : t.written.Regular := by
  by_cases hirregular : 1000000000 ≤ t.nanos ∧ t.seconds % 60 ≠ 59
  · obtain ⟨hlong, hwithin⟩ := hirregular
    have hnanos := h.nanos
    rw [written_of_irregular hlong hwithin]
    refine ⟨⟨?_, ?_⟩, fun hlong' => ?_⟩
    · rw [date_next hwithin]
      exact h.year
    · dsimp only
      omega
    · dsimp only at hlong'
      omega
  · rw [written, if_neg hirregular]
    exact ⟨h, fun hlong => by_contra fun hwithin => hirregular ⟨hlong, hwithin⟩⟩

/-- and has the same text. -/
theorem text_written (h : t.Dated) : t.written.text = t.text := by
  by_cases hirregular : 1000000000 ≤ t.nanos ∧ t.seconds % 60 ≠ 59
  · obtain ⟨hlong, hwithin⟩ := hirregular
    have hnext := h.regular_written.toDated
    obtain ⟨hhour, hminute, -⟩ := secondOfDay_next hwithin (t.nanos - 1000000000)
    rw [written_of_irregular hlong hwithin] at hnext ⊢
    rw [text_eq_strictText hnext, text_eq_strictText h, date_next hwithin, hhour, hminute,
      clockSecond_next h hlong hwithin]
  · rw [written, if_neg hirregular]

/-- An instant is another one than the one that is written exactly if its second is prolonged
within a minute. -/
theorem toMillis_written_eq_iff :
    t.written.toMillis = t.toMillis ↔ (1000000000 ≤ t.nanos → t.seconds % 60 = 59) := by
  refine ⟨fun h hlong => by_contra fun hwithin => ?_, fun h => by rw [written_of_leap h]⟩
  rw [written_of_irregular hlong hwithin] at h
  have hseconds : t.seconds + 1 = t.seconds := congrArg seconds h
  omega

end Instant

end TabularQuery
