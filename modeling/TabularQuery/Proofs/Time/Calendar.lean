import TabularQuery.Time.Calendar

/-!
# Dates and their day numbers

Counting the days of a date is undone by looking up the date of a day number: first the
year in which the day lies, then the month in which the day of the year lies.  Dates in the
order of their years, months and days are in the order of their day numbers.

## Main definitions

* `Date.yearStart_yearOf` — a day lies within its year.
* `Date.monthOf_eq` — a day of a year lies within its month.
* `Date.counts_ofDayNumber` — the date of a day number has this number.
* `Date.Before`, `Date.Counts.lt_of_before` — an earlier date has a smaller day number.
-/

namespace TabularQuery.Date

/-! ## Years -/

/-- The number of days of a year. -/
def yearLength (leap : Bool) : Nat :=
  if leap then 366 else 365

theorem yearStart_succ (y : Int) :
    yearStart (y + 1) = yearStart y + yearLength (isLeapYear y) := by
  have hleap : isLeapYear y = true ↔ y % 4 = 0 ∧ (y % 100 ≠ 0 ∨ y % 400 = 0) := by
    simp [isLeapYear]
  rw [yearStart, yearStart, yearLength]
  split
  · rename_i h
    have := hleap.1 h
    omega
  · rename_i h
    have := mt hleap.2 h
    omega

/-- A day lies within its year. -/
theorem yearStart_yearOf (n : Int) :
    yearStart (yearOf n) ≤ n ∧ n < yearStart (yearOf n + 1) := by
  rw [yearOf]
  split
  · rename_i h
    simp only [yearStart] at h ⊢
    omega
  · rename_i h
    split
    · rename_i h'
      simp only [yearStart] at h h' ⊢
      omega
    · rename_i h'
      simp only [yearStart] at h h' ⊢
      omega

/-! ## Months -/

/-- A day of a year lies within its month: the days before the month and those of it up to
the day are all days up to it. -/
theorem monthOf_eq (leap : Bool) {n : Nat} (h : n < yearLength leap) :
    (1 ≤ (monthOf leap n).1 ∧ (monthOf leap n).1 ≤ 12) ∧
      (1 ≤ (monthOf leap n).2 ∧ (monthOf leap n).2 ≤ monthLength leap (monthOf leap n).1) ∧
      monthStart leap (monthOf leap n).1 + ((monthOf leap n).2 - 1) = n := by
  revert n leap
  decide +kernel

theorem monthLength_le (leap : Bool) (month : Nat) : monthLength leap month ≤ 31 := by
  rw [monthLength.eq_def]
  split <;> (try split) <;> decide

/-! ## Dates -/

/-- What the date of a day number has. -/
structure Counts (d : Date) (n : Int) : Prop where
  month : 1 ≤ d.month ∧ d.month ≤ 12
  day : 1 ≤ d.day ∧ d.day ≤ 31
  valid : d.isValid = true
  number : d.dayNumber = n

/-- The date of a day number has this number. -/
theorem counts_ofDayNumber (n : Int) : (ofDayNumber n).Counts n := by
  obtain ⟨hstart, hend⟩ := yearStart_yearOf (n + epoch)
  rw [yearStart_succ] at hend
  have hlt : (n + epoch - yearStart (yearOf (n + epoch))).toNat <
      yearLength (isLeapYear (yearOf (n + epoch))) := by omega
  obtain ⟨hmonth, ⟨hday, hlength⟩, hnumber⟩ := monthOf_eq _ hlt
  refine ⟨hmonth, ⟨hday, Nat.le_trans hlength (monthLength_le _ _)⟩, ?_, ?_⟩
  · simp [isValid, ofDayNumber, hday, hlength]
  · simp only [dayNumber, ofDayNumber]
    omega

/-! ## The order of dates -/

/-- A month ends before the next one begins, and the last one with the year. -/
theorem monthStart_add_monthLength_le (leap : Bool) {month : Nat}
    (h : 1 ≤ month ∧ month ≤ 12) :
    monthStart leap month + monthLength leap month ≤ yearLength leap ∧
      ∀ later ≤ 12, month < later →
        monthStart leap month + monthLength leap month ≤ monthStart leap later := by
  have hall : ∀ month ≤ 12, 1 ≤ month →
      monthStart leap month + monthLength leap month ≤ yearLength leap ∧
        ∀ later ≤ 12, month < later →
          monthStart leap month + monthLength leap month ≤ monthStart leap later := by
    revert leap
    decide +kernel
  exact hall month h.2 h.1

theorem yearStart_succ_le {y z : Int} (h : y < z) : yearStart (y + 1) ≤ yearStart z := by
  simp only [yearStart]
  omega

/-- An earlier date, by its year, its month and its day. -/
def Before (d e : Date) : Prop :=
  d.year < e.year ∨ d.year = e.year ∧
    (d.month < e.month ∨ d.month = e.month ∧ d.day < e.day)

/-- **An earlier date has a smaller day number.** -/
theorem Counts.lt_of_before {d e : Date} {m n : Int} (hd : d.Counts m) (he : e.Counts n)
    (h : d.Before e) : m < n := by
  obtain ⟨hlast, hnext⟩ := monthStart_add_monthLength_le (isLeapYear d.year) hd.month
  have hday : d.day ≤ monthLength (isLeapYear d.year) d.month := by
    have hvalid := hd.valid
    simp only [isValid, Bool.and_eq_true, decide_eq_true_eq] at hvalid
    exact hvalid.2
  have hpos := hd.day.1
  have hpos' := he.day.1
  rw [← hd.number, ← he.number, dayNumber, dayNumber]
  rcases h with hyear | ⟨hyear, hmonth | ⟨hmonth, hless⟩⟩
  · have hyears := yearStart_succ_le hyear
    rw [yearStart_succ] at hyears
    omega
  · have hmonths := hnext e.month he.month.2 hmonth
    rw [hyear] at hmonths hday ⊢
    omega
  · rw [hyear, hmonth]
    omega

end TabularQuery.Date
