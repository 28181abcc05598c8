import Mathlib.Data.Prod.Lex
import TabularQuery.Proofs.Text.Order
import TabularQuery.Proofs.Time.Text

/-!
# Instants in their order

An instant is before another one if its seconds are, or if these are the same and its
nanoseconds are: a second that is prolonged comes before the next one.  The texts of regular
instants stand by their characters in the order of the instants cut down to milliseconds,
since each field has its full width and is in the order of its numbers: first the date, and
within a day the clock reading, in which the second 60 comes after the second 59.  Any other
instant takes the place of the one that is written for it.

## Main definitions

* `Instant.lt_iff` — the order of instants.
* `Instant.ClockBefore` — an earlier clock reading, as it is written.
* `Instant.compareCharacters_text` — the order of the texts.
-/

namespace TabularQuery

open Std (OrientedCmp)

namespace Instant

/-- Instants are in the order of their seconds, and then of their nanoseconds. -/
instance : LinearOrder Instant :=
  LinearOrder.lift' (fun t => toLex (t.seconds, t.nanos)) fun a b h => by
    obtain ⟨hseconds, hnanos⟩ := Prod.mk.inj (toLex_inj.1 h)
    exact (Instant.mk.injEq ..).mpr ⟨hseconds, hnanos⟩

theorem lt_iff {a b : Instant} :
    a < b ↔ a.seconds < b.seconds ∨ a.seconds = b.seconds ∧ a.nanos < b.nanos :=
  Prod.Lex.toLex_lt_toLex

/-! ## Fields -/

variable {a b : Instant}

/-- An earlier date. -/
theorem lt_of_date_before (h : a.date.Before b.date) : a.toMillis < b.toMillis := by
  have hday : a.seconds / daySeconds < b.seconds / daySeconds :=
    (Date.counts_ofDayNumber _).lt_of_before (Date.counts_ofDayNumber _) h
  refine lt_iff.2 (.inl ?_)
  simp only [toMillis, daySeconds] at hday ⊢
  omega

/-- An earlier clock reading as it is written: by its hours, its minutes, its seconds and its
milliseconds. -/
def ClockBefore (a b : Instant) : Prop :=
  a.secondOfDay / 3600 < b.secondOfDay / 3600 ∨ a.secondOfDay / 3600 = b.secondOfDay / 3600 ∧
    (a.secondOfDay / 60 % 60 < b.secondOfDay / 60 % 60 ∨
      a.secondOfDay / 60 % 60 = b.secondOfDay / 60 % 60 ∧
        (a.clockSecond.1 < b.clockSecond.1 ∨ a.clockSecond.1 = b.clockSecond.1 ∧
          a.clockSecond.2 / 1000000 < b.clockSecond.2 / 1000000))

/-- Of two instants of one day, the one with an earlier clock reading, down to the
milliseconds, is before the other. -/
theorem lt_of_clockBefore (ha : a.Regular) (hb : b.Regular) (hdate : a.date = b.date)
    (h : a.ClockBefore b) : a.toMillis < b.toMillis := by
  have hday : a.seconds / daySeconds = b.seconds / daySeconds := by
    rw [← (Date.counts_ofDayNumber (a.seconds / daySeconds)).number,
      ← (Date.counts_ofDayNumber (b.seconds / daySeconds)).number]
    exact congrArg Date.dayNumber hdate
  -- either the seconds of the day differ, or the nanoseconds within one of them
  have hclock : a.secondOfDay < b.secondOfDay ∨ a.secondOfDay = b.secondOfDay ∧
      a.nanos / 1000000 < b.nanos / 1000000 := by
    have hleap := ha.leap_secondOfDay
    have hleap' := hb.leap_secondOfDay
    rw [ClockBefore, clockSecond, clockSecond] at h
    by_cases hlong : 1000000000 ≤ a.nanos
    · have := hleap hlong
      by_cases hlong' : 1000000000 ≤ b.nanos
      · have := hleap' hlong'
        rw [if_pos hlong, if_pos hlong'] at h
        omega
      · rw [if_pos hlong, if_neg hlong'] at h
        omega
    · by_cases hlong' : 1000000000 ≤ b.nanos
      · have := hleap' hlong'
        rw [if_neg hlong, if_pos hlong'] at h
        omega
      · rw [if_neg hlong, if_neg hlong'] at h
        omega
  rw [lt_iff]
  simp only [secondOfDay, toMillis, daySeconds] at hclock hday ⊢
  omega

/-! ## Texts -/

/-- An earlier text has an earlier date, or the same date and an earlier clock reading. -/
theorem before_of_compareCharacters_text (ha : a.Regular) (hb : b.Regular)
    (h : compareCharacters a.text b.text = .lt) :
    a.date.Before b.date ∨ a.date = b.date ∧ a.ClockBefore b := by
  have hyear := ha.year
  have hyear' := hb.year
  have hdate : a.date.Counts _ := Date.counts_ofDayNumber _
  have hdate' : b.date.Counts _ := Date.counts_ofDayNumber _
  have hmonth := hdate.month
  have hmonth' := hdate'.month
  have hday := hdate.day
  have hday' := hdate'.day
  have hclock := a.secondOfDay_lt
  have hclock' := b.secondOfDay_lt
  obtain ⟨hsecond, hmillis⟩ := clockSecond_le ha
  obtain ⟨hsecond', hmillis'⟩ := clockSecond_le hb
  -- every field is compared at its full width, and decides before those behind it
  simp (disch := omega) only [text_eq_strictText ha.toDated, text_eq_strictText hb.toDated,
    Time.strictText, Text.compareCharacters_padded, compareCharacters_cons_self,
    compareCharacters_self, Ordering.then_eq_lt, Nat.compare_eq_lt, Nat.compare_eq_eq,
    reduceCtorEq, and_false, or_false] at h
  rcases h with h | ⟨hyears, h | ⟨hmonths, h | ⟨hdays, h⟩⟩⟩
  · exact .inl (.inl (by omega))
  · exact .inl (.inr ⟨by omega, .inl h⟩)
  · exact .inl (.inr ⟨by omega, .inr ⟨hmonths, h⟩⟩)
  · have hsame : a.date.year = b.date.year := by omega
    exact .inr ⟨(Date.mk.injEq ..).mpr ⟨hsame, hmonths, hdays⟩, h⟩

/-- The texts of regular instants are in the order of the instants, as they are cut down to
milliseconds. -/
theorem compareCharacters_text_of_regular (ha : a.Regular) (hb : b.Regular) :
    compareCharacters a.text b.text = compare a.toMillis b.toMillis := by
  have hlt {a b : Instant} (ha : a.Regular) (hb : b.Regular)
      (h : compareCharacters a.text b.text = .lt) : a.toMillis < b.toMillis := by
    rcases before_of_compareCharacters_text ha hb h with hdate | ⟨hdate, hclock⟩
    · exact lt_of_date_before hdate
    · exact lt_of_clockBefore ha hb hdate hclock
  cases h : compareCharacters a.text b.text with
  | lt => exact (compare_lt_iff_lt.2 (hlt ha hb h)).symm
  | gt => exact (compare_gt_iff_gt.2 (hlt hb ha (OrientedCmp.gt_iff_lt.1 h))).symm
  | eq =>
    have hread := read?_text ha
    rw [compareCharacters_eq_iff.1 h, read?_text hb] at hread
    exact (compare_eq_iff_eq.2 (Option.some.inj hread).symm).symm

/-- **The texts of instants are in the order of the instants that are written**, cut down to
milliseconds. -/
theorem compareCharacters_text (ha : a.Dated) (hb : b.Dated) :
    compareCharacters a.text b.text = compare a.written.toMillis b.written.toMillis := by
  rw [← text_written ha, ← text_written hb,
    compareCharacters_text_of_regular ha.regular_written hb.regular_written]

end Instant

end TabularQuery
