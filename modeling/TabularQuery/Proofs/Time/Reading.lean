import TabularQuery.Proofs.Except
import TabularQuery.Proofs.Time.Text

/-!
# Which instants are read

The small readers keep to their bounds: the fraction of a second is less than a second, and
a zone is whole minutes ahead.  So a second that is read prolonged is the last one of a
minute of universal time, in every form, and an instant that is read is regular unless its
year has not four digits.

## Main definitions

* `Time.Parts.Bounded` — the parts that readers give.
* `Instant.Steady` — instants with seconds that are prolonged only at the end of a minute.
* `Instant.steady_of_read?` — every instant that is read is one of these.
-/

namespace TabularQuery

/-! ## Small readers -/

namespace Time

/-- A number that is read has digits in front of what is left. -/
theorem number_eq_ok {least most n : Nat} {s rest : List Char}
    (h : number least most s = .ok (n, rest)) :
    n < 10 ^ (s.length - rest.length) ∧ s.length - rest.length ≤ most := by
  rw [number] at h
  generalize hds : (s.take most).takeWhile Text.isDigit = ds at h
  have hdigits : ∀ c ∈ ds, Text.isDigit c = true := by
    intro c hc
    rw [← hds] at hc
    exact List.mem_takeWhile_imp hc
  have hle : ds.length ≤ (s.take most).length := by
    rw [← hds]
    exact (List.takeWhile_prefix _).length_le
  rw [List.length_take] at hle
  split at h
  · obtain ⟨rfl, rfl⟩ := Prod.mk.inj (Except.ok.inj h)
    have hused : s.length - (s.drop ds.length).length = ds.length := by
      rw [List.length_drop]
      omega
    rw [hused]
    exact ⟨Text.readDigits_lt hdigits, by omega⟩
  · split at h <;> cases h

/-- The nanoseconds of a fraction are less than a second. -/
theorem fraction_lt {n : Nat} {s rest : List Char} (h : fraction s = .ok (n, rest)) :
    n < 1000000000 := by
  simp only [fraction, Except.bind_eq_ok_iff, Prod.exists] at h
  obtain ⟨m, left, hnumber, h⟩ := h
  obtain ⟨hlt, hmost⟩ := number_eq_ok hnumber
  obtain ⟨rfl, rfl⟩ := Prod.mk.inj (Except.ok.inj h)
  generalize s.length - left.length = used at hlt hmost
  have hnine : 10 ^ used * 10 ^ (9 - used) = 1000000000 := by
    rw [← Nat.pow_add, Nat.add_sub_cancel' hmost]
  calc m * Nat.pow 10 (9 - used) < 10 ^ used * 10 ^ (9 - used) :=
        Nat.mul_lt_mul_of_pos_right hlt (Nat.pow_pos (by decide))
    _ = 1000000000 := hnine

theorem optionalFraction_lt {n : Nat} {s rest : List Char}
    (h : optionalFraction s = .ok (n, rest)) : n < 1000000000 := by
  rw [optionalFraction.eq_def] at h
  split at h
  · exact fraction_lt h
  · obtain ⟨rfl, rfl⟩ := Prod.mk.inj (Except.ok.inj h)
    decide

/-- A zone is ahead of universal time by whole minutes. -/
theorem offset_mod {mark : OffsetMark} {optionalMinutes : Bool} {ahead : Int}
    {s rest : List Char} (h : offset mark optionalMinutes s = .ok (ahead, rest)) :
    ahead % 60 = 0 := by
  cases s with
  | nil => cases h
  | cons c left =>
    rw [offset] at h
    split at h
    · obtain ⟨rfl, rfl⟩ := Prod.mk.inj (Except.ok.inj h)
      rfl
    · split at h
      · simp only [Except.bind_eq_ok_iff, Prod.exists] at h
        obtain ⟨a, b, -, h⟩ := h
        split at h
        · simp only [Except.bind_eq_ok_iff, Prod.exists] at h
          obtain ⟨_, -, minutes, _, -, h⟩ := h
          obtain ⟨rfl, rfl⟩ := Prod.mk.inj (Except.ok.inj h)
          split <;> omega
        · cases h
      · cases h

/-! ## Parts -/

/-- Parts within the bounds of the readers of a fraction and of a zone. -/
structure Parts.Bounded (p : Parts) : Prop where
  nanos : p.nanos < 1000000000
  offset : p.offset % 60 = 0

/-- A date has the clock reading of its midnight. -/
theorem bounded_of_looseDate {s rest : List Char} {p : Parts}
    (h : looseDate s = .ok (p, rest)) : p.Bounded := by
  simp only [looseDate, Except.bind_eq_ok_iff, Prod.exists] at h
  obtain ⟨year, _, -, _, _, -, month, _, -, _, _, -, day, _, -, h⟩ := h
  obtain ⟨rfl, rfl⟩ := Prod.mk.inj (Except.ok.inj h)
  exact ⟨Nat.succ_pos _, rfl⟩

theorem bounded_of_looseClock {s rest : List Char} {p q : Parts} (hp : p.Bounded)
    (h : looseClock p s = .ok (q, rest)) : q.Bounded := by
  simp only [looseClock, Except.bind_eq_ok_iff, Prod.exists] at h
  obtain ⟨hour, _, -, _, _, -, minute, _, -, _, _, -, second, _, -, nanos, _, hnanos, h⟩ := h
  obtain ⟨rfl, rfl⟩ := Prod.mk.inj (Except.ok.inj h)
  exact ⟨optionalFraction_lt hnanos, hp.offset⟩

theorem toInstant_of_finish {s : List Char} {p : Parts} {t : Instant}
    (h : finish p s = .ok t) : p.toInstant = .ok t := by
  cases s with
  | nil => exact h
  | cons c rest => cases h

end Time

/-! ## Instants -/

namespace Instant

/-- An instant whose second is prolonged, if at all, at the end of a minute and by less than
a second. -/
structure Steady (t : Instant) : Prop where
  nanos : t.nanos < 2000000000
  leap : 1000000000 ≤ t.nanos → t.seconds % 60 = 59

theorem Steady.regular {t : Instant} (h : t.Steady)
    (hyear : 0 ≤ t.date.year ∧ t.date.year ≤ 9999) : t.Regular :=
  ⟨⟨hyear, h.nanos⟩, h.leap⟩

/-- The second 60 of a clock reading is the last one of its minute prolonged, and taking off
whole minutes leaves it there. -/
theorem steady_of_ofClock {d : Date} {hour minute second nanos : Nat} {offset : Int}
    {t : Instant} (hnanos : nanos < 1000000000) (hoffset : offset % 60 = 0)
    (h : ofClock d hour minute second nanos offset = some t) : t.Steady := by
  rw [ofClock] at h
  split at h
  · cases h
  · by_cases hlong : second = 60
    · simp only [if_pos hlong] at h
      split at h
      · obtain rfl := Option.some.inj h
        refine ⟨by dsimp only; omega, fun _ => ?_⟩
        dsimp only [daySeconds]
        omega
      · cases h
    · simp only [if_neg hlong] at h
      split at h
      · obtain rfl := Option.some.inj h
        refine ⟨by dsimp only; omega, fun hle => ?_⟩
        dsimp only at hle
        omega
      · cases h

theorem steady_of_toInstant {p : Time.Parts} {t : Instant} (hp : p.Bounded)
    (h : p.toInstant = .ok t) : t.Steady := by
  rw [Time.Parts.toInstant] at h
  split at h
  · cases h
  · split at h
    · cases h
    · split at h
      · rename_i u hclock
        obtain rfl := Except.ok.inj h
        exact steady_of_ofClock hp.nanos hp.offset hclock
      · cases h

/-! ## Forms -/

variable {s : List Char} {t : Instant}

theorem steady_of_strict (h : Time.strict s = .ok t) : t.Steady := by
  simp only [Time.strict, Except.bind_eq_ok_iff, Prod.exists] at h
  obtain ⟨year, _, -, _, _, -, month, _, -, _, _, -, day, _, -, _, _, -, hour, _, -, _, _, -,
    minute, _, -, _, _, -, second, _, -, nanos, _, hnanos, ahead, _, hahead, h⟩ := h
  exact steady_of_toInstant ⟨Time.optionalFraction_lt hnanos, Time.offset_mod hahead⟩
    (Time.toInstant_of_finish h)

theorem steady_of_spaced (h : Time.spaced s = .ok t) : t.Steady := by
  simp only [Time.spaced, Except.bind_eq_ok_iff, Prod.exists] at h
  obtain ⟨p, _, hdate, q, _, hclock, ahead, _, hahead, h⟩ := h
  have hq := Time.bounded_of_looseClock (Time.bounded_of_looseDate hdate) hclock
  exact steady_of_toInstant (p := { q with offset := ahead })
    ⟨hq.nanos, Time.offset_mod hahead⟩ (Time.toInstant_of_finish h)

theorem steady_of_zoneless (h : Time.zoneless s = .ok t) : t.Steady := by
  simp only [Time.zoneless, Except.bind_eq_ok_iff, Prod.exists] at h
  obtain ⟨p, _, hdate, _, _, -, q, _, hclock, h⟩ := h
  exact steady_of_toInstant
    (Time.bounded_of_looseClock (Time.bounded_of_looseDate hdate) hclock)
    (Time.toInstant_of_finish h)

theorem steady_of_zonelessSpaced (h : Time.zonelessSpaced s = .ok t) : t.Steady := by
  simp only [Time.zonelessSpaced, Except.bind_eq_ok_iff, Prod.exists] at h
  obtain ⟨p, _, hdate, q, _, hclock, h⟩ := h
  exact steady_of_toInstant
    (Time.bounded_of_looseClock (Time.bounded_of_looseDate hdate) hclock)
    (Time.toInstant_of_finish h)

theorem steady_of_dateOnly (h : Time.dateOnly s = .ok t) : t.Steady := by
  simp only [Time.dateOnly, Except.bind_eq_ok_iff, Prod.exists] at h
  obtain ⟨p, _, hdate, h⟩ := h
  exact steady_of_toInstant (Time.bounded_of_looseDate hdate) (Time.toInstant_of_finish h)

/-- **Every instant that is read is steady**, whatever its form. -/
theorem steady_of_read? (h : read? s = some t) : t.Steady := by
  obtain ⟨form, hform, hread⟩ := List.exists_of_findSome?_eq_some h
  have hok : form (Text.trim s) = .ok t := Except.toOption_eq_some_iff.1 hread
  simp only [List.mem_cons, List.not_mem_nil, or_false] at hform
  rcases hform with rfl | rfl | rfl | rfl | rfl
  · exact steady_of_strict hok
  · exact steady_of_spaced hok
  · exact steady_of_zoneless hok
  · exact steady_of_zonelessSpaced hok
  · exact steady_of_dateOnly hok

end Instant

end TabularQuery
