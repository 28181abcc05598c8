import Mathlib.Algebra.Order.Field.Power
import Mathlib.Data.Nat.Log
import Mathlib.Data.Rat.Cast.Order
import Mathlib.Tactic.Linarith
import Mathlib.Tactic.Positivity
import Mathlib.Tactic.Ring
import TabularQuery.Number.Binary64

/-!
# What rounds to a binary64 number

A ratio is rounded to the number in whose neighbourhood it lies: the rationals within half
a unit of its last place, and below a power of two within a quarter of a unit, since the
numbers lie twice as close there.

## Main definitions

* `Binary64.RoundsInt` — the rationals that round to an integer.
* `Binary64.Canonical` — the mantissas and exponents of the finite numbers.
* `Binary64.Nearest` — the rationals that round to a number.
* `Binary64.ofRatio_eq` — the number to which a ratio is rounded.
* `Binary64.exists_canonical_ofRatio` — it is canonical.
* `Binary64.near_ofRatio` — how far the ratio is from it.
-/

namespace TabularQuery.Binary64

/-! ## Integers -/

/-- A rational lies within a half of an integer, and not at the end if that is odd. -/
structure RoundsInt (x : ℚ) (m : ℕ) : Prop where
  low : (m : ℚ) - 1 / 2 ≤ x
  high : x ≤ m + 1 / 2
  odd : m % 2 = 1 → (m : ℚ) - 1 / 2 < x ∧ x < m + 1 / 2

/-- The same for a ratio, without division. -/
theorem RoundsInt.of_ratio {num den m : ℕ} (hden : 0 < den) (h : RoundsInt (num / den) m) :
    2 * (m * den) ≤ 2 * num + den ∧ 2 * num ≤ 2 * (m * den) + den ∧
      (m % 2 = 1 → 2 * (m * den) < 2 * num + den ∧ 2 * num < 2 * (m * den) + den) := by
  have hpos : (0 : ℚ) < den := by exact_mod_cast hden
  have hlow := (le_div_iff₀ hpos).1 h.low
  have hhigh := (div_le_iff₀ hpos).1 h.high
  refine ⟨?_, ?_, fun hodd => ?_⟩
  · have : (2 * (m * den) : ℚ) ≤ 2 * num + den := by linarith
    exact_mod_cast this
  · have : (2 * num : ℚ) ≤ 2 * (m * den) + den := by linarith
    exact_mod_cast this
  · have hlow' := (lt_div_iff₀ hpos).1 (h.odd hodd).1
    have hhigh' := (div_lt_iff₀ hpos).1 (h.odd hodd).2
    have hl : (2 * (m * den) : ℚ) < 2 * num + den := by linarith
    have hh : (2 * num : ℚ) < 2 * (m * den) + den := by linarith
    exact ⟨by exact_mod_cast hl, by exact_mod_cast hh⟩

/-- A ratio is rounded to the integer around which it lies. -/
theorem roundHalfEven_eq {num den m : ℕ} (hden : 0 < den) (h : RoundsInt (num / den) m) :
    roundHalfEven num den = m := by
  obtain ⟨hlow, hhigh, hodd⟩ := h.of_ratio hden
  have hdiv : num = num / den * den + num % den := by
    rw [Nat.mul_comm, Nat.div_add_mod]
  have hrem : num % den < den := Nat.mod_lt num hden
  simp only [roundHalfEven]
  generalize num / den = q at hdiv ⊢
  generalize num % den = r at hdiv hrem ⊢
  -- the quotient is the integer or the one below it
  have hq : q ≤ m := by
    by_contra hlt
    have := Nat.mul_le_mul_right den (Nat.succ_le_of_lt (not_le.1 hlt))
    rw [Nat.succ_mul] at this
    omega
  have hm : m ≤ q + 1 := by
    by_contra hlt
    have := Nat.mul_le_mul_right den (Nat.succ_le_of_lt (not_le.1 hlt))
    rw [Nat.succ_mul, Nat.succ_mul] at this
    omega
  rcases Nat.eq_or_lt_of_le hq with rfl | hlt
  · split
    · rfl
    · split <;> omega
  · obtain rfl : m = q + 1 := by omega
    simp only [Nat.add_one_mul] at hlow hhigh hodd
    split
    · omega
    · split <;> omega

/-- A rounded ratio is not above an integer above the ratio. -/
theorem roundHalfEven_le {num den n : ℕ} (hden : 0 < den) (h : num ≤ n * den) :
    roundHalfEven num den ≤ n := by
  have hdiv : num / den ≤ n := Nat.div_le_of_le_mul (by rwa [Nat.mul_comm])
  have hrem := Nat.div_add_mod' num den
  simp only [roundHalfEven]
  rcases Nat.eq_or_lt_of_le hdiv with heq | hlt
  · have hzero : num % den = 0 := by
      rw [heq] at hrem
      omega
    rw [hzero, if_pos (by omega)]
    exact hdiv
  · split
    · exact hdiv
    · split <;> omega

/-- It is not below an integer below the ratio. -/
theorem le_roundHalfEven {num den n : ℕ} (hden : 0 < den) (h : n * den ≤ num) :
    n ≤ roundHalfEven num den := by
  have hdiv : n ≤ num / den := (Nat.le_div_iff_mul_le hden).2 h
  simp only [roundHalfEven]
  split
  · exact hdiv
  · split <;> omega

/-- It is the quotient if the remainder is at most a half, or else the next integer. -/
theorem roundHalfEven_cases (num den : ℕ) :
    (roundHalfEven num den = num / den ∧ 2 * (num % den) ≤ den) ∨
      (roundHalfEven num den = num / den + 1 ∧ den ≤ 2 * (num % den)) := by
  simp only [roundHalfEven]
  split
  · exact .inl ⟨rfl, by omega⟩
  · split
    · exact .inr ⟨rfl, by omega⟩
    · rcases Nat.mod_two_eq_zero_or_one (num / den) with heven | hodd
      · exact .inl ⟨by rw [heven, Nat.add_zero], by omega⟩
      · exact .inr ⟨by rw [hodd], by omega⟩

/-- It is the ratio up to a half. -/
theorem roundHalfEven_near {num den : ℕ} (hden : 0 < den) :
    |(roundHalfEven num den : ℚ) - num / den| ≤ 1 / 2 := by
  have hpos : (0 : ℚ) < den := by exact_mod_cast hden
  have hdiv : (num : ℚ) = (num / den : ℕ) * den + (num % den : ℕ) := by
    exact_mod_cast (Nat.div_add_mod' num den).symm
  have hratio : (num : ℚ) / den = (num / den : ℕ) + (num % den : ℕ) / den := by
    rw [div_eq_iff hpos.ne', add_mul, div_mul_cancel₀ _ hpos.ne', ← hdiv]
  have hlow : (0 : ℚ) ≤ (num % den : ℕ) / den := by positivity
  have hhigh : ((num % den : ℕ) : ℚ) / den ≤ 1 := by
    rw [div_le_one hpos]
    exact_mod_cast (Nat.mod_lt num hden).le
  rw [hratio, abs_le]
  rcases roundHalfEven_cases num den with ⟨hround, hhalf⟩ | ⟨hround, hhalf⟩
  · have hbelow : ((num % den : ℕ) : ℚ) / den ≤ 1 / 2 := by
      rw [div_le_iff₀ hpos]
      have : (2 * (num % den : ℕ) : ℚ) ≤ den := by exact_mod_cast hhalf
      linarith
    rw [hround]
    constructor <;> linarith
  · have habove : (1 : ℚ) / 2 ≤ (num % den : ℕ) / den := by
      rw [le_div_iff₀ hpos]
      have : (den : ℚ) ≤ 2 * (num % den : ℕ) := by exact_mod_cast hhalf
      linarith
    rw [hround]
    push_cast
    constructor <;> linarith

/-! ## Exponents -/

theorem two_zpow_pos (e : ℤ) : (0 : ℚ) < 2 ^ e :=
  zpow_pos (by norm_num) e

theorem two_zpow_add (e f : ℤ) : (2 : ℚ) ^ (e + f) = 2 ^ e * 2 ^ f :=
  zpow_add₀ (by norm_num) e f

theorem two_zpow_toNat {e : ℤ} (h : 0 ≤ e) : ((2 ^ e.toNat : ℕ) : ℚ) = 2 ^ e := by
  obtain ⟨n, rfl⟩ := Int.eq_ofNat_of_zero_le h
  simp

theorem two_zpow_lt_iff {e f : ℤ} : (2 : ℚ) ^ e < 2 ^ f ↔ e < f :=
  zpow_lt_zpow_iff_right₀ (by norm_num)

theorem two_zpow_52 : (2 : ℚ) ^ (52 : ℤ) = 4503599627370496 := by
  norm_num

theorem two_zpow_53 : (2 : ℚ) ^ (53 : ℤ) = 9007199254740992 := by
  norm_num

theorem div_two_zpow_lt_iff {q : ℚ} {e k : ℤ} : q / 2 ^ e < 2 ^ k ↔ q < 2 ^ (e + k) := by
  rw [div_lt_iff₀ (two_zpow_pos e), two_zpow_add, mul_comm]

/-- A positive ratio over a power of two as a ratio of natural numbers. -/
theorem scaled_ratio (num den : ℕ) (e : ℤ) :
    ((if 0 ≤ e then num else num * 2 ^ (-e).toNat : ℕ) : ℚ) /
      (if 0 ≤ e then den * 2 ^ e.toNat else den : ℕ) = num / den / 2 ^ e := by
  split
  · rename_i h
    rw [Nat.cast_mul, two_zpow_toNat h, div_div]
  · rename_i h
    rw [Nat.cast_mul, two_zpow_toNat (by omega), zpow_neg]
    ring

/-- A positive natural number lies between two powers of two. -/
theorem log2_bounds {n : ℕ} (hn : n ≠ 0) :
    (2 : ℚ) ^ (n.log2 : ℤ) ≤ n ∧ (n : ℚ) < 2 ^ ((n.log2 : ℤ) + 1) := by
  have hlow : 2 ^ n.log2 ≤ n := Nat.log2_self_le hn
  have hhigh : n < 2 ^ (n.log2 + 1) := Nat.lt_log2_self
  constructor
  · exact_mod_cast hlow
  · exact_mod_cast hhigh

/-- A positive ratio lies between two powers of two, too. -/
theorem ratio_bounds {num den : ℕ} (hnum : num ≠ 0) (hden : den ≠ 0) :
    (2 : ℚ) ^ ((num.log2 : ℤ) - den.log2 - 1) ≤ num / den ∧
      (num / den : ℚ) < 2 ^ ((num.log2 : ℤ) - den.log2 + 1) := by
  obtain ⟨hnumLow, hnumHigh⟩ := log2_bounds hnum
  obtain ⟨hdenLow, hdenHigh⟩ := log2_bounds hden
  have hpos : (0 : ℚ) < den := by exact_mod_cast Nat.pos_of_ne_zero hden
  constructor
  · rw [le_div_iff₀ hpos]
    calc (2 : ℚ) ^ ((num.log2 : ℤ) - den.log2 - 1) * den
        ≤ 2 ^ ((num.log2 : ℤ) - den.log2 - 1) * 2 ^ ((den.log2 : ℤ) + 1) := by
          exact mul_le_mul_of_nonneg_left hdenHigh.le (two_zpow_pos _).le
      _ = 2 ^ (num.log2 : ℤ) := by
          rw [← two_zpow_add]
          congr 1
          omega
      _ ≤ num := hnumLow
  · rw [div_lt_iff₀ hpos]
    calc (num : ℚ) < 2 ^ ((num.log2 : ℤ) + 1) := hnumHigh
      _ = 2 ^ ((num.log2 : ℤ) - den.log2 + 1) * 2 ^ (den.log2 : ℤ) := by
          rw [← two_zpow_add]
          congr 1
          omega
      _ ≤ 2 ^ ((num.log2 : ℤ) - den.log2 + 1) * den :=
          mul_le_mul_of_nonneg_left hdenLow (two_zpow_pos _).le

/-- The exponent at which a ratio has a mantissa of 53 bits, if it is not below the least. -/
theorem exponentOf_spec {num den : ℕ} (hnum : num ≠ 0) (hden : den ≠ 0) :
    ∃ e : ℤ, (2 : ℚ) ^ (e + 52) ≤ num / den ∧ (num / den : ℚ) < 2 ^ (e + 53) ∧
      exponentOf num den = max e leastExponent := by
  obtain ⟨hlow, hhigh⟩ := ratio_bounds hnum hden
  simp only [exponentOf, Nat.pow_eq]
  generalize he : (num.log2 : ℤ) - den.log2 - 52 = e
  -- the test compares the scaled ratio with the least mantissa of 53 bits
  have hshort : (if 0 ≤ e then num < den * 2 ^ e.toNat * 2 ^ 52
      else num * 2 ^ (-e).toNat < den * 2 ^ 52) ↔ (num / den : ℚ) < 2 ^ (e + 52) := by
    have hpos : (0 : ℚ) < (if 0 ≤ e then den * 2 ^ e.toNat else den : ℕ) := by
      have hpow : 2 ^ e.toNat ≠ 0 := by positivity
      split <;> exact_mod_cast Nat.pos_of_ne_zero (by simp [hden])
    have hiff : (num / den : ℚ) < 2 ^ (e + 52) ↔
        (if 0 ≤ e then num else num * 2 ^ (-e).toNat) <
          2 ^ 52 * (if 0 ≤ e then den * 2 ^ e.toNat else den) := by
      rw [two_zpow_add, mul_comm, ← div_lt_iff₀ (two_zpow_pos e), ← scaled_ratio,
        div_lt_iff₀ hpos]
      exact_mod_cast Iff.rfl
    rw [hiff]
    split <;> rw [Nat.mul_comm (2 ^ 52)]
  by_cases h : (num / den : ℚ) < 2 ^ (e + 52)
  · refine ⟨e - 1, ?_, ?_, ?_⟩
    · convert hlow using 2
      omega
    · convert h using 2
      omega
    · rw [if_pos (hshort.2 h)]
  · refine ⟨e, not_lt.1 h, ?_, ?_⟩
    · convert hhigh using 2
      omega
    · rw [if_neg (mt hshort.1 h)]

/-! ## Numbers -/

/-- The mantissa and the exponent of a finite number: the mantissa has 53 bits unless the
exponent is the least. -/
structure Canonical (m : ℕ) (e : ℤ) : Prop where
  mantissa : m < 2 ^ 53
  full : 2 ^ 52 ≤ m ∨ e = leastExponent
  least : leastExponent ≤ e
  greatest : e ≤ greatestExponent

/-- The positive rationals that round to a number.  Below a power of two the numbers lie
twice as close. -/
structure Nearest (m : ℕ) (e : ℤ) (q : ℚ) : Prop where
  rounds : RoundsInt (q / 2 ^ e) m
  close : m = 2 ^ 52 → e ≠ leastExponent → (m : ℚ) - 1 / 4 ≤ q / 2 ^ e

/-- A number from a rounded mantissa, which may have one bit too many. -/
def carried (negative : Bool) (m : ℕ) (e : ℤ) : Binary64 :=
  let (m, e) := if m = 2 ^ 53 then (2 ^ 52, e + 1) else (m, e)
  if greatestExponent < e then .infinite negative else .finite negative m e

theorem carried_of_canonical {m : ℕ} {e : ℤ} (h : Canonical m e) (negative : Bool) :
    carried negative m e = .finite negative m e := by
  have hgreatest := h.greatest
  simp only [carried, if_neg h.mantissa.ne]
  rw [if_neg (by omega)]

/-- A ratio is rounded at its exponent. -/
theorem ofRatio_eq_carried {num den : ℕ} (hnum : num ≠ 0) (negative : Bool) :
    ofRatio negative num den =
      carried negative
        (roundHalfEven
          (if 0 ≤ exponentOf num den then num else num * 2 ^ (-exponentOf num den).toNat)
          (if 0 ≤ exponentOf num den then den * 2 ^ (exponentOf num den).toNat else den))
        (exponentOf num den) := by
  simp only [ofRatio, if_neg hnum, Nat.pow_eq, carried]
  split <;> rfl

/-- A ratio is rounded at its exponent to the integer around which it lies there. -/
theorem ofRatio_eq_carried_of_roundsInt {num den m : ℕ} (hnum : num ≠ 0) (hden : den ≠ 0)
    (h : RoundsInt (num / den / 2 ^ exponentOf num den) m) (negative : Bool) :
    ofRatio negative num den = carried negative m (exponentOf num den) := by
  rw [ofRatio_eq_carried hnum, roundHalfEven_eq]
  · split
    · positivity
    · exact Nat.pos_of_ne_zero hden
  · rw [scaled_ratio]
    exact h

namespace Nearest

variable {m : ℕ} {e : ℤ} {q : ℚ}

/-- What rounds to a number has no more bits than its mantissa may have. -/
theorem lt_two_zpow (hm : Canonical m e) (h : Nearest m e q) : q < 2 ^ (e + 53) := by
  have hmantissa : (m : ℚ) + 1 ≤ 9007199254740992 := by exact_mod_cast hm.mantissa
  have hhigh := h.rounds.high
  rw [← div_two_zpow_lt_iff, two_zpow_53]
  linarith

/-- What has fewer bits rounds to a power of two from below. -/
theorem mantissa_of_lt (hm : Canonical m e) (h : Nearest m e q) (hmin : e ≠ leastExponent)
    (hbelow : q < 2 ^ (e + 52)) : m = 2 ^ 52 := by
  have hlarge : 2 ^ 52 ≤ m := hm.full.resolve_right hmin
  have hlow := h.rounds.low
  rw [← div_two_zpow_lt_iff, two_zpow_52] at hbelow
  have hlt : (m : ℚ) < (2 ^ 52 + 1 : ℕ) := by
    push_cast
    linarith
  have : m < 2 ^ 52 + 1 := by exact_mod_cast hlt
  omega

/-- There it has one bit less, and rounds to the integer that has one bit too many. -/
theorem rounds_of_lt (h : Nearest (2 ^ 52) e q) (hmin : e ≠ leastExponent)
    (hbelow : q < 2 ^ (e + 52)) :
    (2 : ℚ) ^ (e + 51) ≤ q ∧ RoundsInt (q / 2 ^ (e - 1)) (2 ^ 53) := by
  have hclose := h.close rfl hmin
  push_cast at hclose
  rw [← div_two_zpow_lt_iff, two_zpow_52] at hbelow
  have hdouble : q / 2 ^ (e - 1) = 2 * (q / 2 ^ e) := by
    rw [zpow_sub_one₀ (by norm_num)]
    ring
  constructor
  · have hhalf : (2 : ℚ) ^ (51 : ℤ) = 2251799813685248 := by norm_num
    rw [← not_lt, ← div_two_zpow_lt_iff, hhalf]
    linarith
  · rw [hdouble]
    refine ⟨?_, ?_, fun hodd => absurd hodd (by decide)⟩ <;> push_cast <;> linarith

end Nearest

/-- **A ratio is rounded to the number in whose neighbourhood it lies.** -/
theorem ofRatio_eq {num den m : ℕ} {e : ℤ} (hnum : num ≠ 0) (hden : den ≠ 0)
    (hm : Canonical m e) (h : Nearest m e (num / den)) (negative : Bool) :
    ofRatio negative num den = .finite negative m e := by
  obtain ⟨f, hlow, hhigh, hexponent⟩ := exponentOf_spec hnum hden
  have hleast := hm.least
  have hround (n : ℕ) (g : ℤ) (hg : exponentOf num den = g)
      (hn : RoundsInt (num / den / 2 ^ g) n) :
      ofRatio negative num den = carried negative n g := by
    rw [ofRatio_eq_carried_of_roundsInt hnum hden (hg ▸ hn), hg]
  generalize (num / den : ℚ) = q at *
  have hfe : f ≤ e := by
    have := two_zpow_lt_iff.1 (hlow.trans_lt (h.lt_two_zpow hm))
    omega
  by_cases hfull : e = leastExponent ∨ (2 : ℚ) ^ (e + 52) ≤ q
  · -- the ratio has the exponent of the number
    have hexponent : exponentOf num den = e := by
      rw [hexponent]
      rcases hfull with hmin | hfull
      · omega
      · have := two_zpow_lt_iff.1 (hfull.trans_lt hhigh)
        omega
    rw [hround m e hexponent h.rounds, carried_of_canonical hm]
  · -- the ratio lies below the power of two that the number is
    obtain ⟨hmin, hnot⟩ := not_or.1 hfull
    obtain rfl := h.mantissa_of_lt hm hmin (not_le.1 hnot)
    obtain ⟨hge, hrounds⟩ := h.rounds_of_lt hmin (not_le.1 hnot)
    have hexponent : exponentOf num den = e - 1 := by
      have hlt := two_zpow_lt_iff.1 (hlow.trans_lt (not_le.1 hnot))
      have := two_zpow_lt_iff.1 (hge.trans_lt hhigh)
      omega
    have hgreatest := hm.greatest
    rw [hround _ _ hexponent hrounds]
    simp only [carried, if_true, sub_add_cancel]
    rw [if_neg (by omega)]

/-- A mantissa of at most 53 bits, or the next one, makes a canonical number. -/
theorem exists_canonical_carried {m : ℕ} {e : ℤ} (hm : m ≤ 2 ^ 53)
    (hfull : 2 ^ 52 ≤ m ∨ e = leastExponent) (hleast : leastExponent ≤ e)
    (hgreatest : e < greatestExponent) (negative : Bool) :
    ∃ n f, Canonical n f ∧ carried negative m e = .finite negative n f := by
  rcases Nat.eq_or_lt_of_le hm with rfl | hlt
  · refine ⟨2 ^ 52, e + 1, ⟨by decide, .inl le_rfl, by omega, by omega⟩, ?_⟩
    simp only [carried, if_true]
    rw [if_neg (by omega)]
  · have hcanonical : Canonical m e := ⟨hlt, hfull, hleast, hgreatest.le⟩
    exact ⟨m, e, hcanonical, carried_of_canonical hcanonical negative⟩

/-- A ratio that is not too large is rounded to a finite number, which is canonical. -/
theorem exists_canonical_ofRatio {num den : ℕ} (hnum : num ≠ 0) (hden : den ≠ 0)
    (h : (num / den : ℚ) < 2 ^ (1023 : ℤ)) (negative : Bool) :
    ∃ m e, Canonical m e ∧ ofRatio negative num den = .finite negative m e := by
  obtain ⟨f, hlow, hhigh, hexponent⟩ := exponentOf_spec hnum hden
  have hf : f + 52 < 1023 := two_zpow_lt_iff.1 (hlow.trans_lt h)
  have hgreatest : exponentOf num den < greatestExponent := by
    simp only [hexponent, leastExponent, greatestExponent]
    omega
  rw [ofRatio_eq_carried hnum]
  generalize exponentOf num den = e at *
  have hscaled := scaled_ratio num den e
  have hpos : 0 < (if 0 ≤ e then den * 2 ^ e.toNat else den) := by
    split
    · positivity
    · exact Nat.pos_of_ne_zero hden
  generalize (if 0 ≤ e then den * 2 ^ e.toNat else den) = b at *
  generalize (if 0 ≤ e then num else num * 2 ^ (-e).toNat) = a at *
  have hb : (0 : ℚ) < b := by exact_mod_cast hpos
  have hle : roundHalfEven a b ≤ 2 ^ 53 := by
    refine roundHalfEven_le hpos ?_
    have hlt : (num / den : ℚ) < 2 ^ (e + 53) :=
      hhigh.trans_le (zpow_le_zpow_right₀ (by norm_num) (by omega))
    have := div_two_zpow_lt_iff.2 hlt
    rw [← hscaled, div_lt_iff₀ hb, two_zpow_53] at this
    have : a < 2 ^ 53 * b := by exact_mod_cast this
    exact this.le
  refine exists_canonical_carried hle ?_ (by omega) hgreatest negative
  by_cases hmin : e = leastExponent
  · exact .inr hmin
  · left
    refine le_roundHalfEven hpos ?_
    have hef : e = f := by omega
    have hge : ¬ (num / den : ℚ) < 2 ^ (e + 52) := not_lt.2 (hef ▸ hlow)
    rw [← div_two_zpow_lt_iff, ← hscaled, div_lt_iff₀ hb, two_zpow_52, not_lt] at hge
    exact_mod_cast hge

/-- **A ratio is rounded by half a unit of the last place at most.** -/
theorem near_ofRatio {num den m : ℕ} {e : ℤ} {negative : Bool} (hnum : num ≠ 0) (hden : den ≠ 0)
    (h : ofRatio negative num den = .finite negative m e) :
    |(m : ℚ) * 2 ^ e - num / den| ≤ 2 ^ e / 2 := by
  rw [ofRatio_eq_carried hnum] at h
  generalize exponentOf num den = f at h
  have hscaled := scaled_ratio num den f
  have hpos : 0 < (if 0 ≤ f then den * 2 ^ f.toNat else den) := by
    split
    · positivity
    · exact Nat.pos_of_ne_zero hden
  generalize (if 0 ≤ f then den * 2 ^ f.toNat else den) = b at *
  generalize (if 0 ≤ f then num else num * 2 ^ (-f).toNat) = a at *
  have hunit := two_zpow_pos f
  have hrounded : |(roundHalfEven a b : ℚ) * 2 ^ f - num / den| ≤ 2 ^ f / 2 := by
    have hratio : (num : ℚ) / den = a / b * 2 ^ f := by
      rw [hscaled, div_mul_cancel₀ _ hunit.ne']
    rw [hratio, ← sub_mul, abs_mul, abs_of_pos hunit]
    have hhalf : |(roundHalfEven a b : ℚ) - a / b| ≤ 1 / 2 := roundHalfEven_near hpos
    have hnear := mul_le_mul_of_nonneg_right hhalf hunit.le
    linarith
  by_cases hcarry : roundHalfEven a b = 2 ^ 53
  · -- one bit too many: the unit of the last place is twice as large
    simp only [carried, hcarry, if_true] at h
    split at h
    · cases h
    · obtain ⟨rfl, rfl⟩ : 2 ^ 52 = m ∧ f + 1 = e := by simpa using h
      have hdouble : (2 : ℚ) ^ (f + 1) = 2 * 2 ^ f := by
        rw [two_zpow_add]
        ring
      have hsame : ((2 ^ 52 : ℕ) : ℚ) * 2 ^ (f + 1) = ((2 ^ 53 : ℕ) : ℚ) * 2 ^ f := by
        rw [hdouble]
        push_cast
        ring
      rw [hsame, hdouble, ← hcarry]
      linarith
  · simp only [carried, if_neg hcarry] at h
    split at h
    · cases h
    · obtain ⟨rfl, rfl⟩ : roundHalfEven a b = m ∧ f = e := by simpa using h
      exact hrounded

end TabularQuery.Binary64
