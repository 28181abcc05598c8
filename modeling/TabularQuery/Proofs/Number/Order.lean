import Mathlib.Algebra.Order.Ring.Unbundled.Basic
import Mathlib.Order.Compare
import Mathlib.Order.WithBot
import TabularQuery.Proofs.Number.Notation

/-!
# The order of numbers

The comparison of two numbers is that of their places on the line of the rationals with its
two ends; only what is not a number has no place there.  Every integer up to `2 ^ 53` is a
number of the format.  Beyond it several integers are rounded to one number, but none of them
is rounded to a smaller integer.

## Main definitions

* `Binary64.place` — where a number stands among the others.
* `Binary64.compare?_eq` — numbers are compared by their places.
* `Binary64.place_ofInt` — an integer up to `2 ^ 53` stands at its own place.
* `Binary64.ofInt_eq_iff` — an integer below `2 ^ 53` is rounded to a number of its own.
* `Binary64.compare?_ofInt_eq_iff` — integers are equal if they are rounded to one number.
-/

namespace TabularQuery.Binary64

/-! ## Places -/

/-- The rational that a finite number denotes. -/
def value (negative : Bool) (m : ℕ) (e : ℤ) : ℚ :=
  if negative then -(m * 2 ^ e) else m * 2 ^ e

/-- Where a number stands: at a rational or at one of the ends. -/
def place : Binary64 → WithBot (WithTop ℚ)
  | nan => ⊥
  | infinite negative => if negative then ⊥ else (⊤ : WithTop ℚ)
  | finite negative m e => (value negative m e : WithTop ℚ)

theorem scaled_mul {base e : ℤ} (h : base ≤ e) (negative : Bool) (m : ℕ) :
    (scaled base negative m e : ℚ) * 2 ^ base = value negative m e := by
  have hpower : ((2 ^ (e - base).toNat : ℕ) : ℚ) * 2 ^ base = 2 ^ e := by
    rw [two_zpow_toNat (by omega), ← two_zpow_add, sub_add_cancel]
  simp only [scaled, value, Nat.pow_eq]
  split
  · rw [← hpower]
    push_cast
    ring
  · rw [← hpower]
    push_cast
    ring

theorem compare_scaled {base e f : ℤ} (he : base ≤ e) (hf : base ≤ f) (s t : Bool) (m n : ℕ) :
    compare (scaled base s m e) (scaled base t n f) =
      compare (value s m e) (value t n f) := by
  rw [← cmp_eq_compare, ← cmp_eq_compare, ← scaled_mul he, ← scaled_mul hf,
    cmp_mul_pos_right (two_zpow_pos base)]
  exact (Int.cast_strictMono.cmp_map_eq _ _).symm

/-- **Numbers are compared by their places.** -/
theorem compare?_eq {x y : Binary64} (hx : x ≠ nan) (hy : y ≠ nan) :
    x.compare? y = some (compare x.place y.place) := by
  cases x with
  | nan => exact absurd rfl hx
  | infinite s =>
    cases y with
    | nan => exact absurd rfl hy
    | infinite t => cases s <;> cases t <;> rfl
    | finite t n f => cases s <;> rfl
  | finite s m e =>
    cases y with
    | nan => exact absurd rfl hy
    | infinite t => cases t <;> rfl
    | finite t n f =>
      have hmono : StrictMono fun q : ℚ => ((q : WithTop ℚ) : WithBot (WithTop ℚ)) :=
        fun p q h => WithBot.coe_lt_coe.2 (WithTop.coe_lt_coe.2 h)
      have hplace : compare (place (finite s m e)) (place (finite t n f)) =
          compare (value s m e) (value t n f) := by
        rw [← cmp_eq_compare, ← cmp_eq_compare]
        exact hmono.cmp_map_eq _ _
      rw [hplace, ← compare_scaled (min_le_left e f) (min_le_right e f)]
      rfl

/-- The comparison of two numbers turned around. -/
theorem compare?_swap (x y : Binary64) : y.compare? x = (x.compare? y).map Ordering.swap := by
  by_cases hx : x = nan
  · subst hx
    cases y <;> rfl
  · by_cases hy : y = nan
    · subst hy
      cases x <;> rfl
    · rw [compare?_eq hy hx, compare?_eq hx hy, Option.map_some, ← Std.OrientedOrd.eq_swap]

/-! ## Exact numbers -/

/-- What a number denotes rounds to it. -/
theorem Nearest.exact (m : ℕ) (e : ℤ) : Nearest m e (m * 2 ^ e) := by
  have hexact : (m : ℚ) * 2 ^ e / 2 ^ e = m := mul_div_cancel_right₀ _ (two_zpow_pos e).ne'
  refine ⟨⟨?_, ?_, fun _ => ⟨?_, ?_⟩⟩, fun _ _ => ?_⟩ <;> rw [hexact] <;> linarith

/-- A natural number up to `2 ^ 53` is a number of the format, and one below it has whole
units. -/
theorem exists_canonical_eq {n : ℕ} (h : n ≤ 2 ^ 53) :
    ∃ m e, Canonical m e ∧ (m : ℚ) * 2 ^ e = n ∧ (n < 2 ^ 53 → e ≤ 0) := by
  rcases Nat.eq_or_lt_of_le h with rfl | hlt
  · exact ⟨2 ^ 52, 1, ⟨by decide, .inl le_rfl, by decide, by decide⟩, by norm_num,
      fun hlt => absurd hlt (lt_irrefl _)⟩
  · by_cases hn : n = 0
    · subst hn
      exact ⟨0, leastExponent, ⟨by decide, .inr rfl, le_refl _, by decide⟩, by simp,
        fun _ => by decide⟩
    have hlog : n.log2 < 53 := (Nat.log2_lt hn).2 hlt
    have hshift : 2 ^ n.log2 * 2 ^ (52 - n.log2) = 2 ^ 52 := by
      rw [← Nat.pow_add]
      congr 1
      omega
    refine ⟨n * 2 ^ (52 - n.log2), n.log2 - 52, ⟨?_, .inl ?_, ?_, ?_⟩, ?_, fun _ => by omega⟩
    · calc n * 2 ^ (52 - n.log2) < 2 ^ (n.log2 + 1) * 2 ^ (52 - n.log2) :=
            Nat.mul_lt_mul_of_pos_right Nat.lt_log2_self (by positivity)
        _ = 2 ^ 52 * 2 := by rw [Nat.pow_succ, Nat.mul_right_comm, hshift]
        _ = 2 ^ 53 := by norm_num
    · rw [← hshift]
      exact Nat.mul_le_mul_right _ (Nat.log2_self_le hn)
    · simp only [leastExponent]
      omega
    · simp only [greatestExponent]
      omega
    · have hpower : ((2 : ℚ) ^ (52 - n.log2 : ℕ)) * 2 ^ ((n.log2 : ℤ) - 52) = 1 := by
        rw [← zpow_natCast, ← two_zpow_add]
        have hzero : ((52 - n.log2 : ℕ) : ℤ) + (n.log2 - 52) = 0 := by omega
        rw [hzero, zpow_zero]
      push_cast
      rw [mul_assoc, hpower, mul_one]

/-- An integer up to `2 ^ 53` is not rounded. -/
theorem ofInt_exact {i : ℤ} (h : i.natAbs ≤ 2 ^ 53) :
    ∃ m e, Canonical m e ∧ ofInt i = finite (i < 0) m e ∧ (m : ℚ) * 2 ^ e = i.natAbs ∧
      (i.natAbs < 2 ^ 53 → e ≤ 0) := by
  by_cases hi : i = 0
  · subst hi
    exact ⟨0, leastExponent, ⟨by decide, .inr rfl, le_refl _, by decide⟩, rfl, by simp,
      fun _ => by decide⟩
  · obtain ⟨m, e, hcanonical, hvalue, hunit⟩ := exists_canonical_eq h
    refine ⟨m, e, hcanonical, ?_, hvalue, hunit⟩
    refine ofRatio_eq (Int.natAbs_ne_zero.2 hi) one_ne_zero hcanonical ?_ _
    rw [Nat.cast_one, div_one, ← hvalue]
    exact .exact m e

theorem value_of_natAbs {i : ℤ} {m : ℕ} {e : ℤ} (h : (m : ℚ) * 2 ^ e = i.natAbs) :
    value (i < 0) m e = i := by
  rw [value, h, ← Int.cast_natCast]
  by_cases hi : i < 0
  · have habs : (i.natAbs : ℤ) = -i := by omega
    rw [if_pos (decide_eq_true hi), habs, Int.cast_neg, neg_neg]
  · have habs : (i.natAbs : ℤ) = i := by omega
    rw [if_neg (by simpa using hi), habs]

/-- **An integer up to `2 ^ 53` stands at its own place.** -/
theorem place_ofInt {i : ℤ} (h : i.natAbs ≤ 2 ^ 53) :
    (ofInt i).place = ((i : ℚ) : WithTop ℚ) := by
  obtain ⟨m, e, -, heq, hvalue, -⟩ := ofInt_exact h
  rw [heq, place, value_of_natAbs hvalue]

/-! ## Integers that are rounded -/

/-- The number nearest to an integer is at most half a unit of its last place away. -/
theorem near_ofInt {i : ℤ} {m : ℕ} {e : ℤ} (h : ofInt i = finite (i < 0) m e) :
    |(m : ℚ) * 2 ^ e - i.natAbs| ≤ 2 ^ e / 2 := by
  by_cases hi : i = 0
  · subst hi
    obtain ⟨-, rfl, -⟩ : false = false ∧ 0 = m ∧ leastExponent = e := by
      simpa [ofInt, ofRatio, zero] using h
    have hunit := two_zpow_pos e
    simp only [Nat.cast_zero, Int.natAbs_zero, zero_mul, sub_self, abs_zero]
    linarith
  · have hnear := near_ofRatio (Int.natAbs_ne_zero.2 hi) one_ne_zero h
    rwa [Nat.cast_one, div_one] at hnear

/-- **An integer below `2 ^ 53` is rounded to a number of its own.** -/
theorem ofInt_eq_iff {i j : ℤ} (hi : i.natAbs < 2 ^ 53) (hj : j.natAbs < 10 ^ 20) :
    ofInt i = ofInt j ↔ i = j := by
  refine ⟨fun h => ?_, congrArg ofInt⟩
  obtain ⟨m, e, -, hexact, hvalue, hunit⟩ := ofInt_exact hi.le
  obtain ⟨n, f, -, heq⟩ := exists_canonical_ofInt hj
  have hnear := near_ofInt heq
  rw [hexact, heq, finite.injEq] at h
  obtain ⟨hsign, rfl, rfl⟩ := h
  -- both are within half a unit of one number, and its unit is no more than one
  have hclose : |(i.natAbs : ℚ) - j.natAbs| < 1 := by
    have hle : (2 : ℚ) ^ e ≤ 2 ^ (0 : ℤ) := zpow_le_zpow_right₀ (by norm_num) (hunit hi)
    rw [zpow_zero] at hle
    rw [← hvalue]
    linarith
  have habs : |(i.natAbs : ℤ) - j.natAbs| < 1 := by exact_mod_cast hclose
  rw [Int.abs_lt_one_iff] at habs
  have hneg : i < 0 ↔ j < 0 := decide_eq_decide.1 hsign
  omega

/-! ## Equal numbers -/

/-- Of two finite numbers with the same value, neither has the larger exponent: its mantissa
would have too few bits, or the other one's too many. -/
theorem Canonical.exponent_le {m n : ℕ} {e f : ℤ} (hm : Canonical m e) (hn : Canonical n f)
    (h : (m : ℚ) * 2 ^ e = n * 2 ^ f) : f ≤ e := by
  by_contra hlt
  have hleast := hm.least
  have hfull : 2 ^ 52 ≤ n := hn.full.resolve_right (by omega)
  have hlarge : (2 : ℚ) ^ (f + 52) ≤ n * 2 ^ f := by
    have : ((2 ^ 52 : ℕ) : ℚ) ≤ n := by exact_mod_cast hfull
    rw [two_zpow_add, mul_comm, two_zpow_52]
    exact mul_le_mul_of_nonneg_right (by simpa using this) (two_zpow_pos f).le
  have hsmall : (m : ℚ) * 2 ^ e < 2 ^ (e + 53) := by
    have : (m : ℚ) < (2 ^ 53 : ℕ) := by exact_mod_cast hm.mantissa
    rw [two_zpow_add, mul_comm (2 ^ e), two_zpow_53]
    exact mul_lt_mul_of_pos_right (by simpa using this) (two_zpow_pos e)
  have := two_zpow_lt_iff.1 (hlarge.trans_lt (h ▸ hsmall))
  omega

/-- Two finite numbers with the same value are the same up to the sign of zero. -/
theorem Canonical.eq_of_value {m n : ℕ} {e f : ℤ} (hm : Canonical m e) (hn : Canonical n f)
    (h : (m : ℚ) * 2 ^ e = n * 2 ^ f) : m = n ∧ e = f := by
  obtain rfl : e = f := le_antisymm (hn.exponent_le hm h.symm) (hm.exponent_le hn h)
  have hmantissa := mul_right_cancel₀ (two_zpow_pos e).ne' h
  exact ⟨by exact_mod_cast hmantissa, rfl⟩

/-- Two finite numbers stand at one place if they are both zero, or the same. -/
theorem Canonical.value_eq_iff {m n : ℕ} {e f : ℤ} {s t : Bool} (hm : Canonical m e)
    (hn : Canonical n f) :
    value s m e = value t n f ↔ (m = 0 ∧ n = 0) ∨ finite s m e = finite t n f := by
  have hmPos : (0 : ℚ) ≤ m * 2 ^ e := mul_nonneg m.cast_nonneg (two_zpow_pos e).le
  have hnPos : (0 : ℚ) ≤ n * 2 ^ f := mul_nonneg n.cast_nonneg (two_zpow_pos f).le
  constructor
  · intro h
    have hsame : (m : ℚ) * 2 ^ e = n * 2 ^ f := by
      simp only [value] at h
      split_ifs at h <;> linarith
    obtain ⟨rfl, rfl⟩ := hm.eq_of_value hn hsame
    by_cases hzero : m = 0
    · exact .inl ⟨hzero, hzero⟩
    · right
      have hne : (m : ℚ) * 2 ^ e ≠ 0 :=
        mul_ne_zero (Nat.cast_ne_zero.2 hzero) (two_zpow_pos e).ne'
      -- with different signs, the value is its own negative
      have hsign : s = t := by
        by_contra hne'
        apply hne
        simp only [value] at h
        split_ifs at h with hs ht
        · exact absurd (hs.trans ht.symm) hne'
        · linarith
        · linarith
        · exact absurd ((Bool.eq_false_iff.2 hs).trans (Bool.eq_false_iff.2 ‹_›).symm) hne'
      rw [hsign]
  · rintro (⟨rfl, rfl⟩ | heq)
    · simp [value]
    · rw [finite.injEq] at heq
      obtain ⟨rfl, rfl, rfl⟩ := heq
      rfl

/-- Only zero is rounded to zero. -/
theorem eq_zero_of_ofInt {i : ℤ} {e : ℤ} (hzero : Canonical 0 e)
    (h : ofInt i = finite (i < 0) 0 e) : i = 0 := by
  have hnear := near_ofInt h
  obtain rfl := hzero.full.resolve_left (by decide)
  have hunit : (2 : ℚ) ^ leastExponent / 2 < 1 := by
    have : (2 : ℚ) ^ leastExponent ≤ 2 ^ (0 : ℤ) := zpow_le_zpow_right₀ (by norm_num) (by decide)
    rw [zpow_zero] at this
    linarith
  rw [Nat.cast_zero, zero_mul, zero_sub, abs_neg, Nat.abs_cast] at hnear
  have habs : (i.natAbs : ℚ) < (1 : ℕ) := by
    rw [Nat.cast_one]
    linarith
  have : i.natAbs < 1 := by exact_mod_cast habs
  omega

/-- **Two integers of 64 bits are compared as equal if they are rounded to one number.** -/
theorem compare?_ofInt_eq_iff {i j : ℤ} (hi : i.natAbs < 10 ^ 20) (hj : j.natAbs < 10 ^ 20) :
    (ofInt i).compare? (ofInt j) = some .eq ↔ ofInt i = ofInt j := by
  obtain ⟨m, e, hm, hival⟩ := exists_canonical_ofInt hi
  obtain ⟨n, f, hn, hjval⟩ := exists_canonical_ofInt hj
  rw [hival, hjval, compare?_eq (by simp) (by simp), Option.some.injEq, compare_eq_iff_eq, place,
    place, WithBot.coe_inj, WithTop.coe_inj, hm.value_eq_iff hn]
  refine or_iff_right_of_imp ?_
  rintro ⟨rfl, rfl⟩
  obtain rfl := eq_zero_of_ofInt hm hival
  obtain rfl := eq_zero_of_ofInt hn hjval
  rw [← hival, ← hjval]

end TabularQuery.Binary64
