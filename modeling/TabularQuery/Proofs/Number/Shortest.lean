import TabularQuery.Number.Decimal
import TabularQuery.Proofs.Number.Rounding

/-!
# The shortest decimal of a number

The decimal that is written for a finite number lies in the neighbourhood of the number, so
that it rounds to the number again.  The search for it always has a hit: the last grid is
finer than half a unit of the last place.

## Main definitions

* `Decimal.value` — the rational that a decimal denotes.
* `Decimal.Inside` — the multiples of a power of ten in a neighbourhood.
* `Decimal.onGrid_spec` — what is found on a grid.
* `Decimal.nearest_shortest` — the decimal that is written rounds to its number.
-/

namespace TabularQuery.Decimal

open Binary64 (two_zpow_pos two_zpow_add two_zpow_toNat Canonical Nearest)

/-- The rational that a decimal denotes. -/
def value (d : Decimal) : ℚ :=
  d.coefficient * 10 ^ d.exponent

theorem ten_zpow_pos (k : ℤ) : (0 : ℚ) < 10 ^ k :=
  zpow_pos (by norm_num) k

/-! ## Neighbourhoods -/

theorem quarters (x : ℚ) (e : ℤ) : x * 2 ^ (e - 2) = x / 4 * 2 ^ e := by
  rw [zpow_sub₀ (by norm_num)]
  norm_num
  ring

/-- The lower end of a neighbourhood: half a unit below the number, or a quarter. -/
theorem low_eq {m : ℕ} (hm : m ≠ 0) (e : ℤ) :
    ((neighbourhood m e).1 : ℚ) =
      if m = 2 ^ 52 ∧ e ≠ Binary64.leastExponent then (4 * m - 1 : ℚ) else (4 * m - 2 : ℚ) := by
  have hone : 1 ≤ m := Nat.one_le_iff_ne_zero.2 hm
  simp only [neighbourhood, Nat.pow_eq]
  split
  · rw [Nat.cast_sub (by omega)]
    push_cast
    rfl
  · rw [Nat.cast_sub (by omega)]
    push_cast
    rfl

theorem low_ge {m : ℕ} (hm : m ≠ 0) (e : ℤ) : (4 * m - 2 : ℚ) ≤ (neighbourhood m e).1 := by
  rw [low_eq hm]
  split <;> linarith

theorem low_lt {m : ℕ} (hm : m ≠ 0) (e : ℤ) : ((neighbourhood m e).1 : ℚ) < 4 * m := by
  rw [low_eq hm]
  split <;> linarith

theorem high_eq (m : ℕ) (e : ℤ) : ((neighbourhood m e).2.2 : ℚ) = 4 * m + 2 := by
  simp only [neighbourhood]
  push_cast
  ring

/-! ## Grids -/

/-- A multiple of a power of ten, not zero, lies in the neighbourhood of a number; at its ends
only if the mantissa is even. -/
structure Inside (m : ℕ) (e k : ℤ) (n : ℕ) : Prop where
  ne_zero : n ≠ 0
  low : ((neighbourhood m e).1 : ℚ) * 2 ^ (e - 2) ≤ n * 10 ^ k
  high : (n : ℚ) * 10 ^ k ≤ (neighbourhood m e).2.2 * 2 ^ (e - 2)
  odd : m % 2 = 1 → ((neighbourhood m e).1 : ℚ) * 2 ^ (e - 2) < n * 10 ^ k ∧
    (n : ℚ) * 10 ^ k < (neighbourhood m e).2.2 * 2 ^ (e - 2)

/-- What lies in the neighbourhood of a number rounds to it. -/
theorem Inside.nearest {m : ℕ} {e k : ℤ} {n : ℕ} (hm : m ≠ 0) (h : Inside m e k n) :
    Nearest m e (n * 10 ^ k) := by
  have hpos := two_zpow_pos e
  have hlow := h.low
  have hhigh := h.high
  have hodd := h.odd
  simp only [quarters, high_eq, ← le_div_iff₀ hpos, ← div_le_iff₀ hpos, ← lt_div_iff₀ hpos,
    ← div_lt_iff₀ hpos] at hlow hhigh hodd
  have hge := low_ge hm e
  refine ⟨⟨by linarith, by linarith, fun h => ⟨?_, ?_⟩⟩, fun hpower hleast => ?_⟩
  · have := (hodd h).1
    linarith
  · have := (hodd h).2
    linarith
  · rw [low_eq hm, if_pos ⟨hpower, hleast⟩] at hlow
    linarith

/-- A multiple of a quarter of the last place over the common denominator of a grid. -/
def overGrid (e k : ℤ) (x : ℕ) : ℕ :=
  x * (if 0 ≤ e - 2 then 2 ^ (e - 2).toNat else 1) * (if 0 ≤ k then 1 else 10 ^ (-k).toNat)

/-- The unit of a grid over this denominator. -/
def gridUnit (e k : ℤ) : ℕ :=
  (if 0 ≤ k then 10 ^ k.toNat else 1) * (if 0 ≤ e - 2 then 1 else 2 ^ (-(e - 2)).toNat)

/-- Whether a multiple of the unit lies in the neighbourhood of a number. -/
def isInside (m : ℕ) (e k : ℤ) (n : ℕ) : Bool :=
  n != 0 &&
    (if m % 2 = 0 then
      overGrid e k (neighbourhood m e).1 ≤ n * gridUnit e k &&
        n * gridUnit e k ≤ overGrid e k (neighbourhood m e).2.2
    else
      overGrid e k (neighbourhood m e).1 < n * gridUnit e k &&
        n * gridUnit e k < overGrid e k (neighbourhood m e).2.2)

/-- Of two neighbours on a grid the one that is taken, if one is inside. -/
def nearer (tie : Tie) (inside : ℕ → Bool) (c down up : ℕ) : Option ℕ :=
  match inside c, inside (c + 1) with
  | false, false => none
  | true, false => some c
  | false, true => some (c + 1)
  | true, true =>
    if down < up then some c
    else if up < down then some (c + 1)
    else match tie with
      | .up => some (c + 1)
      | .even => some (c + c % 2)

theorem onGrid_eq_nearer (tie : Tie) (m : ℕ) (e k : ℤ) :
    onGrid tie m e k =
      let c := overGrid e k (4 * m) / gridUnit e k
      nearer tie (isInside m e k) c (overGrid e k (4 * m) - c * gridUnit e k)
        ((c + 1) * gridUnit e k - overGrid e k (4 * m)) :=
  rfl

/-- One that is inside is taken, if the upper one is. -/
theorem nearer_cases (tie : Tie) (inside : ℕ → Bool) (c down up : ℕ) :
    nearer tie inside c down up = none ∧ inside (c + 1) = false ∨
      ∃ n, nearer tie inside c down up = some n ∧ inside n = true := by
  unfold nearer
  cases hlow : inside c <;> cases hhigh : inside (c + 1)
  · exact .inl ⟨rfl, rfl⟩
  · exact .inr ⟨c + 1, rfl, hhigh⟩
  · exact .inr ⟨c, rfl, hlow⟩
  · right
    dsimp only
    split
    · exact ⟨c, rfl, hlow⟩
    · split
      · exact ⟨c + 1, rfl, hhigh⟩
      · cases tie with
        | up => exact ⟨c + 1, rfl, hhigh⟩
        | even =>
          refine ⟨c + c % 2, rfl, ?_⟩
          rcases Nat.mod_two_eq_zero_or_one c with h | h <;> rwa [h]

/-- A power with an exponent of either sign as a fraction, of which one side is one. -/
theorem zpow_eq_div {b : ℕ} (hb : b ≠ 0) (e : ℤ) :
    ((if 0 ≤ e then b ^ e.toNat else 1 : ℕ) : ℚ) =
      b ^ e * (if 0 ≤ e then 1 else b ^ (-e).toNat : ℕ) := by
  have hb : (b : ℚ) ≠ 0 := by exact_mod_cast hb
  split
  · rename_i h
    obtain ⟨n, rfl⟩ := Int.eq_ofNat_of_zero_le h
    simp
  · rename_i h
    obtain ⟨n, hn⟩ := Int.eq_ofNat_of_zero_le (show 0 ≤ -e by omega)
    obtain rfl : e = -(n : ℤ) := by omega
    simp [hb]

/-- The two sides over their common denominator. -/
theorem exists_denominator (e k : ℤ) : ∃ d : ℚ, 0 < d ∧
    (∀ x : ℕ, (overGrid e k x : ℚ) = x * 2 ^ (e - 2) * d) ∧ (gridUnit e k : ℚ) = 10 ^ k * d := by
  have htwo := zpow_eq_div two_ne_zero (e - 2)
  have hten := zpow_eq_div (show 10 ≠ 0 by decide) k
  have htwoPos : 0 < (if 0 ≤ e - 2 then 1 else 2 ^ (-(e - 2)).toNat) := by
    split <;> positivity
  have htenPos : 0 < (if 0 ≤ k then 1 else 10 ^ (-k).toNat) := by
    split <;> positivity
  simp only [overGrid, gridUnit, Nat.cast_mul, htwo, hten]
  generalize (if 0 ≤ e - 2 then 1 else 2 ^ (-(e - 2)).toNat) = two at *
  generalize (if 0 ≤ k then 1 else 10 ^ (-k).toNat) = ten at *
  refine ⟨two * ten, ?_, fun x => ?_, ?_⟩
  · exact_mod_cast Nat.mul_pos htwoPos htenPos
  · push_cast
    ring
  · push_cast
    ring

theorem overGrid_le_iff (e k : ℤ) (x n : ℕ) :
    overGrid e k x ≤ n * gridUnit e k ↔ (x : ℚ) * 2 ^ (e - 2) ≤ n * 10 ^ k := by
  obtain ⟨d, hd, hover, hunit⟩ := exists_denominator e k
  rw [← mul_le_mul_iff_of_pos_right hd, ← hover, mul_assoc, ← hunit]
  exact_mod_cast Iff.rfl

theorem le_overGrid_iff (e k : ℤ) (x n : ℕ) :
    n * gridUnit e k ≤ overGrid e k x ↔ (n : ℚ) * 10 ^ k ≤ x * 2 ^ (e - 2) := by
  obtain ⟨d, hd, hover, hunit⟩ := exists_denominator e k
  rw [← mul_le_mul_iff_of_pos_right hd, ← hover, mul_assoc, ← hunit]
  exact_mod_cast Iff.rfl

theorem gridUnit_pos (e k : ℤ) : 0 < gridUnit e k := by
  obtain ⟨d, hd, -, hunit⟩ := exists_denominator e k
  have : (0 : ℚ) < gridUnit e k := by
    rw [hunit]
    exact mul_pos (ten_zpow_pos k) hd
  exact_mod_cast this

theorem isInside_iff {m : ℕ} {e k : ℤ} {n : ℕ} : isInside m e k n = true ↔ Inside m e k n := by
  have hlt (x n : ℕ) : overGrid e k x < n * gridUnit e k ↔
      (x : ℚ) * 2 ^ (e - 2) < n * 10 ^ k := by
    rw [← not_le, le_overGrid_iff, not_le]
  have hgt (x n : ℕ) : n * gridUnit e k < overGrid e k x ↔
      (n : ℚ) * 10 ^ k < x * 2 ^ (e - 2) := by
    rw [← not_le, overGrid_le_iff, not_le]
  rw [isInside, Bool.and_eq_true, bne_iff_ne]
  split
  · rename_i heven
    rw [Bool.and_eq_true, decide_eq_true_eq, decide_eq_true_eq, overGrid_le_iff, le_overGrid_iff]
    refine ⟨fun ⟨hn, hlow, hhigh⟩ => ⟨hn, hlow, hhigh, fun hodd => ?_⟩,
      fun h => ⟨h.ne_zero, h.low, h.high⟩⟩
    omega
  · rename_i hodd
    rw [Bool.and_eq_true, decide_eq_true_eq, decide_eq_true_eq, hlt, hgt]
    refine ⟨fun ⟨hn, hlow, hhigh⟩ => ⟨hn, hlow.le, hhigh.le, fun _ => ⟨hlow, hhigh⟩⟩,
      fun h => ⟨h.ne_zero, h.odd ?_⟩⟩
    omega

/-- What is found on a grid.  The number lies between two neighbours on the grid; if one of
them is in its neighbourhood, one that is gets found. -/
theorem onGrid_spec (tie : Tie) (m : ℕ) (e k : ℤ) :
    ∃ c : ℕ, (c : ℚ) * 10 ^ k ≤ m * 2 ^ e ∧ (m : ℚ) * 2 ^ e < (c + 1 : ℕ) * 10 ^ k ∧
      (onGrid tie m e k = none ∧ ¬ Inside m e k (c + 1) ∨
        ∃ n, onGrid tie m e k = some n ∧ Inside m e k n) := by
  have hfour : ((4 * m : ℕ) : ℚ) * 2 ^ (e - 2) = m * 2 ^ e := by
    rw [quarters]
    push_cast
    ring
  rw [onGrid_eq_nearer]
  refine ⟨overGrid e k (4 * m) / gridUnit e k, ?_, ?_, ?_⟩
  · rw [← hfour, ← le_overGrid_iff]
    exact Nat.div_mul_le_self _ _
  · rw [← hfour, ← not_le, ← le_overGrid_iff, not_le, Nat.mul_comm _ (gridUnit e k)]
    exact Nat.lt_mul_div_succ _ (gridUnit_pos e k)
  · rcases nearer_cases tie (isInside m e k) _ _ _ with ⟨hnone, hnot⟩ | ⟨n, hn, h⟩
    · exact .inl ⟨hnone, fun h => by rw [isInside_iff.2 h] at hnot; cases hnot⟩
    · exact .inr ⟨n, hn, isInside_iff.1 h⟩

/-- A grid that is finer than half a unit of the last place has a hit. -/
theorem isSome_onGrid (tie : Tie) {m : ℕ} {e k : ℤ} (hm : m ≠ 0) (h : (10 : ℚ) ^ k < 2 ^ (e - 1)) :
    (onGrid tie m e k).isSome := by
  obtain ⟨c, hlow, hhigh, ⟨hnone, hnot⟩ | ⟨n, hn, -⟩⟩ := onGrid_spec tie m e k
  · have hhalf : (2 : ℚ) ^ (e - 1) = 1 / 2 * 2 ^ e := by
      rw [zpow_sub_one₀ (by norm_num)]
      ring
    have hpos := two_zpow_pos e
    rw [hhalf] at h
    -- the upper neighbour is above the number by less than half a unit
    have hlow' : (neighbourhood m e).1 / 4 * (2 : ℚ) ^ e < (c + 1 : ℕ) * 10 ^ k := by
      refine lt_trans (mul_lt_mul_of_pos_right ?_ hpos) hhigh
      have := low_lt hm e
      linarith
    have hhigh' : ((c + 1 : ℕ) : ℚ) * 10 ^ k < (4 * m + 2) / 4 * 2 ^ e := by
      push_cast
      linarith
    rw [← quarters] at hlow'
    rw [← quarters, ← high_eq m e] at hhigh'
    exact absurd ⟨Nat.succ_ne_zero c, hlow'.le, hhigh'.le, fun _ => ⟨hlow', hhigh'⟩⟩ hnot
  · rw [hn]
    rfl

/-! ## The search -/

/-- The search ends with the hit of a grid if there is one among those it tries. -/
theorem search_spec (tie : Tie) {m : ℕ} {e k : ℤ} {fuel j : ℕ} (hj : j < fuel)
    (h : (onGrid tie m e (k - j)).isSome) :
    onGrid tie m e (search tie m e fuel k).exponent =
      some (search tie m e fuel k).coefficient := by
  induction fuel generalizing k j with
  | zero => omega
  | succ fuel ih =>
    rw [search]
    split
    · rename_i c hc
      exact hc
    · rename_i hnone
      cases j with
      | zero =>
        rw [Int.natCast_zero, sub_zero, hnone] at h
        cases h
      | succ j =>
        refine ih (Nat.lt_of_succ_lt_succ hj) ?_
        rwa [sub_sub, add_comm, ← Nat.cast_succ]

/-- Powers of ten and of two. -/
theorem ten_zpow_lt_two_zpow {a b : ℤ} (h₁ : 10 * a < 3 * b) (h₂ : 33 * a < 10 * b) :
    (10 : ℚ) ^ a < 2 ^ b := by
  have htwo (c : ℤ) (n : ℕ) : (2 : ℚ) ^ (c * n) = (2 ^ c) ^ n := by
    rw [zpow_mul, zpow_natCast]
  rcases le_or_gt 0 a with ha | ha
  · -- a thousand is less than the tenth power of two
    obtain ⟨n, rfl⟩ := Int.eq_ofNat_of_zero_le ha
    refine lt_of_pow_lt_pow_left₀ 3 (two_zpow_pos b).le ?_
    calc ((10 : ℚ) ^ (n : ℤ)) ^ 3 = (10 ^ 3) ^ n := by
          rw [zpow_natCast, ← pow_mul, ← pow_mul, Nat.mul_comm]
      _ ≤ (2 ^ (10 : ℤ)) ^ n := pow_le_pow_left₀ (by norm_num) (by norm_num) n
      _ = 2 ^ (10 * (n : ℤ)) := (htwo 10 n).symm
      _ < 2 ^ (b * (3 : ℕ)) := zpow_lt_zpow_right₀ (by norm_num) (by omega)
      _ = (2 ^ b) ^ 3 := htwo b 3
  · -- and the tenth power of ten is more than the thirty-third of two
    obtain ⟨n, hn⟩ := Int.eq_ofNat_of_zero_le (show 0 ≤ -a by omega)
    obtain rfl : a = -(n : ℤ) := by omega
    have hinv : (2 : ℚ) ^ (-b) < 10 ^ n := by
      refine lt_of_pow_lt_pow_left₀ 10 (by positivity) ?_
      calc ((2 : ℚ) ^ (-b)) ^ 10 = 2 ^ (-b * (10 : ℕ)) := (htwo (-b) 10).symm
        _ < 2 ^ (33 * (n : ℤ)) := zpow_lt_zpow_right₀ (by norm_num) (by omega)
        _ = (2 ^ (33 : ℤ)) ^ n := htwo 33 n
        _ ≤ (10 ^ 10) ^ n := pow_le_pow_left₀ (by norm_num) (by norm_num) n
        _ = (10 ^ n) ^ 10 := by rw [← pow_mul, ← pow_mul, Nat.mul_comm]
    rw [zpow_neg, zpow_natCast]
    rw [zpow_neg] at hinv
    exact (inv_lt_comm₀ (two_zpow_pos b) (by positivity)).1 hinv

/-- **The decimal that is written for a finite number rounds to it.** -/
theorem nearest_shortest (tie : Tie) {m : ℕ} {e : ℤ} (hm : m ≠ 0) (h : Canonical m e) :
    (shortest tie m e).coefficient ≠ 0 ∧ Nearest m e (shortest tie m e).value := by
  have hlog : m.log2 < 53 := (Nat.log2_lt hm).2 h.mantissa
  have hleast := h.least
  have hgreatest := h.greatest
  simp only [Binary64.leastExponent, Binary64.greatestExponent] at hleast hgreatest
  have hhit : onGrid tie m e (shortest tie m e).exponent =
      some (shortest tie m e).coefficient := by
    rw [shortest]
    refine search_spec tie (j := 21) (by decide) (isSome_onGrid tie hm ?_)
    refine ten_zpow_lt_two_zpow ?_ ?_ <;> push_cast <;> omega
  obtain ⟨c, -, -, ⟨hnone, -⟩ | ⟨n, hn, hinside⟩⟩ := onGrid_spec tie m e (shortest tie m e).exponent
  · rw [hnone] at hhit
    cases hhit
  · obtain rfl : n = (shortest tie m e).coefficient := Option.some.inj (hn.symm.trans hhit)
    exact ⟨hinside.ne_zero, hinside.nearest hm⟩

end TabularQuery.Decimal
