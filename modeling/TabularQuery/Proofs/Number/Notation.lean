import Mathlib.Tactic.FieldSimp
import TabularQuery.Proofs.Number.Reading

/-!
# The notations of numbers

A decimal is written positionally or with an exponent, and a whole number may have a zero
after its point.  All these texts are texts of the grammar, and they denote the decimal.  So
plain text and JSON, which choose among them differently, denote the number that they were
made from.

## Main definitions

* `Decimal.exists_positional`, `Decimal.exists_scientific` — the notations of a decimal.
* `Binary64.Proper` — the finite numbers.
* `Binary64.exists_json`, `Binary64.exists_plain` — the texts of a number.
* `Json.NumberText.ofInteger` — the text of an integer.
-/

namespace TabularQuery

open Json (NumberText FractionText ExponentText SignText)
open Text (Digits)

/-! ## Decimals -/

namespace Text

theorem digits_zero : Digits ['0'] :=
  ⟨List.cons_ne_nil _ _, List.forall_mem_singleton.2 rfl⟩

theorem digits_zeros_append {s : List Char} (h : Digits s) (k : ℕ) :
    Digits (List.replicate k '0' ++ s) := by
  refine ⟨List.append_ne_nil_of_right_ne_nil _ h.1, fun c hc => ?_⟩
  rcases List.mem_append.1 hc with hc | hc
  · rw [List.eq_of_mem_replicate hc]
    decide
  · exact h.2 c hc

theorem digits_append_zeros {s : List Char} (h : Digits s) (k : ℕ) :
    Digits (s ++ List.replicate k '0') := by
  refine ⟨List.append_ne_nil_of_left_ne_nil h.1 _, fun c hc => ?_⟩
  rcases List.mem_append.1 hc with hc | hc
  · exact h.2 c hc
  · rw [List.eq_of_mem_replicate hc]
    decide

theorem digits_take {s : List Char} (h : Digits s) {k : ℕ} (hk : 0 < k) : Digits (s.take k) := by
  refine ⟨?_, fun c hc => h.2 c (List.mem_of_mem_take hc)⟩
  obtain ⟨c, rest, rfl⟩ := List.exists_cons_of_ne_nil h.1
  obtain ⟨k, rfl⟩ := Nat.exists_eq_succ_of_ne_zero (Nat.ne_of_gt hk)
  exact List.cons_ne_nil _ _

theorem digits_drop {s : List Char} (h : Digits s) {k : ℕ} (hk : k < s.length) :
    Digits (s.drop k) := by
  refine ⟨fun hnil => ?_, fun c hc => h.2 c (List.mem_of_mem_drop hc)⟩
  have := List.drop_eq_nil_iff.1 hnil
  omega

end Text

namespace Decimal

/-- A number has the digits of a decimal, perhaps with zeros after them, and the point at
its place. -/
theorem magnitude_eq {n : NumberText} {d : Decimal} {k : ℕ}
    (hcoefficient : n.coefficient = d.coefficient * 10 ^ k) (hshift : n.shift = d.exponent - k) :
    n.magnitude = d.value := by
  have hten : (10 : ℚ) ^ k ≠ 0 := by positivity
  rw [NumberText.magnitude, hcoefficient, hshift, value, zpow_sub₀ (by norm_num), zpow_natCast]
  push_cast
  field_simp

/-- A number without an exponent. -/
theorem unsigned_of {whole f : List Char} {fraction : Option (List Char)} (negative : Bool)
    (hwhole : Digits whole) (hzero : ∀ rest, whole = '0' :: rest → rest = [])
    (hf : FractionText fraction f) :
    NumberText.Unsigned ⟨negative, whole, fraction, none⟩ (whole ++ f) := by
  have h : NumberText.Unsigned ⟨negative, whole, fraction, none⟩ (whole ++ (f ++ [])) :=
    .mk hwhole hzero hf .absent
  simpa using h

variable {d : Decimal} {fraction : Option (List Char)} {tail : List Char}

theorem positional_eq {ds : List Char} (hds : Text.digits d.coefficient = ds) :
    d.positional tail =
      if (ds.length : ℤ) + d.exponent ≤ 0 then
        '0' :: '.' :: (List.replicate (-((ds.length : ℤ) + d.exponent)).toNat '0' ++ ds)
      else if ds.length ≤ ((ds.length : ℤ) + d.exponent).toNat then
        ds ++ List.replicate (((ds.length : ℤ) + d.exponent).toNat - ds.length) '0' ++ tail
      else
        ds.take ((ds.length : ℤ) + d.exponent).toNat ++
          '.' :: ds.drop ((ds.length : ℤ) + d.exponent).toNat := by
  subst hds
  rfl

/-- A decimal that is written positionally, zeros after the point of a whole number or none. -/
theorem exists_positional (hd : d.coefficient ≠ 0) (negative : Bool)
    (htail : FractionText fraction tail)
    (hzeros : Text.readDigits (fraction.getD []) = 0) :
    ∃ n : NumberText, n.negative = negative ∧ n.Unsigned (d.positional tail) ∧
      n.magnitude = d.value ∧ (fraction.isSome → n.fraction.isSome) := by
  have hds := Text.digits_digits d.coefficient
  have hread := Text.readDigits_digits d.coefficient
  have hlone (rest : List Char) : Text.digits d.coefficient ≠ '0' :: rest := by
    intro h
    obtain rfl := Text.eq_nil_of_digits_eq h
    rw [h] at hread
    exact hd hread.symm
  rw [positional_eq rfl]
  generalize Text.digits d.coefficient = ds at hds hread hlone ⊢
  have hlength : 0 < ds.length := List.length_pos_iff.2 hds.1
  split
  · -- the point is before the digits
    refine ⟨_, rfl, unsigned_of negative Text.digits_zero (by simp)
      (.present (Text.digits_zeros_append hds _)), magnitude_eq (k := 0) ?_ ?_, fun _ => rfl⟩
    · have hread' : Text.readDigits ['0'] = 0 := rfl
      simp only [NumberText.coefficient, Option.getD_some, Text.readDigits_append,
        Text.readDigits_zeros, hread', hread, Nat.zero_mul, Nat.zero_add, Nat.pow_zero, Nat.mul_one]
    · simp only [NumberText.shift, NumberText.power, Option.getD_some, List.length_append,
        List.length_replicate]
      omega
  · split
    · -- it is behind them
      refine ⟨_, rfl, unsigned_of negative (Text.digits_append_zeros hds _) ?_ htail,
        magnitude_eq (k := ((ds.length : ℤ) + d.exponent).toNat - ds.length +
          (fraction.getD []).length) ?_ ?_, id⟩
      · intro rest hrest
        obtain ⟨c, more, rfl⟩ := List.exists_cons_of_ne_nil hds.1
        rw [List.cons_append, List.cons.injEq] at hrest
        exact absurd (hrest.1 ▸ rfl) (hlone more)
      · simp only [NumberText.coefficient, Text.readDigits_append, Text.readDigits_zeros,
          List.length_replicate, hread, hzeros, Nat.add_zero, Nat.pow_add, Nat.mul_assoc]
      · simp only [NumberText.shift, NumberText.power]
        omega
    · -- it is among them
      refine ⟨_, rfl, unsigned_of negative (Text.digits_take hds (by omega)) ?_
        (.present (Text.digits_drop hds (by omega))), magnitude_eq (k := 0) ?_ ?_, fun _ => rfl⟩
      · intro rest hrest
        have hcons : ds = '0' :: (rest ++ ds.drop ((ds.length : ℤ) + d.exponent).toNat) := by
          rw [← List.cons_append, ← hrest, List.take_append_drop]
        exact absurd hcons (hlone _)
      · simp only [NumberText.coefficient, Option.getD_some, List.take_append_drop, hread,
          Nat.pow_zero, Nat.mul_one]
      · simp only [NumberText.shift, NumberText.power, Option.getD_some, List.length_drop]
        omega

theorem scientific_eq {c : Char} {rest : List Char} (h : Text.digits d.coefficient = c :: rest) :
    d.scientific =
      [c] ++ ((if rest = [] then [] else '.' :: rest) ++
        ('e' :: ((if (rest.length : ℤ) + d.exponent < 0 then ['-'] else ['+']) ++
          Text.digits ((rest.length : ℤ) + d.exponent).natAbs))) := by
  have hpoint : d.point = (c :: rest, ((rest.length + 1 : ℕ) : ℤ) + d.exponent) := by
    rw [point, h]
    rfl
  have hpower : ((rest.length + 1 : ℕ) : ℤ) + d.exponent - 1 = rest.length + d.exponent := by
    omega
  have hsign (e : ℤ) : (if e < 0 then ['-'] else ['+']) = [if e < 0 then '-' else '+'] := by
    split <;> rfl
  simp only [scientific, hpoint, hpower, hsign]
  cases rest <;> simp

/-- The exponent of a number in any notation. -/
theorem exists_exponent (e : ℤ) : ∃ below,
    ExponentText (some (below, Text.digits e.natAbs))
      ('e' :: ((if e < 0 then ['-'] else ['+']) ++ Text.digits e.natAbs)) ∧
    (if below then -(Text.readDigits (Text.digits e.natAbs) : ℤ)
      else Text.readDigits (Text.digits e.natAbs)) = e := by
  have hdigits := Text.digits_digits e.natAbs
  rw [Text.readDigits_digits]
  by_cases he : e < 0
  · rw [if_pos he]
    refine ⟨true, .present rfl .minus hdigits, ?_⟩
    rw [if_pos rfl]
    omega
  · rw [if_neg he]
    refine ⟨false, .present rfl .plus hdigits, ?_⟩
    rw [if_neg Bool.false_ne_true]
    omega

/-- A decimal that is written with an exponent. -/
theorem exists_scientific (d : Decimal) (negative : Bool) :
    ∃ n : NumberText, n.negative = negative ∧ n.Unsigned d.scientific ∧
      n.magnitude = d.value ∧ n.exponent.isSome := by
  have hds := Text.digits_digits d.coefficient
  have hread := Text.readDigits_digits d.coefficient
  obtain ⟨c, rest, hcons⟩ := List.exists_cons_of_ne_nil hds.1
  rw [hcons] at hds hread
  obtain ⟨below, htext, hpower⟩ := exists_exponent (rest.length + d.exponent)
  obtain ⟨fraction, hf, hrest⟩ : ∃ fraction,
      FractionText fraction (if rest = [] then [] else '.' :: rest) ∧ fraction.getD [] = rest := by
    by_cases hnil : rest = []
    · exact ⟨none, by rw [if_pos hnil]; exact .absent, hnil.symm⟩
    · have hdigits : Digits rest := ⟨hnil, fun c hc => hds.2 c (List.mem_cons_of_mem _ hc)⟩
      exact ⟨some rest, by rw [if_neg hnil]; exact .present hdigits, rfl⟩
  have hwhole : Digits [c] := ⟨List.cons_ne_nil _ _, by simpa using hds.2 c List.mem_cons_self⟩
  rw [scientific_eq hcons]
  refine ⟨⟨negative, [c], fraction, some (below, _)⟩, rfl, .mk hwhole (by simp) hf htext,
    magnitude_eq (k := 0) ?_ ?_, rfl⟩
  · simp only [NumberText.coefficient, hrest, List.singleton_append, hread, Nat.pow_zero,
      Nat.mul_one]
  · simp only [NumberText.shift, NumberText.power, hrest, hpower]
    omega

end Decimal

/-! ## Numbers -/

namespace Json.NumberText

variable {n : NumberText} {s : List Char}

/-- The sign is written before the number. -/
theorem writes_signed (h : n.Unsigned s) : n.Writes (if n.negative then '-' :: s else s) := by
  rw [Writes]
  split
  · exact ⟨s, rfl, h⟩
  · exact h

/-- Digits of which none counts denote zero. -/
theorem nearest_of_zero (h : n.coefficient = 0) : n.nearest = .zero n.negative := by
  rw [nearest, Binary64.ofDecimal, if_pos h]

/-- The text of an integer. -/
def ofInteger (i : ℤ) : NumberText :=
  ⟨i < 0, Text.digits i.natAbs, none, none⟩

theorem writes_integer (i : ℤ) : (ofInteger i).Writes (Text.integer i) := by
  have hunsigned : (ofInteger i).Unsigned (Text.digits i.natAbs) := by
    simpa [ofInteger] using Decimal.unsigned_of (decide (i < 0)) (Text.digits_digits i.natAbs)
      (fun _ => Text.eq_nil_of_digits_eq) .absent
  have hwrites := writes_signed hunsigned
  simpa [ofInteger, Text.integer] using hwrites

/-- An integer of 64 bits, signed or unsigned, is read as the number nearest to it. -/
theorem nearest_ofInteger {i : ℤ} (h : i.natAbs < 10 ^ 20) :
    (ofInteger i).nearest = .ofInt i := by
  have hcoefficient : (ofInteger i).coefficient = i.natAbs := by
    simp only [coefficient, ofInteger, Option.getD_none, List.append_nil, Text.readDigits_digits]
  have hshift : (ofInteger i).shift = 0 := rfl
  have hlength := (Text.length_digits_le_iff (by decide)).2 h
  rw [nearest, hcoefficient, hshift, Binary64.ofDecimal, Binary64.ofInt]
  split
  · rename_i hzero
    obtain rfl := Int.natAbs_eq_zero.1 hzero
    rfl
  · simp only [add_zero, le_refl, if_true, Int.toNat_zero, Nat.pow_eq, Nat.pow_zero, Nat.mul_one]
    rw [if_neg (by omega), if_neg (by omega)]
    rfl

end Json.NumberText

namespace Binary64

/-- A finite number of the format, zero of either sign among them. -/
def Proper : Binary64 → Prop
  | finite _ m e => Canonical m e
  | _ => False

theorem finite_zero {e : ℤ} (h : Canonical 0 e) (negative : Bool) :
    finite negative 0 e = zero negative := by
  rw [h.full.resolve_left (by decide), zero]

/-- Zero in digits, with a zero after the point or without. -/
theorem unsigned_zero {fraction : Option (List Char)} {tail : List Char} (negative : Bool)
    (htail : FractionText fraction tail) :
    NumberText.Unsigned ⟨negative, ['0'], fraction, none⟩ ('0' :: tail) :=
  Decimal.unsigned_of negative Text.digits_zero (by simp) htail

theorem fraction_zero : FractionText (some ['0']) ".0".toList :=
  .present Text.digits_zero

/-- The JSON text of a number has a point or an exponent, and denotes the number. -/
theorem exists_json {x : Binary64} (hx : x.Proper) :
    ∃ n : NumberText, n.Writes x.json ∧ n.nearest = x ∧
      (n.fraction.isSome ∨ n.exponent.isSome) := by
  cases x with
  | finite negative m e =>
    obtain ⟨n, hnegative, htext, hnearest, hmark⟩ : ∃ n : NumberText, n.negative = negative ∧
        n.Unsigned (if m = 0 then "0.0".toList
          else if -5 < (Decimal.shortest .even m e).point.2 ∧
              (Decimal.shortest .even m e).point.2 ≤ 16 then
            (Decimal.shortest .even m e).positional ".0".toList
          else (Decimal.shortest .even m e).scientific) ∧
        n.nearest = finite negative m e ∧ (n.fraction.isSome ∨ n.exponent.isSome) := by
      by_cases hm : m = 0
      · subst hm
        rw [if_pos rfl, finite_zero hx]
        exact ⟨_, rfl, unsigned_zero negative fraction_zero, NumberText.nearest_of_zero rfl,
          .inl rfl⟩
      · obtain ⟨hcoefficient, hrounds⟩ := Decimal.nearest_shortest .even hm hx
        rw [if_neg hm]
        split
        · obtain ⟨n, rfl, htext, hvalue, hmark⟩ :=
            Decimal.exists_positional hcoefficient negative fraction_zero rfl
          exact ⟨n, rfl, htext, NumberText.nearest_eq hm hx (hvalue ▸ hrounds), .inl (hmark rfl)⟩
        · obtain ⟨n, rfl, htext, hvalue, hmark⟩ :=
            Decimal.exists_scientific (Decimal.shortest .even m e) negative
          exact ⟨n, rfl, htext, NumberText.nearest_eq hm hx (hvalue ▸ hrounds), .inr hmark⟩
    refine ⟨n, ?_, hnearest, hmark⟩
    subst hnegative
    exact NumberText.writes_signed htext
  | nan => exact hx.elim
  | infinite negative => exact hx.elim

/-- So does its plain text. -/
theorem exists_plain {x : Binary64} (hx : x.Proper) :
    ∃ n : NumberText, n.Writes x.plain ∧ n.nearest = x := by
  cases x with
  | finite negative m e =>
    obtain ⟨n, hnegative, htext, hnearest⟩ : ∃ n : NumberText, n.negative = negative ∧
        n.Unsigned (if m = 0 then ['0'] else (Decimal.shortest .up m e).positional []) ∧
        n.nearest = finite negative m e := by
      by_cases hm : m = 0
      · subst hm
        rw [if_pos rfl, finite_zero hx]
        exact ⟨_, rfl, unsigned_zero negative .absent, NumberText.nearest_of_zero rfl⟩
      · obtain ⟨hcoefficient, hrounds⟩ := Decimal.nearest_shortest .up hm hx
        obtain ⟨n, rfl, htext, hvalue, -⟩ :=
          Decimal.exists_positional hcoefficient negative .absent rfl
        rw [if_neg hm]
        exact ⟨n, rfl, htext, NumberText.nearest_eq hm hx (hvalue ▸ hrounds)⟩
    refine ⟨n, ?_, hnearest⟩
    subst hnegative
    exact NumberText.writes_signed htext
  | nan => exact hx.elim
  | infinite negative => exact hx.elim

/-- **A number is read from its JSON text.** -/
theorem read?_json {x : Binary64} (hx : x.Proper) : read? x.json = some x := by
  obtain ⟨n, htext, hnearest, -⟩ := exists_json hx
  rw [NumberText.read?_eq htext, hnearest]

/-- **A number is read from its plain text.** -/
theorem read?_plain {x : Binary64} (hx : x.Proper) : read? x.plain = some x := by
  obtain ⟨n, htext, hnearest⟩ := exists_plain hx
  rw [NumberText.read?_eq htext, hnearest]

/-- An integer of 64 bits, signed or unsigned, is read as the number nearest to it. -/
theorem read?_integer {i : ℤ} (h : i.natAbs < 10 ^ 20) :
    read? (Text.integer i) = some (ofInt i) := by
  rw [NumberText.read?_eq (NumberText.writes_integer i), NumberText.nearest_ofInteger h]

/-- This number is finite. -/
theorem exists_canonical_ofInt {i : ℤ} (h : i.natAbs < 10 ^ 20) :
    ∃ m e, Canonical m e ∧ ofInt i = finite (i < 0) m e := by
  by_cases hi : i = 0
  · subst hi
    exact ⟨0, leastExponent, ⟨by decide, .inr rfl, le_refl _, by decide⟩, rfl⟩
  · have hsmall : ((i.natAbs : ℕ) / (1 : ℕ) : ℚ) < 2 ^ (1023 : ℤ) := by
      have hlt : i.natAbs < 2 ^ 1023 := h.trans (by decide +kernel)
      rw [Nat.cast_one, div_one]
      exact_mod_cast hlt
    exact exists_canonical_ofRatio (Int.natAbs_ne_zero.2 hi) one_ne_zero hsmall _

theorem proper_ofInt {i : ℤ} (h : i.natAbs < 10 ^ 20) : (ofInt i).Proper := by
  obtain ⟨m, e, hcanonical, heq⟩ := exists_canonical_ofInt h
  rw [heq]
  exact hcanonical

theorem ofInt_ne_nan {i : ℤ} (h : i.natAbs < 10 ^ 20) : ofInt i ≠ nan := by
  obtain ⟨m, e, -, heq⟩ := exists_canonical_ofInt h
  simp [heq]

end Binary64

end TabularQuery
