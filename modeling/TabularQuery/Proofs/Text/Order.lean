import TabularQuery.Proofs.Text.Digits
import TabularQuery.Text.Order

/-!
# The order of texts by their characters

The order by characters is the lexicographic order of the library.  Two numbers that are
written with equally many digits, zeros in front of the smaller one, are by their characters
in the order of the numbers.

## Main definitions

* `compareCharacters_append` — texts of one length decide before what comes after them.
* `compareCharacters_padded` — numbers of one width.
-/

namespace TabularQuery

open Std (TransCmp)

/-! ## Characters -/

theorem compareCharacters_eq_compareLex (a b : List Char) :
    compareCharacters a b = List.compareLex (compareOn Char.toNat) a b := by
  induction a generalizing b with
  | nil => cases b <;> rfl
  | cons c rest ih =>
    cases b with
    | nil => rfl
    | cons d more =>
      rw [compareCharacters, List.compareLex_cons_cons, ← ih, compareOn]
      cases compare c.toNat d.toNat <;> rfl

instance : TransCmp compareCharacters := by
  have hcompare : compareCharacters = List.compareLex (compareOn Char.toNat) := by
    funext a b
    exact compareCharacters_eq_compareLex a b
  rw [hcompare]
  infer_instance

/-- Texts are in the order of their characters. -/
theorem compareCharacters_eq_lt_iff {a b : List Char} : compareCharacters a b = .lt ↔ a < b := by
  induction a generalizing b with
  | nil => cases b <;> simp [compareCharacters]
  | cons c rest ih =>
    cases b with
    | nil => simp [compareCharacters]
    | cons d more =>
      have hlt : c < d ↔ compare c.toNat d.toNat = .lt := by
        rw [Nat.compare_eq_lt]
        rfl
      have heq : c = d ↔ compare c.toNat d.toNat = .eq := by
        rw [Nat.compare_eq_eq, Char.toNat_inj]
      rw [List.cons_lt_cons_iff, ← ih, compareCharacters, hlt, heq]
      cases compare c.toNat d.toNat <;> simp

/-- What comes after two texts of one length counts only where these are the same. -/
theorem compareCharacters_append {s t : List Char} (h : s.length = t.length)
    (u v : List Char) :
    compareCharacters (s ++ u) (t ++ v) =
      (compareCharacters s t).then (compareCharacters u v) := by
  induction s generalizing t with
  | nil =>
    obtain rfl := List.length_eq_zero_iff.1 h.symm
    rfl
  | cons c rest ih =>
    cases t with
    | nil => cases h
    | cons d more =>
      simp only [List.cons_append, compareCharacters]
      cases compare c.toNat d.toNat with
      | eq => exact ih (Nat.succ.inj h)
      | lt => rfl
      | gt => rfl

theorem compareCharacters_cons_self (c : Char) (u v : List Char) :
    compareCharacters (c :: u) (c :: v) = compareCharacters u v := by
  simp [compareCharacters]

/-! ## Digits -/

namespace Text

/-- A greater digit in front outweighs all digits behind. -/
theorem readDigits_lt_of_head {c d : Char} {s t : List Char} (hc : isDigit c = true)
    (hs : ∀ x ∈ s, isDigit x = true) (hlength : s.length = t.length) (h : c.toNat < d.toNat) :
    readDigits (c :: s) < readDigits (d :: t) := by
  have hzero : '0'.toNat = 48 := by decide
  have hcode := (isDigit_iff.1 hc).1
  have hvalue : digitValue c + 1 ≤ digitValue d := by
    rw [digitValue, digitValue, hzero]
    omega
  have hrest : readDigits s < 10 ^ t.length := hlength ▸ readDigits_lt hs
  have houtweighs := Nat.mul_le_mul_right (10 ^ t.length) hvalue
  rw [readDigits_cons, readDigits_cons, hlength]
  rw [Nat.succ_mul] at houtweighs
  omega

/-- **Numbers in equally many digits are in the order of their characters.** -/
theorem compareCharacters_eq_compare {s t : List Char} (hs : ∀ c ∈ s, isDigit c = true)
    (ht : ∀ c ∈ t, isDigit c = true) (h : s.length = t.length) :
    compareCharacters s t = compare (readDigits s) (readDigits t) := by
  induction s generalizing t with
  | nil =>
    obtain rfl := List.length_eq_zero_iff.1 h.symm
    rfl
  | cons c rest ih =>
    cases t with
    | nil => cases h
    | cons d more =>
      obtain ⟨hc, hrest⟩ := List.forall_mem_cons.1 hs
      obtain ⟨hd, hmore⟩ := List.forall_mem_cons.1 ht
      have hlength := Nat.succ.inj h
      rw [compareCharacters]
      rcases Nat.lt_trichotomy c.toNat d.toNat with hlt | heq | hgt
      · rw [Nat.compare_eq_lt.2 hlt,
          Nat.compare_eq_lt.2 (readDigits_lt_of_head hc hrest hlength hlt)]
      · obtain rfl := Char.toNat_inj.1 heq
        rw [Nat.compare_eq_eq.2 rfl, ih hrest hmore hlength, readDigits_cons, readDigits_cons,
          hlength]
        simp only [Nat.compare_eq_ite_lt, Nat.add_lt_add_iff_left]
      · rw [Nat.compare_eq_gt.2 hgt,
          Nat.compare_eq_gt.2 (readDigits_lt_of_head hd hmore hlength.symm hgt)]

/-- So are numbers that are written at one width, whatever comes after them. -/
theorem compareCharacters_padded {width m n : Nat} (hwidth : 0 < width) (hm : m < 10 ^ width)
    (hn : n < 10 ^ width) (u v : List Char) :
    compareCharacters (padded width m ++ u) (padded width n ++ v) =
      (compare m n).then (compareCharacters u v) := by
  have hlength : (padded width m).length = (padded width n).length := by
    rw [length_padded hwidth hm, length_padded hwidth hn]
  rw [compareCharacters_append hlength, compareCharacters_eq_compare (digits_padded width m).2
    (digits_padded width n).2 hlength, readDigits_padded, readDigits_padded]

end Text

end TabularQuery
