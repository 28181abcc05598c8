import Mathlib.Algebra.Group.Nat.Defs
import Mathlib.Data.List.DropRight
import Mathlib.Data.List.TakeWhile
import TabularQuery.Text.Blank

/-!
# Runs of digits

The longest run of characters of a kind is cut off a text where it does not go on with
another one.  A run of decimal digits is read as a number, and the digits of a number are
read as that number, also with zeros before them.

## Main definitions

* `Text.Stops` — texts that do not begin with a character of a kind.
* `Text.Digits` — runs of decimal digits.
* `Text.readDigits_padded` — a number with zeros before it is read again.
-/

namespace TabularQuery.Text

/-! ## Runs -/

/-- A text does not begin with a character of a kind. -/
def Stops (p : Char → Bool) (s : List Char) : Prop :=
  ∀ c ∈ s.head?, p c = false

section Runs

variable {p : Char → Bool} {s t rest : List Char}

theorem stops_nil : Stops p [] := by
  intro c hc
  cases hc

theorem stops_cons {c : Char} : Stops p (c :: rest) ↔ p c = false := by
  simp [Stops]

theorem stops_append_of_ne_nil (hs : s ≠ []) : Stops p (s ++ t) ↔ Stops p s := by
  obtain ⟨c, rest, rfl⟩ := List.exists_cons_of_ne_nil hs
  rw [List.cons_append, stops_cons, stops_cons]

theorem Stops.dropWhile_eq (h : Stops p s) : s.dropWhile p = s := by
  cases s with
  | nil => rfl
  | cons c rest => rw [List.dropWhile_cons, stops_cons.1 h, if_neg Bool.false_ne_true]

theorem Stops.takeWhile_eq (h : Stops p s) : s.takeWhile p = [] := by
  cases s with
  | nil => rfl
  | cons c rest => rw [List.takeWhile_cons, stops_cons.1 h, if_neg Bool.false_ne_true]

/-- A run is what is taken from a text that does not go on with it. -/
theorem takeWhile_append (hs : ∀ c ∈ s, p c = true) (hrest : Stops p rest) :
    (s ++ rest).takeWhile p = s := by
  rw [List.takeWhile_append_of_pos hs, hrest.takeWhile_eq, List.append_nil]

theorem dropWhile_append (hs : ∀ c ∈ s, p c = true) (hrest : Stops p rest) :
    (s ++ rest).dropWhile p = rest := by
  rw [List.dropWhile_append_of_pos hs, hrest.dropWhile_eq]

/-- A run ends at a character of another kind, whatever follows it. -/
theorem takeWhile_append_cons {c : Char} (hc : p c = false) (s rest : List Char) :
    (s ++ c :: rest).takeWhile p = s.takeWhile p := by
  induction s with
  | nil => exact (stops_cons.2 hc).takeWhile_eq
  | cons d s ih => rw [List.cons_append, List.takeWhile_cons, List.takeWhile_cons, ih]

theorem dropWhile_append_cons {c : Char} (hc : p c = false) (s rest : List Char) :
    (s ++ c :: rest).dropWhile p = s.dropWhile p ++ c :: rest := by
  induction s with
  | nil => exact (stops_cons.2 hc).dropWhile_eq
  | cons d s ih =>
    rw [List.cons_append, List.dropWhile_cons, List.dropWhile_cons, ih]
    split <;> rfl

theorem rdropWhile_append_cons {c : Char} (hc : p c = false) (s rest : List Char) :
    (s ++ c :: rest).rdropWhile p = s ++ c :: rest.rdropWhile p := by
  simp [List.rdropWhile, dropWhile_append_cons hc]

end Runs

/-! ## Digits -/

/-- A digit is no other character. -/
theorem beq_of_isDigit {c d : Char} (hc : isDigit c = true) (hd : isDigit d = false) :
    (c == d) = false := by
  rw [beq_eq_false_iff_ne]
  rintro rfl
  rw [hc] at hd
  cases hd

/-- The digits by their codes. -/
theorem isDigit_iff {c : Char} : isDigit c = true ↔ 48 ≤ c.toNat ∧ c.toNat ≤ 57 := by
  simp only [isDigit, Bool.and_eq_true, decide_eq_true_eq, Char.le_def, UInt32.le_iff_toNat_le]
  exact Iff.rfl

/-- A digit is not a blank either. -/
theorem isBlank_of_isDigit {c : Char} (hc : isDigit c = true) : isBlank c = false := by
  have hcode := isDigit_iff.1 hc
  simp [isBlank]
  omega

theorem toLower_of_isDigit {c : Char} (h : isDigit c = true) : c.toLower = c := by
  have hcode : c.val.toNat ≤ 57 := (isDigit_iff.1 h).2
  have hcapital : 'A'.val.toNat = 65 := by decide
  have hsmall : ¬ (c.val ≥ 'A'.val ∧ c.val ≤ 'Z'.val) := by
    rw [ge_iff_le, UInt32.le_iff_toNat_le]
    omega
  exact dif_neg hsmall

/-- Decimal digits, at least one. -/
def Digits (s : List Char) : Prop :=
  s ≠ [] ∧ ∀ c ∈ s, isDigit c = true

theorem Digits.isEmpty_eq {s : List Char} (h : Digits s) : s.isEmpty = false := by
  simpa using h.1

theorem Digits.all_eq {s : List Char} (h : Digits s) : s.all isDigit = true :=
  List.all_eq_true.2 h.2

theorem Digits.not_stops {s t : List Char} (h : Digits s) : ¬ Stops isDigit (s ++ t) := by
  obtain ⟨c, rest, rfl⟩ := List.exists_cons_of_ne_nil h.1
  rw [List.cons_append, stops_cons, h.2 c List.mem_cons_self]
  exact Bool.noConfusion

theorem Digits.stops_isBlank {s : List Char} (h : Digits s) : Stops isBlank s := by
  obtain ⟨c, rest, rfl⟩ := List.exists_cons_of_ne_nil h.1
  exact stops_cons.2 (isBlank_of_isDigit (h.2 c List.mem_cons_self))

/-- The digits at the beginning of a text, if there are any. -/
theorem digits_takeWhile {s : List Char} (h : (s.takeWhile isDigit).isEmpty = false) :
    Digits (s.takeWhile isDigit) :=
  ⟨by simpa using h, fun _ => List.mem_takeWhile_imp⟩

theorem isDigit_eq (c : Char) : isDigit c = c.isDigit := by
  rw [isDigit, Char.isDigit]
  rfl

theorem isDigit_of_mem_digits {n : Nat} {c : Char} (h : c ∈ digits n) : isDigit c = true := by
  rw [isDigit_eq]
  exact Nat.isDigit_of_mem_toDigits (b := 10) (by decide) (by decide) h

theorem digits_digits (n : Nat) : Digits (digits n) :=
  ⟨Nat.toDigits_ne_nil, fun _ => isDigit_of_mem_digits⟩

theorem readDigits_eq (s : List Char) : readDigits s = Nat.ofDigitChars 10 s 0 :=
  rfl

/-- A number is read from its digits. -/
theorem readDigits_digits (n : Nat) : readDigits (digits n) = n :=
  Nat.ofDigitChars_toDigits (by decide) (by decide)

theorem readDigits_append (s t : List Char) :
    readDigits (s ++ t) = readDigits s * 10 ^ t.length + readDigits t := by
  rw [readDigits_eq, readDigits_eq, readDigits_eq, Nat.ofDigitChars_append,
    Nat.ofDigitChars_eq_ofDigitChars_zero, Nat.mul_comm]

theorem readDigits_cons (c : Char) (rest : List Char) :
    readDigits (c :: rest) = digitValue c * 10 ^ rest.length + readDigits rest := by
  rw [← List.singleton_append, readDigits_append]
  simp [readDigits]

theorem readDigits_zeros (n : Nat) : readDigits (List.replicate n '0') = 0 := by
  rw [readDigits_eq, Nat.ofDigitChars_replicate_zero]
  simp

theorem length_digits_le_iff {n k : Nat} (hk : 0 < k) : (digits n).length ≤ k ↔ n < 10 ^ k :=
  Nat.length_toDigits_le_iff (by decide) hk

theorem digitValue_lt {c : Char} (h : isDigit c = true) : digitValue c < 10 := by
  have hcode := (isDigit_iff.1 h).2
  have hzero : '0'.toNat = 48 := by decide
  rw [digitValue, hzero]
  omega

/-- A number that is read has no more digits than there were. -/
theorem readDigits_lt {s : List Char} (h : ∀ c ∈ s, isDigit c = true) :
    readDigits s < 10 ^ s.length := by
  induction s with
  | nil => decide
  | cons c rest ih =>
    obtain ⟨hc, hrest⟩ := List.forall_mem_cons.1 h
    have hlt := digitValue_lt hc
    have hle : digitValue c * 10 ^ rest.length ≤ 9 * 10 ^ rest.length :=
      Nat.mul_le_mul_right _ (by omega)
    have hlater := ih hrest
    rw [readDigits_cons, List.length_cons, Nat.pow_succ]
    omega

/-- The digits of a number do not begin with a zero, unless it is the only one. -/
theorem eq_nil_of_digits_eq {n : Nat} {rest : List Char} (h : digits n = '0' :: rest) :
    rest = [] := by
  by_contra hne
  have hpos : 0 < rest.length := List.length_pos_iff.2 hne
  have hdigits : ∀ c ∈ rest, isDigit c = true :=
    fun c hc => isDigit_of_mem_digits (h ▸ List.mem_cons_of_mem _ hc)
  have hread : readDigits rest = n := by
    rw [← readDigits_digits n, h, readDigits_cons]
    simp [digitValue]
  have hshort := (length_digits_le_iff hpos).2 (hread ▸ readDigits_lt hdigits)
  rw [h, List.length_cons] at hshort
  omega

/-! ## Digits with zeros before them -/

theorem digits_padded (width n : Nat) : Digits (padded width n) := by
  refine ⟨List.append_ne_nil_of_right_ne_nil _ (digits_digits n).1, fun c hc => ?_⟩
  rcases List.mem_append.1 hc with hc | hc
  · rw [List.eq_of_mem_replicate hc]
    decide
  · exact isDigit_of_mem_digits hc

theorem readDigits_padded (width n : Nat) : readDigits (padded width n) = n := by
  rw [padded, readDigits_append, readDigits_zeros, Nat.zero_mul, Nat.zero_add,
    readDigits_digits]

theorem length_padded {width n : Nat} (hwidth : 0 < width) (h : n < 10 ^ width) :
    (padded width n).length = width := by
  have hle := (length_digits_le_iff hwidth).2 h
  rw [padded, List.length_append, List.length_replicate, Nat.sub_add_cancel hle]

end TabularQuery.Text
