import TabularQuery.Number.Reading
import TabularQuery.Proofs.Json.Tokens
import TabularQuery.Proofs.Number.Shortest

/-!
# Numbers that are read again

A decimal is read as the number nearest to it, whatever its notation.  Plain text and JSON
write a number with two decimals that may differ, in notations that do; both are read as the
number.

## Main definitions

* `Binary64.ofDecimal_eq` — a decimal that rounds to a number is read as it.
* `Json.NumberText.nearest` — the number that the text of a number denotes.
* `Json.NumberText.read?_eq` — it is what is read.
* `Binary64.Regular` — the finite numbers.
* `Binary64.read?_json`, `Binary64.read?_plain` — a number is read from its texts.
-/

namespace TabularQuery

open Text (Stops Digits)

/-! ## Decimals -/

namespace Binary64

theorem ten_zpow_pred_le {c : ℕ} (hc : c ≠ 0) (k : ℤ) :
    (10 : ℚ) ^ (((Text.digits c).length : ℤ) + k - 1) ≤ c * 10 ^ k := by
  have hpos : 0 < (Text.digits c).length := List.length_pos_iff.2 (Text.digits_digits c).1
  obtain ⟨n, hn⟩ : ∃ n, (Text.digits c).length = n + 1 := ⟨_, (Nat.succ_pred_eq_of_pos hpos).symm⟩
  have hle : 10 ^ n ≤ c := by
    rcases Nat.eq_zero_or_pos n with rfl | hn'
    · exact Nat.one_le_iff_ne_zero.2 hc
    · by_contra hlt
      have := (Text.length_digits_le_iff hn').2 (not_le.1 hlt)
      omega
  have hexponent : ((Text.digits c).length : ℤ) + k - 1 = n + k := by omega
  rw [hexponent, zpow_add₀ (by norm_num), zpow_natCast]
  refine mul_le_mul_of_nonneg_right ?_ (Decimal.ten_zpow_pos k).le
  exact_mod_cast hle

theorem lt_ten_zpow (c : ℕ) (k : ℤ) :
    (c : ℚ) * 10 ^ k < 10 ^ (((Text.digits c).length : ℤ) + k) := by
  have hpos : 0 < (Text.digits c).length := List.length_pos_iff.2 (Text.digits_digits c).1
  have hlt := (Text.length_digits_le_iff hpos).1 (le_refl (Text.digits c).length)
  rw [zpow_add₀ (by norm_num), zpow_natCast]
  refine mul_lt_mul_of_pos_right ?_ (Decimal.ten_zpow_pos k)
  exact_mod_cast hlt

/-- What rounds to a number is below the range of the format. -/
theorem Nearest.lt {m : ℕ} {e : ℤ} {q : ℚ} (hm : Canonical m e) (h : Nearest m e q) :
    q < 10 ^ (310 : ℤ) := by
  have hlarge : (2 : ℚ) ^ (1024 : ℤ) < 10 ^ (310 : ℤ) := by
    have : 2 ^ 1024 < 10 ^ 310 := by decide +kernel
    exact_mod_cast this
  have hgreatest := hm.greatest
  rw [greatestExponent] at hgreatest
  calc q < 2 ^ (e + 53) := h.lt_two_zpow hm
    _ ≤ 2 ^ (1024 : ℤ) := zpow_le_zpow_right₀ (by norm_num) (by omega)
    _ < 10 ^ (310 : ℤ) := hlarge

/-- What rounds to a number other than zero is not below half of the least one. -/
theorem Nearest.gt {m : ℕ} {e : ℤ} {q : ℚ} (hzero : m ≠ 0) (hm : Canonical m e)
    (h : Nearest m e q) : 10 ^ (-331 : ℤ) < q := by
  have hone : (1 : ℚ) ≤ m := by exact_mod_cast Nat.one_le_iff_ne_zero.2 hzero
  have hhalf : (2 : ℚ) ^ (-1 : ℤ) ≤ q / 2 ^ e := by
    have hlow := h.rounds.low
    have : (2 : ℚ) ^ (-1 : ℤ) = 1 / 2 := by norm_num
    linarith
  have hleast := hm.least
  rw [leastExponent] at hleast
  have hscaled : (2 : ℚ) ^ (e + -1) ≤ q := by
    rw [← not_lt, ← div_two_zpow_lt_iff, not_lt]
    exact hhalf
  calc (10 : ℚ) ^ (-331 : ℤ) < 2 ^ (-1075 : ℤ) :=
        Decimal.ten_zpow_lt_two_zpow (by norm_num) (by norm_num)
    _ ≤ 2 ^ (e + -1) := zpow_le_zpow_right₀ (by norm_num) (by omega)
    _ ≤ q := hscaled

/-- **A decimal that rounds to a number is read as it**: neither its length nor the two ways
to take a power of ten matter. -/
theorem ofDecimal_eq {c m : ℕ} {e k : ℤ} (hzero : m ≠ 0) (hm : Canonical m e)
    (h : Nearest m e (c * 10 ^ k)) (negative : Bool) :
    ofDecimal negative c k = .finite negative m e := by
  have hc : c ≠ 0 := by
    rintro rfl
    have := (Decimal.ten_zpow_pos (-331)).trans (h.gt hzero hm)
    simp at this
  have hlow : ¬ 310 < ((Text.digits c).length : ℤ) + k := by
    intro hlarge
    have hle := (ten_zpow_pred_le hc k).trans_lt (h.lt hm)
    have := (zpow_lt_zpow_iff_right₀ (by norm_num)).1 hle
    omega
  have hhigh : ¬ ((Text.digits c).length : ℤ) + k < -330 := by
    intro hsmall
    have hlt := (h.gt hzero hm).trans (lt_ten_zpow c k)
    have := (zpow_lt_zpow_iff_right₀ (by norm_num)).1 hlt
    omega
  simp only [ofDecimal, if_neg hc, if_neg hlow, if_neg hhigh, Nat.pow_eq]
  split
  · rename_i hk
    obtain ⟨n, rfl⟩ := Int.eq_ofNat_of_zero_le hk
    refine ofRatio_eq (mul_ne_zero hc (by positivity)) one_ne_zero hm ?_ negative
    simpa using h
  · rename_i hk
    obtain ⟨n, hn⟩ := Int.eq_ofNat_of_zero_le (show 0 ≤ -k by omega)
    obtain rfl : k = -(n : ℤ) := by omega
    refine ofRatio_eq hc (by positivity) hm ?_ negative
    simpa [div_eq_mul_inv] using h

end Binary64

/-! ## The texts of numbers -/

namespace Json.NumberText

variable {n : NumberText} {s : List Char}

/-- The digits of a number as one integer. -/
def coefficient (n : NumberText) : ℕ :=
  Text.readDigits (n.whole ++ n.fraction.getD [])

/-- The exponent that is written. -/
def power (n : NumberText) : ℤ :=
  match n.exponent with
  | none => 0
  | some (below, ds) => if below then -(Text.readDigits ds : ℤ) else Text.readDigits ds

/-- The power of ten by which the digits are multiplied. -/
def shift (n : NumberText) : ℤ :=
  n.power - (n.fraction.getD []).length

/-- The rational that a number denotes, without its sign. -/
def magnitude (n : NumberText) : ℚ :=
  n.coefficient * 10 ^ n.shift

/-- The number that is nearest to it. -/
def nearest (n : NumberText) : Binary64 :=
  .ofDecimal n.negative n.coefficient n.shift

/-- What rounds to a number denotes it. -/
theorem nearest_eq {m : ℕ} {e : ℤ} (hzero : m ≠ 0) (hm : Binary64.Canonical m e)
    (h : Binary64.Nearest m e n.magnitude) : n.nearest = .finite n.negative m e :=
  Binary64.ofDecimal_eq hzero hm h n.negative

theorem readExponent_eq (h : ExponentText n.exponent s) :
    Binary64.readExponent s = some n.power := by
  obtain ⟨negative, whole, fraction, exponent⟩ := n
  cases h with
  | absent => rfl
  | present hletter hsign hds =>
    rename_i letter below sign ds
    have hstops : Stops (fun c => c == '+' || c == '-') ds := by
      simpa using stops_sign hds []
    simp only [Binary64.readExponent, if_pos hletter, readSign_append hsign hstops,
      hds.isEmpty_eq, hds.all_eq, Bool.not_true, Bool.or_self, Bool.false_eq_true, if_false, power]

/-- A number without its sign is read. -/
theorem readUnsigned_eq (h : n.Unsigned s) :
    Binary64.readUnsigned n.negative s = some n.nearest := by
  obtain ⟨hwhole, -, hf, he⟩ := h
  rename_i negative whole fraction exponent f e
  have hexponent := readExponent_eq (n := ⟨negative, whole, fraction, exponent⟩) he
  have hletter : Stops Text.isDigit e := by
    simpa using stops_fraction .absent he Text.stops_nil
  have hstops : Stops Text.isDigit (f ++ e) := by
    simpa using stops_fraction hf he Text.stops_nil
  simp only [Binary64.readUnsigned, Text.takeWhile_append hwhole.2 hstops,
    Text.dropWhile_append hwhole.2 hstops]
  cases hf with
  | present hds =>
    simp only [List.cons_append, Text.takeWhile_append hds.2 hletter,
      Text.dropWhile_append hds.2 hletter, hwhole.isEmpty_eq, Bool.false_and,
      Bool.false_eq_true, if_false, hexponent, Option.map_some]
    rfl
  | absent =>
    have hpoint : Stops (· == '.') e := by
      simpa using stops_point_exponent he Text.stops_nil
    rw [List.nil_append]
    split
    · exact Bool.noConfusion (Text.stops_cons.1 hpoint)
    · simp only [hwhole.isEmpty_eq, Bool.false_and, Bool.false_eq_true, if_false, hexponent,
        Option.map_some]
      rfl

/-- After a sign, a text that begins with a digit is none of the words for other numbers. -/
theorem read?_of_digits {negative : Bool} {body : List Char}
    (hs : Binary64.readSign s = (negative, body)) (hbody : ¬ Stops Text.isDigit body) :
    Binary64.read? s = Binary64.readUnsigned negative body := by
  have hdigit : ∃ c rest, body = c :: rest ∧ Text.isDigit c = true := by
    cases body with
    | nil => exact absurd Text.stops_nil hbody
    | cons c rest => exact ⟨c, rest, rfl, by simpa [Text.stops_cons] using hbody⟩
  obtain ⟨c, rest, rfl, hc⟩ := hdigit
  have hword (d : Char) (word : List Char) (hd : Text.isDigit d = false) :
      (Binary64.lowerAscii (c :: rest) == d :: word) = false := by
    have hne : c ≠ d := by
      rintro rfl
      rw [hc] at hd
      cases hd
    simp [Binary64.lowerAscii, Text.toLower_of_isDigit hc, hne]
  have hinf : (Binary64.lowerAscii (c :: rest) == "inf".toList) = false := hword 'i' _ rfl
  have hinfinity : (Binary64.lowerAscii (c :: rest) == "infinity".toList) = false :=
    hword 'i' _ rfl
  have hnan : (Binary64.lowerAscii (c :: rest) == "nan".toList) = false := hword 'n' _ rfl
  rw [Binary64.read?, hs]
  simp only [hinf, hinfinity, hnan, Bool.or_self, Bool.false_eq_true, if_false]

theorem Unsigned.not_stops (h : n.Unsigned s) : ¬ Stops Text.isDigit s := by
  obtain ⟨hwhole, -, -, -⟩ := h
  exact hwhole.not_stops

/-- The sign is read, and a number without sign after it. -/
theorem exists_readSign (h : n.Writes s) :
    ∃ u, Binary64.readSign s = (n.negative, u) ∧ n.Unsigned u := by
  rw [Writes] at h
  split at h
  · rename_i hnegative
    obtain ⟨u, rfl, hu⟩ := h
    exact ⟨u, by rw [hnegative]; rfl, hu⟩
  · rename_i hpositive
    have hstops : Stops (fun c => c == '+' || c == '-') s := by
      obtain ⟨hwhole, -, -, -⟩ := h
      exact stops_sign hwhole _
    rw [Bool.not_eq_true] at hpositive
    exact ⟨s, by rw [hpositive]; exact readSign_append .absent hstops, h⟩

/-- **A number is read from its text.** -/
theorem read?_eq (h : n.Writes s) : Binary64.read? s = some n.nearest := by
  obtain ⟨u, hsign, hu⟩ := exists_readSign h
  rw [read?_of_digits hsign hu.not_stops, readUnsigned_eq hu]

end Json.NumberText

/-! ## Texts that are no numbers -/

namespace Binary64

/-- The characters of the texts of numbers: digits, signs, the point, the letter of the
exponent and those of the words, in any case. -/
def isNumeric (c : Char) : Bool :=
  Text.isDigit c || "+-.einftya".toList.contains c.toLower

theorem isNumeric_of_isDigit {c : Char} (h : Text.isDigit c = true) : isNumeric c = true := by
  rw [isNumeric, h, Bool.true_or]

theorem isNumeric_of_takeWhile {s : List Char} {c : Char} (h : c ∈ s.takeWhile Text.isDigit) :
    isNumeric c = true :=
  isNumeric_of_isDigit (List.mem_takeWhile_imp h)

theorem isNumeric_of_readSign {s : List Char}
    (h : ∀ c ∈ (readSign s).2, isNumeric c = true) : ∀ c ∈ s, isNumeric c = true := by
  unfold readSign at h
  split at h
  · exact List.forall_mem_cons.2 ⟨by decide, h⟩
  · exact List.forall_mem_cons.2 ⟨by decide, h⟩
  · exact h

theorem isNumeric_of_word {s word : List Char} (h : lowerAscii s = word)
    (hword : word ⊆ "+-.einftya".toList) : ∀ c ∈ s, isNumeric c = true := by
  intro c hc
  have hmem : c.toLower ∈ "+-.einftya".toList := hword (h ▸ List.mem_map_of_mem hc)
  rw [isNumeric, List.contains_iff_mem.2 hmem, Bool.or_true]

theorem isNumeric_of_readExponent {s : List Char} {e : ℤ} (h : readExponent s = some e) :
    ∀ c ∈ s, isNumeric c = true := by
  cases s with
  | nil => simp
  | cons c rest =>
    rw [readExponent] at h
    split at h
    · rename_i hletter
      split at h
      rename_i negative ds hsign
      split at h
      · cases h
      · rename_i hds
        simp only [Bool.not_eq_true, Bool.or_eq_false_iff, Bool.not_eq_false',
          List.all_eq_true] at hds
        refine List.forall_mem_cons.2 ⟨?_, isNumeric_of_readSign ?_⟩
        · rw [Bool.or_eq_true, beq_iff_eq, beq_iff_eq] at hletter
          rcases hletter with rfl | rfl <;> decide
        · rw [hsign]
          exact fun c hc => isNumeric_of_isDigit (hds.2 c hc)
    · cases h

theorem isNumeric_of_readUnsigned {negative : Bool} {s : List Char} {x : Binary64}
    (h : readUnsigned negative s = some x) : ∀ c ∈ s, isNumeric c = true := by
  rw [← List.takeWhile_append_dropWhile (p := Text.isDigit) (l := s)]
  refine List.forall_mem_append.2 ⟨fun _ => isNumeric_of_takeWhile, ?_⟩
  simp only [readUnsigned] at h
  generalize s.takeWhile Text.isDigit = whole at h
  generalize s.dropWhile Text.isDigit = rest at h ⊢
  -- what comes after the digits is a point with digits and an exponent, or an exponent
  split at h
  · rename_i r
    split at h
    · cases h
    · obtain ⟨e, he, -⟩ := Option.map_eq_some_iff.1 h
      refine List.forall_mem_cons.2 ⟨by decide, ?_⟩
      rw [← List.takeWhile_append_dropWhile (p := Text.isDigit) (l := r)]
      exact List.forall_mem_append.2
        ⟨fun _ => isNumeric_of_takeWhile, isNumeric_of_readExponent he⟩
  · split at h
    · cases h
    · obtain ⟨e, he, -⟩ := Option.map_eq_some_iff.1 h
      exact isNumeric_of_readExponent he

theorem isNumeric_of_read? {s : List Char} {x : Binary64} (h : read? s = some x) :
    ∀ c ∈ s, isNumeric c = true := by
  refine isNumeric_of_readSign ?_
  simp only [read?] at h
  generalize (readSign s).2 = body at h ⊢
  split at h
  · rename_i hinf
    rw [Bool.or_eq_true, beq_iff_eq, beq_iff_eq] at hinf
    rcases hinf with hinf | hinf
    · exact isNumeric_of_word hinf (by decide)
    · exact isNumeric_of_word hinf (by decide)
  · split at h
    · rename_i hnan
      exact isNumeric_of_word (beq_iff_eq.1 hnan) (by decide)
    · exact isNumeric_of_readUnsigned h

/-- A text with any other character denotes no number. -/
theorem read?_eq_none {s : List Char} {c : Char} (hc : c ∈ s) (hother : isNumeric c = false) :
    read? s = none := by
  rw [Option.eq_none_iff_forall_ne_some]
  intro x hx
  rw [isNumeric_of_read? hx c hc] at hother
  cases hother

end Binary64

end TabularQuery
