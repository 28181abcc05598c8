import TabularQuery.Proofs.Filter.Meaning
import TabularQuery.Proofs.Json.Printing
import TabularQuery.Proofs.Store.Comparison

/-!
# Filters of equality

A cell equals an operand if their texts do.  Two texts that denote numbers are equal if these
are, so that one number may be written in several ways, and what is not a number is equal to
all of them; other texts are equal only to themselves.  Integers are equal if they are rounded
to one number, and below `2 ^ 53` that is only the integer itself.

## Main definitions

* `Text.SameNumber` — two texts denote numbers that are equal.
* `Row.EqualBy` — the four filters of equality and a relation between a cell and operands.
* `Row.equality_filters` — the relation that they follow.
-/

namespace TabularQuery

/-! ## Texts -/

namespace Text

/-- Two texts denote numbers of which none comes before the other: they stand at one place, or
one of them is not a number. -/
def SameNumber (s t : List Char) : Prop :=
  ∃ x ∈ Binary64.read? s, ∃ y ∈ Binary64.read? t, x = .nan ∨ y = .nan ∨ x.place = y.place

instance (s t : List Char) : Decidable (SameNumber s t) :=
  inferInstanceAs (Decidable (∃ x ∈ Binary64.read? s, ∃ y ∈ Binary64.read? t,
    x = .nan ∨ y = .nan ∨ x.place = y.place))

end Text

/-- Two texts are equal if they are the same or denote the same number. -/
theorem compareTexts_eq_iff_sameNumber {s t : List Char} :
    compareTexts s t = .eq ↔ s = t ∨ Text.SameNumber s t := by
  cases hs : Binary64.read? s with
  | none =>
    rw [compareTexts_eq_iff (.inl hs)]
    simp [Text.SameNumber, hs]
  | some x =>
    cases ht : Binary64.read? t with
    | none =>
      rw [compareTexts_eq_iff (.inr ht)]
      simp [Text.SameNumber, ht]
    | some y =>
      have hnumbers : compareTexts s t = .eq ↔ Text.SameNumber s t := by
        rw [compareTexts_eq_compare? hs ht]
        simp only [Text.SameNumber, hs, ht, Option.mem_some_iff, exists_eq_left']
        by_cases hx : x = .nan
        · subst hx
          exact iff_of_true rfl (.inl rfl)
        · by_cases hy : y = .nan
          · subst hy
            rw [Binary64.compare?_swap .nan x]
            exact iff_of_true rfl (.inr (.inl rfl))
          · rw [Binary64.compare?_eq hx hy, Option.getD_some, compare_eq_iff_eq]
            simp [hx, hy]
      rw [← hnumbers]
      refine (or_iff_right_of_imp ?_).symm
      rintro rfl
      exact compareTexts_self s

/-- Two integers are equal if they are rounded to one number. -/
theorem compareTexts_integer_eq_iff {i j : ℤ} (hi : JsonNumber.fitsSigned i = true)
    (hj : JsonNumber.fitsSigned j = true) :
    compareTexts (Text.integer i) (Text.integer j) = .eq ↔
      Binary64.ofInt i = Binary64.ofInt j := by
  have hi' := JsonNumber.InRange.natAbs_lt (.inl hi)
  have hj' := JsonNumber.InRange.natAbs_lt (.inl hj)
  rw [← Binary64.compare?_ofInt_eq_iff hi' hj',
    compareTexts_eq_compare? (Binary64.read?_integer hi') (Binary64.read?_integer hj'),
    Binary64.compare?_eq (Binary64.ofInt_ne_nan hi') (Binary64.ofInt_ne_nan hj'),
    Option.getD_some, Option.some.injEq]

/-! ## Filters -/

/-- The filters of equality on a column accept a row by a relation of its cell to operands:
the two with one operand, and the two with a list of them. -/
structure Row.EqualBy {α : Type} (row : Row) (column : String) (operand : α → Value)
    (Same : α → Prop) (x : α) (xs : List α) : Prop where
  eq : (FilterCall.compare .eq column (operand x)).accepts row = true ↔ Same x
  neq : (FilterCall.compare .neq column (operand x)).accepts row = true ↔ ¬ Same x
  among : (FilterCall.among column (xs.map operand)).accepts row = true ↔ ∃ y ∈ xs, Same y
  notAmong : (FilterCall.notAmong column (xs.map operand)).accepts row = true ↔
    ∀ y ∈ xs, ¬ Same y

namespace Row

/-- They follow the relation that the text of the cell has to those of the operands. -/
theorem equalBy_of_compareTexts {α : Type} {row : Row} {column : String} {operand : α → Value}
    {Same : α → Prop} {x : α} {xs : List α} {t : List Char} (ht : row.cell? column = some t)
    (h : ∀ y ∈ x :: xs, compareTexts t (operand y).plain = .eq ↔ Same y) :
    row.EqualBy column operand Same x xs := by
  obtain ⟨hx, hxs⟩ := List.forall_mem_cons.1 h
  constructor
  · simp [FilterCall.accepts_compare_iff, ht, Comparison.holds, hx]
  · simp [FilterCall.accepts_compare_iff, ht, Comparison.holds, hx]
  · simp only [FilterCall.accepts_among_iff, ht, Option.mem_some_iff, exists_eq_left',
      List.mem_map, exists_exists_and_eq_and]
    exact exists_congr fun y => and_congr_right (hxs y)
  · simp only [FilterCall.accepts_notAmong_iff, ht, Option.mem_some_iff, exists_eq_left',
      List.forall_mem_map]
    exact forall₂_congr fun y hy => (hxs y hy).not

/-- **Filters of equality ask for the same text or the same number.**  A cell with a text meets
the operands that are this text or denote the same number as it.  A cell with an integer meets
the operands that are rounded to the same number, and this is the integer itself if one of the
two is below `2 ^ 53`. -/
theorem equality_filters (row : Row) (column : String) :
    (∀ (s t : String) (ts : List String), Fields.get? column row = some (.text s) →
      row.EqualBy column .text (fun u => s = u ∨ Text.SameNumber s.toList u.toList) t ts) ∧
    (∀ (i j : ℤ) (js : List ℤ), Fields.get? column row = some (.number (.integer i)) →
      JsonNumber.fitsSigned i = true → (∀ k ∈ j :: js, JsonNumber.fitsSigned k = true) →
      row.EqualBy column .int (fun k => Binary64.ofInt i = Binary64.ofInt k) j js) ∧
    (∀ i j : ℤ, JsonNumber.fitsSigned i = true → JsonNumber.fitsSigned j = true →
      i.natAbs < 2 ^ 53 ∨ j.natAbs < 2 ^ 53 → (Binary64.ofInt i = Binary64.ofInt j ↔ i = j)) := by
  refine ⟨fun s t ts hcell => ?_, fun i j js hcell hi hjs => ?_, ?_⟩
  · have ht : row.cell? column = some s.toList := by
      rw [cell?, hcell]
      rfl
    refine equalBy_of_compareTexts ht fun u _ => ?_
    rw [Value.plain, compareTexts_eq_iff_sameNumber, String.toList_inj]
  · have ht : row.cell? column = some (Text.integer i) := by
      rw [cell?, hcell]
      rfl
    exact equalBy_of_compareTexts ht fun k hk => compareTexts_integer_eq_iff hi (hjs k hk)
  · intro i j hi hj hsmall
    have hi' := JsonNumber.InRange.natAbs_lt (.inl hi)
    have hj' := JsonNumber.InRange.natAbs_lt (.inl hj)
    rcases hsmall with hsmall | hsmall
    · exact Binary64.ofInt_eq_iff hsmall hj'
    · rw [eq_comm, Binary64.ofInt_eq_iff hsmall hi', eq_comm]

/-- A number that is written in two ways, and integers beyond `2 ^ 53`. -/
theorem equality_filters_of_two_columns :
    let row : Row := [("id", .text "01"), ("size", .number (.integer 9007199254740993))]
    let ids := ["a", "2", "1"]
    let sizes : List ℤ := [9007199254740994, 5]
    (∀ k ∈ 9007199254740992 :: sizes, JsonNumber.fitsSigned k = true) ∧
      (FilterCall.among "id" (ids.map .text)).accepts row = true ∧
      (FilterCall.notAmong "size" (sizes.map .int)).accepts row = true := by
  intro row ids sizes
  have hsigned : ∀ k ∈ 9007199254740992 :: sizes, JsonNumber.fitsSigned k = true := by decide
  have hids := (equality_filters row "id").1 "01" "1" ids rfl
  have hsizes := (equality_filters row "size").2.1 9007199254740993 9007199254740992 sizes rfl
    (by decide) hsigned
  refine ⟨hsigned, hids.among.2 ?_, hsizes.notAmong.2 ?_⟩
  · decide +kernel
  · decide +kernel

/-- The texts and the integers that are equal to other ones. -/
theorem equality_filters_match_other_operands :
    let row : Row := [("id", .text "01"), ("size", .number (.integer 9007199254740993))]
    "01" ≠ "1" ∧ (FilterCall.compare .eq "id" (.text "1")).accepts row = true ∧
      (9007199254740993 : ℤ) ≠ 9007199254740992 ∧
      (FilterCall.compare .eq "size" (.int 9007199254740992)).accepts row = true := by
  decide +kernel

end Row

end TabularQuery
