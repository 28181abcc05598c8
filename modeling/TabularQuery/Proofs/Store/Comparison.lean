import Mathlib.Data.List.Basic
import TabularQuery.Proofs.Number.Order
import TabularQuery.Proofs.Text.Order
import TabularQuery.Store.Comparison

/-!
# The comparison of cells

Two texts are compared as numbers if both denote one, and by their characters otherwise.  So
the comparison turns around with its texts, but it mixes two orders: a text that is no number
may stand by its characters after a large number and before a small one, and then the three go
round in a circle.  Where no text stands between two numbers that are not in this order, and
where what is not a number stands among equal ones only, the comparison is transitive, and only
there.

## Main definitions

* `TransitiveOn` — a comparison is transitive on the elements of a list.
* `Coherent` — texts among which the two orders agree, with `transitiveOn_compareTexts_iff`.
* `Row.texts` — the texts of a column, with `Row.transitiveOn_compareByTerm_iff`.
* `Row.transitiveOn_compareBy` — several keys together.
-/

namespace TabularQuery

open Std (OrientedCmp TransCmp)

/-! ## Comparisons on a list -/

section TransitiveOn

variable {α : Type} {cmp : α → α → Ordering} {xs : List α}

/-- A comparison is transitive on the elements of a list. -/
def TransitiveOn (cmp : α → α → Ordering) (xs : List α) : Prop :=
  ∀ a ∈ xs, ∀ b ∈ xs, ∀ c ∈ xs, (cmp a b).isLE → (cmp b c).isLE → (cmp a c).isLE

/-- A comparison of the elements of a list only. -/
def compareWithin (cmp : α → α → Ordering) (xs : List α) (a b : { x // x ∈ xs }) : Ordering :=
  cmp a.1 b.1

variable [OrientedCmp cmp]

instance : OrientedCmp (compareWithin cmp xs) where
  eq_swap {a b} := (OrientedCmp.eq_swap : cmp a.1 b.1 = (cmp b.1 a.1).swap)

theorem transitiveOn_iff : TransitiveOn cmp xs ↔ TransCmp (compareWithin cmp xs) where
  mp h := { isLE_trans := fun {a b c} => h a.1 a.2 b.1 b.2 c.1 c.2 }
  mpr h a ha b hb c hc := h.isLE_trans (a := ⟨a, ha⟩) (b := ⟨b, hb⟩) (c := ⟨c, hc⟩)

namespace TransitiveOn

variable {a b c : α}

theorem lt_trans (h : TransitiveOn cmp xs) (ha : a ∈ xs) (hb : b ∈ xs) (hc : c ∈ xs)
    (hab : cmp a b = .lt) (hbc : cmp b c = .lt) : cmp a c = .lt := by
  have htrans := transitiveOn_iff.1 h
  have hab' : compareWithin cmp xs ⟨a, ha⟩ ⟨b, hb⟩ = .lt := hab
  have hbc' : compareWithin cmp xs ⟨b, hb⟩ ⟨c, hc⟩ = .lt := hbc
  have hac : compareWithin cmp xs ⟨a, ha⟩ ⟨c, hc⟩ = .lt := TransCmp.lt_trans hab' hbc'
  exact hac

theorem eq_trans (h : TransitiveOn cmp xs) (ha : a ∈ xs) (hb : b ∈ xs) (hc : c ∈ xs)
    (hab : cmp a b = .eq) (hbc : cmp b c = .eq) : cmp a c = .eq := by
  have htrans := transitiveOn_iff.1 h
  have hab' : compareWithin cmp xs ⟨a, ha⟩ ⟨b, hb⟩ = .eq := hab
  have hbc' : compareWithin cmp xs ⟨b, hb⟩ ⟨c, hc⟩ = .eq := hbc
  have hac : compareWithin cmp xs ⟨a, ha⟩ ⟨c, hc⟩ = .eq := TransCmp.eq_trans hab' hbc'
  exact hac

/-- The first of two comparisons that tells elements apart is transitive where both are. -/
theorem lexicographic {next : α → α → Ordering} [OrientedCmp next] (h : TransitiveOn cmp xs)
    (hnext : TransitiveOn next xs) : TransitiveOn (compareLex cmp next) xs := by
  have := transitiveOn_iff.1 h
  have := transitiveOn_iff.1 hnext
  refine transitiveOn_iff.2 ?_
  exact inferInstanceAs (TransCmp (compareLex (compareWithin cmp xs) (compareWithin next xs)))

end TransitiveOn

end TransitiveOn

/-! ## Texts -/

/-- Texts of which one denotes no number are compared by their characters. -/
theorem compareTexts_eq_compareCharacters {a b : List Char}
    (h : Binary64.read? a = none ∨ Binary64.read? b = none) :
    compareTexts a b = compareCharacters a b := by
  rw [compareTexts]
  rcases h with h | h
  · rw [h]
  · rw [h]
    cases Binary64.read? a <;> rfl

/-- Texts that both denote numbers are compared by these. -/
theorem compareTexts_eq_compare? {a b : List Char} {x y : Binary64}
    (ha : Binary64.read? a = some x) (hb : Binary64.read? b = some y) :
    compareTexts a b = (x.compare? y).getD .eq := by
  rw [compareTexts, ha, hb]

/-- A text that is no number is equal only to itself. -/
theorem compareTexts_eq_iff {a b : List Char}
    (h : Binary64.read? a = none ∨ Binary64.read? b = none) :
    compareTexts a b = .eq ↔ a = b := by
  rw [compareTexts_eq_compareCharacters h, compareCharacters_eq_iff]

/-- **The comparison of two texts turns around with them.** -/
instance : OrientedCmp compareTexts where
  eq_swap {a b} := by
    cases ha : Binary64.read? a with
    | none =>
      rw [compareTexts_eq_compareCharacters (.inl ha), compareTexts_eq_compareCharacters (.inr ha)]
      exact OrientedCmp.eq_swap
    | some x =>
      cases hb : Binary64.read? b with
      | none =>
        rw [compareTexts_eq_compareCharacters (.inr hb),
          compareTexts_eq_compareCharacters (.inl hb)]
        exact OrientedCmp.eq_swap
      | some y =>
        rw [compareTexts_eq_compare? ha hb, compareTexts_eq_compare? hb ha,
          Binary64.compare?_swap y x]
        cases y.compare? x <;> rfl

/-- A text is equal to itself, also when it denotes no number. -/
theorem compareTexts_self (t : List Char) : compareTexts t t = .eq :=
  Std.ReflCmp.compare_self

/-- Texts among which the two orders agree: a text that denotes no number stands by its
characters between two numbers only if they are in this order, and what is not a number, which
is equal to every number, stands among equal ones only. -/
structure Coherent (ts : List (List Char)) : Prop where
  between : ∀ a ∈ ts, ∀ m ∈ ts, ∀ b ∈ ts, Binary64.read? m = none →
    compareCharacters a m = .lt → compareCharacters m b = .lt →
      ∀ x ∈ Binary64.read? a, ∀ y ∈ Binary64.read? b, x.compare? y = some .lt
  level : ∀ n ∈ ts, Binary64.read? n = some .nan → ∀ a ∈ ts, ∀ b ∈ ts,
    ∀ x ∈ Binary64.read? a, ∀ y ∈ Binary64.read? b, x.compare? y ≠ some .lt

instance (ts : List (List Char)) : Decidable (Coherent ts) :=
  decidable_of_iff
    ((∀ a ∈ ts, ∀ m ∈ ts, ∀ b ∈ ts, Binary64.read? m = none →
      compareCharacters a m = .lt → compareCharacters m b = .lt →
        ∀ x ∈ Binary64.read? a, ∀ y ∈ Binary64.read? b, x.compare? y = some .lt) ∧
      ∀ n ∈ ts, Binary64.read? n = some .nan → ∀ a ∈ ts, ∀ b ∈ ts,
        ∀ x ∈ Binary64.read? a, ∀ y ∈ Binary64.read? b, x.compare? y ≠ some .lt)
    ⟨fun h => ⟨h.1, h.2⟩, fun h => ⟨h.between, h.level⟩⟩

theorem compareCharacters_eq_lt {a b : List Char} (h : (compareCharacters a b).isLE)
    (hne : a ≠ b) : compareCharacters a b = .lt :=
  (Ordering.isLE_iff_eq_lt_or_eq_eq.1 h).resolve_right (mt compareCharacters_eq_iff.1 hne)

/-- Two comparisons one of which turns the other around are not both `lt` and at most `eq`. -/
theorem not_isLE_of_swap_lt {α : Type} {cmp : α → α → Ordering} [OrientedCmp cmp] {a b : α}
    (h : cmp b a = .lt) : ¬ (cmp a b).isLE := by
  rw [OrientedCmp.gt_iff_lt.2 h]
  decide

variable {ts : List (List Char)} {a b c : List Char}

/-- Two numbers with a text between them are in the order of their characters. -/
theorem Coherent.compareTexts_eq_lt (h : Coherent ts) (ha : a ∈ ts) (hb : b ∈ ts) (hc : c ∈ ts)
    {x z : Binary64} (hx : Binary64.read? a = some x) (hy : Binary64.read? b = none)
    (hz : Binary64.read? c = some z) (hab : compareCharacters a b = .lt)
    (hbc : compareCharacters b c = .lt) : compareTexts a c = .lt := by
  rw [compareTexts_eq_compare? hx hz, h.between a ha b hb c hc hy hab hbc x hx z hz]
  rfl

/-- Three numbers are compared by their places, unless one of the texts is not a number. -/
theorem Coherent.isLE_trans_of_numbers (h : Coherent ts) (ha : a ∈ ts) (hb : b ∈ ts)
    (hc : c ∈ ts) {x y z : Binary64} (hx : Binary64.read? a = some x)
    (hy : Binary64.read? b = some y) (hz : Binary64.read? c = some z)
    (hab : (compareTexts a b).isLE) (hbc : (compareTexts b c).isLE) :
    (compareTexts a c).isLE := by
  by_cases hnan : ∃ n ∈ ts, Binary64.read? n = some .nan
  · -- then all numbers are equal
    obtain ⟨n, hn, hread⟩ := hnan
    have hlevel := h.level n hn hread c hc a ha z hz x hx
    rw [Binary64.compare?_swap x z] at hlevel
    rw [compareTexts_eq_compare? hx hz]
    rcases hcompare : x.compare? z with _ | _ | _ | _
    · rfl
    · rfl
    · rfl
    · exact absurd (by rw [hcompare]; rfl) hlevel
  · have hxn : x ≠ .nan := fun hx' => hnan ⟨a, ha, hx' ▸ hx⟩
    have hyn : y ≠ .nan := fun hy' => hnan ⟨b, hb, hy' ▸ hy⟩
    have hzn : z ≠ .nan := fun hz' => hnan ⟨c, hc, hz' ▸ hz⟩
    rw [compareTexts_eq_compare? hx hy, Binary64.compare?_eq hxn hyn] at hab
    rw [compareTexts_eq_compare? hy hz, Binary64.compare?_eq hyn hzn] at hbc
    rw [compareTexts_eq_compare? hx hz, Binary64.compare?_eq hxn hzn]
    exact Std.TransOrd.isLE_trans hab hbc

/-- Where the two orders agree, the comparison is transitive. -/
theorem Coherent.transitiveOn (h : Coherent ts) : TransitiveOn compareTexts ts := by
  intro a ha b hb c hc hab hbc
  -- with fewer than two numbers, all three comparisons are by characters
  have hcharacters (hsame : (Binary64.read? a = none ∧ Binary64.read? b = none) ∨
      (Binary64.read? a = none ∧ Binary64.read? c = none) ∨
      (Binary64.read? b = none ∧ Binary64.read? c = none)) : (compareTexts a c).isLE := by
    rw [compareTexts_eq_compareCharacters (by tauto)] at hab hbc ⊢
    exact TransCmp.isLE_trans hab hbc
  have hne {s t : List Char} {w : Binary64} (hs : Binary64.read? s = none)
      (ht : Binary64.read? t = some w) : s ≠ t := by
    rintro rfl
    rw [hs] at ht
    cases ht
  cases hx : Binary64.read? a with
  | none =>
    cases hy : Binary64.read? b with
    | none => exact hcharacters (.inl ⟨hx, hy⟩)
    | some y =>
      cases hz : Binary64.read? c with
      | none => exact hcharacters (.inr (.inl ⟨hx, hz⟩))
      | some z =>
        rw [compareTexts_eq_compareCharacters (.inl hx)] at hab ⊢
        by_contra hac
        have hca : compareCharacters c a = .lt := OrientedCmp.gt_iff_lt.1 (by simpa using hac)
        refine not_isLE_of_swap_lt (h.compareTexts_eq_lt hc ha hb hz hx hy hca ?_) hbc
        exact compareCharacters_eq_lt hab (hne hx hy)
  | some x =>
    cases hz : Binary64.read? c with
    | none =>
      cases hy : Binary64.read? b with
      | none => exact hcharacters (.inr (.inr ⟨hy, hz⟩))
      | some y =>
        rw [compareTexts_eq_compareCharacters (.inr hz)] at hbc ⊢
        by_contra hac
        have hca : compareCharacters c a = .lt := OrientedCmp.gt_iff_lt.1 (by simpa using hac)
        refine not_isLE_of_swap_lt (h.compareTexts_eq_lt hb hc ha hy hz hx ?_ hca) hab
        exact compareCharacters_eq_lt hbc (hne hz hy).symm
    | some z =>
      cases hy : Binary64.read? b with
      | some y => exact h.isLE_trans_of_numbers ha hb hc hx hy hz hab hbc
      | none =>
        rw [compareTexts_eq_compareCharacters (.inr hy)] at hab
        rw [compareTexts_eq_compareCharacters (.inl hy)] at hbc
        rw [h.compareTexts_eq_lt ha hb hc hx hy hz (compareCharacters_eq_lt hab (hne hy hx).symm)
          (compareCharacters_eq_lt hbc (hne hy hz))]
        rfl

/-- **The comparison of texts is transitive exactly where the two orders agree.** -/
theorem transitiveOn_compareTexts_iff : TransitiveOn compareTexts ts ↔ Coherent ts := by
  refine ⟨fun h => ⟨?_, ?_⟩, Coherent.transitiveOn⟩
  · intro a ha m hm b hb hnone ham hmb x hx y hy
    rw [← compareTexts_eq_compareCharacters (.inr hnone)] at ham
    rw [← compareTexts_eq_compareCharacters (.inl hnone)] at hmb
    have hlt := h.lt_trans ha hm hb ham hmb
    rw [compareTexts_eq_compare? hx hy] at hlt
    rcases hcompare : x.compare? y with _ | o
    · rw [hcompare] at hlt
      cases hlt
    · rw [hcompare] at hlt
      exact congrArg some hlt
  · intro n hn hnan a ha b hb x hx y hy hlt
    have hab : compareTexts a b = .lt := by
      rw [compareTexts_eq_compare? hx hy, hlt]
      rfl
    have hbn : (compareTexts b n).isLE := by
      rw [compareTexts_eq_compare? hy hnan, Binary64.compare?_swap .nan y]
      rfl
    have hna : (compareTexts n a).isLE := by
      rw [compareTexts_eq_compare? hnan hx]
      rfl
    exact not_isLE_of_swap_lt hab (h b hb n hn a ha hbn hna)

/-- Texts that all denote numbers are coherent, -/
theorem coherent_of_numbers
    (h : ∀ t ∈ ts, ∃ x, Binary64.read? t = some x ∧ x ≠ .nan) : Coherent ts where
  between a _ m hm b _ hnone := by
    obtain ⟨x, hx, -⟩ := h m hm
    rw [hnone] at hx
    cases hx
  level n hn hnan := by
    obtain ⟨x, hx, hne⟩ := h n hn
    exact absurd (Option.some.inj (hx.symm.trans hnan)) hne

/-- and so are texts of which none does. -/
theorem coherent_of_words (h : ∀ t ∈ ts, Binary64.read? t = none) : Coherent ts where
  between a ha m _ b _ _ _ _ x hx := by
    rw [h a ha] at hx
    cases hx
  level n hn hnan := by
    rw [h n hn] at hnan
    cases hnan

/-! ## Rows -/

instance : OrientedCmp compareCells? where
  eq_swap {a b} := by
    cases a with
    | none => cases b <;> rfl
    | some s =>
      cases b with
      | none => rfl
      | some t => exact (OrientedCmp.eq_swap : compareTexts s t = _)

/-- The order of a direction is the order itself or the one turned around. -/
theorem Direction.apply_swap (d : Direction) (o : Ordering) :
    d.apply o.swap = (d.apply o).swap := by
  cases d <;> rfl

namespace Row

instance (t : OrderTerm) : OrientedCmp (compareByTerm t) where
  eq_swap {a b} := by
    have hcells : compareCells? (a.cell? t.column) (b.cell? t.column) =
        (compareCells? (b.cell? t.column) (a.cell? t.column)).swap := OrientedCmp.eq_swap
    rw [compareByTerm, hcells, Direction.apply_swap, compareByTerm]

theorem compareBy_cons (t : OrderTerm) (rest : List OrderTerm) :
    compareBy (t :: rest) = compareLex (compareByTerm t) (compareBy rest) := by
  funext a b
  rw [compareBy, compareLex]
  cases compareByTerm t a b <;> rfl

/-- **The comparison of two rows turns around with them.** -/
instance (terms : List OrderTerm) : OrientedCmp (compareBy terms) := by
  induction terms with
  | nil => exact { eq_swap := rfl }
  | cons t rest ih =>
    rw [compareBy_cons]
    infer_instance

/-- The texts of the cells of some rows in a column. -/
def texts (column : String) (rows : List Row) : List (List Char) :=
  rows.filterMap fun row => row.cell? column

variable {rows : List Row}

theorem mem_texts {column : String} {t : List Char} :
    t ∈ texts column rows ↔ ∃ row ∈ rows, row.cell? column = some t :=
  List.mem_filterMap

/-- An ascending key compares the cells of a column, -/
theorem compareByTerm_asc (column : String) (a b : Row) :
    compareByTerm ⟨column, .asc⟩ a b = compareCells? (a.cell? column) (b.cell? column) := rfl

/-- and a descending one compares them the other way. -/
theorem compareByTerm_desc (column : String) (a b : Row) :
    compareByTerm ⟨column, .desc⟩ a b = compareByTerm ⟨column, .asc⟩ b a :=
  (OrientedCmp.eq_swap : compareByTerm ⟨column, .asc⟩ b a = _).symm

/-- An ascending key is transitive on rows if the comparison of the texts of their cells is:
missing cells come last and are equal. -/
theorem transitiveOn_asc_iff {column : String} :
    TransitiveOn (compareByTerm ⟨column, .asc⟩) rows ↔
      TransitiveOn compareTexts (texts column rows) := by
  constructor
  · intro h a ha b hb c hc hab hbc
    obtain ⟨ra, hra, hcella⟩ := mem_texts.1 ha
    obtain ⟨rb, hrb, hcellb⟩ := mem_texts.1 hb
    obtain ⟨rc, hrc, hcellc⟩ := mem_texts.1 hc
    have hrows := h ra hra rb hrb rc hrc
    simp only [compareByTerm_asc, hcella, hcellb, hcellc, compareCells?] at hrows
    exact hrows hab hbc
  · intro h ra hra rb hrb rc hrc hab hbc
    simp only [compareByTerm_asc] at hab hbc ⊢
    cases hcellc : rc.cell? column with
    | none => cases ra.cell? column <;> rfl
    | some c =>
      cases hcellb : rb.cell? column with
      | none =>
        rw [hcellb, hcellc] at hbc
        cases hbc
      | some b =>
        cases hcella : ra.cell? column with
        | none =>
          rw [hcella, hcellb] at hab
          cases hab
        | some a =>
          rw [hcella, hcellb] at hab
          rw [hcellb, hcellc] at hbc
          exact h a (mem_texts.2 ⟨ra, hra, hcella⟩) b (mem_texts.2 ⟨rb, hrb, hcellb⟩) c
            (mem_texts.2 ⟨rc, hrc, hcellc⟩) hab hbc

/-- So is a descending one. -/
theorem transitiveOn_compareByTerm_iff {t : OrderTerm} :
    TransitiveOn (compareByTerm t) rows ↔ TransitiveOn compareTexts (texts t.column rows) := by
  obtain ⟨column, direction⟩ := t
  rw [← transitiveOn_asc_iff]
  cases direction with
  | asc => rfl
  | desc =>
    simp only [TransitiveOn, compareByTerm_desc]
    exact ⟨fun h a ha b hb c hc hab hbc => h c hc b hb a ha hbc hab,
      fun h a ha b hb c hc hab hbc => h c hc b hb a ha hbc hab⟩

/-- Keys that are transitive on rows are so together. -/
theorem transitiveOn_compareBy {terms : List OrderTerm}
    (h : ∀ t ∈ terms, TransitiveOn (compareByTerm t) rows) :
    TransitiveOn (compareBy terms) rows := by
  induction terms with
  | nil => exact fun _ _ _ _ _ _ _ _ => rfl
  | cons t rest ih =>
    obtain ⟨ht, hrest⟩ := List.forall_mem_cons.1 h
    rw [compareBy_cons]
    exact ht.lexicographic (ih hrest)

/-- A key on its own. -/
theorem compareBy_singleton (t : OrderTerm) : compareBy [t] = compareByTerm t := by
  funext a b
  rw [compareBy]
  cases compareByTerm t a b <;> rfl

end Row

end TabularQuery
