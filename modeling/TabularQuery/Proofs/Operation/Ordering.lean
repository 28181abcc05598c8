import TabularQuery.Proofs.Operation.FindFirst
import TabularQuery.Proofs.Operation.FindMany
import TabularQuery.Proofs.Store.Sorting

/-!
# Rows in an order

A column whose cells are all integers, or all texts that are no numbers, has one order only:
that of the integers or that of the characters, and missing cells come last.  On such columns
the comparison of cells is this order, whichever way the texts of the cells are compared.  So
a search gives its rows sorted by the first column in which they differ, rows that differ in
none as they are in the table, and the first row of the order is the first of them.

## Main definitions

* `Json.Before` — the order of cells, and `OrderTerm.Before` in a direction.
* `Row.Before`, `Row.Ties` — the order of rows by several columns.
* `Row.TypedColumn` — the columns with cells of one kind.
* `Backend.findMany_sorted` — the rows of a search in an order.
-/

namespace TabularQuery

open Std (OrientedCmp)

/-! ## Cells -/

namespace Json

/-- A cell comes before another one: a smaller integer, a text with a smaller character where
they differ, and anything before null. -/
inductive Before : Json → Json → Prop where
  | integer {i j : ℤ} : i < j → Before (number (.integer i)) (number (.integer j))
  | text {s t : String} : s < t → Before (text s) (text t)
  | null {v : Json} : v ≠ null → Before v null

/-- Null or an integer that is not rounded as a number. -/
def IsWhole (v : Json) : Prop :=
  v = null ∨ ∃ i : ℤ, v = number (.integer i) ∧ i.natAbs ≤ 2 ^ 53

/-- Null or a text that denotes no number. -/
def IsWord (v : Json) : Prop :=
  v = null ∨ ∃ s : String, v = text s ∧ Binary64.read? s.toList = none

/-- The comparison of two cells is their order, and only equal cells are the same in it. -/
def ComparedAs (v w : Json) : Prop :=
  (compareCells? (Cell.text? v) (Cell.text? w) = .lt ↔ v.Before w) ∧
    (compareCells? (Cell.text? v) (Cell.text? w) = .eq ↔ v = w)

theorem not_null_before (v : Json) : ¬ null.Before v := by
  intro h
  cases h with
  | null h => exact h rfl

theorem before_integer_iff {i j : ℤ} :
    Before (number (.integer i)) (number (.integer j)) ↔ i < j :=
  ⟨fun h => by cases h; assumption, .integer⟩

theorem before_text_iff {s t : String} : Before (text s) (text t) ↔ s < t :=
  ⟨fun h => by cases h; assumption, .text⟩

theorem comparedAs_null_null : null.ComparedAs null :=
  ⟨iff_of_false (by decide) (not_null_before null), iff_of_true rfl rfl⟩

/-- Null comes after any other cell. -/
theorem comparedAs_null {v : Json} {t : List Char} (hv : Cell.text? v = some t) :
    v.ComparedAs null ∧ null.ComparedAs v := by
  have hne : v ≠ null := by
    rintro rfl
    cases hv
  have hnull : Cell.text? null = none := rfl
  have hlt : compareCells? (some t) none = .lt := rfl
  have hgt : compareCells? none (some t) = .gt := rfl
  rw [ComparedAs, ComparedAs, hv, hnull, hlt, hgt]
  exact ⟨⟨iff_of_true rfl (.null hne), iff_of_false (by decide) hne⟩,
    ⟨iff_of_false (by decide) (not_null_before v), iff_of_false (by decide) hne.symm⟩⟩

end Json

/-- The text of an integer up to `2 ^ 53` denotes a number. -/
theorem read?_integer_of_exact {i : ℤ} (h : i.natAbs ≤ 2 ^ 53) :
    Binary64.read? (Text.integer i) = some (.ofInt i) ∧ Binary64.ofInt i ≠ .nan := by
  have hsmall : i.natAbs < 10 ^ 20 := h.trans_lt (by decide)
  exact ⟨Binary64.read?_integer hsmall, Binary64.ofInt_ne_nan hsmall⟩

/-- Integers up to `2 ^ 53` are compared by their values. -/
theorem compareTexts_integer {i j : ℤ} (hi : i.natAbs ≤ 2 ^ 53) (hj : j.natAbs ≤ 2 ^ 53) :
    compareTexts (Text.integer i) (Text.integer j) = compare i j := by
  obtain ⟨hreadi, hi'⟩ := read?_integer_of_exact hi
  obtain ⟨hreadj, hj'⟩ := read?_integer_of_exact hj
  rw [compareTexts_eq_compare? hreadi hreadj, Binary64.compare?_eq hi' hj', Option.getD_some,
    Binary64.place_ofInt hi, Binary64.place_ofInt hj, ← cmp_eq_compare, ← cmp_eq_compare]
  have hmono : StrictMono fun k : ℤ => (((k : ℚ) : WithTop ℚ) : WithBot (WithTop ℚ)) :=
    fun k l h => WithBot.coe_lt_coe.2 (WithTop.coe_lt_coe.2 (Int.cast_strictMono h))
  exact hmono.cmp_map_eq i j

namespace Json

theorem IsWhole.read?_text {v : Json} {t : List Char} (hv : v.IsWhole)
    (ht : Cell.text? v = some t) : ∃ x, Binary64.read? t = some x ∧ x ≠ .nan := by
  rcases hv with rfl | ⟨i, rfl, hi⟩
  · cases ht
  · obtain rfl := Option.some.inj ht
    exact ⟨_, read?_integer_of_exact hi⟩

theorem IsWord.read?_text {v : Json} {t : List Char} (hv : v.IsWord)
    (ht : Cell.text? v = some t) : Binary64.read? t = none := by
  rcases hv with rfl | ⟨s, rfl, hs⟩
  · cases ht
  · obtain rfl := Option.some.inj ht
    exact hs

theorem IsWhole.comparedAs {v w : Json} (hv : v.IsWhole) (hw : w.IsWhole) : v.ComparedAs w := by
  rcases hv with rfl | ⟨i, rfl, hi⟩
  · rcases hw with rfl | ⟨j, rfl, hj⟩
    · exact comparedAs_null_null
    · exact (comparedAs_null rfl).2
  · rcases hw with rfl | ⟨j, rfl, hj⟩
    · exact (comparedAs_null rfl).1
    · have hcompare : compareCells? (Cell.text? (number (.integer i)))
          (Cell.text? (number (.integer j))) = compare i j := compareTexts_integer hi hj
      rw [ComparedAs, hcompare, before_integer_iff, compare_lt_iff_lt, compare_eq_iff_eq]
      simp

theorem IsWord.comparedAs {v w : Json} (hv : v.IsWord) (hw : w.IsWord) : v.ComparedAs w := by
  rcases hv with rfl | ⟨s, rfl, hs⟩
  · rcases hw with rfl | ⟨t, rfl, ht⟩
    · exact comparedAs_null_null
    · exact (comparedAs_null rfl).2
  · rcases hw with rfl | ⟨t, rfl, ht⟩
    · exact (comparedAs_null rfl).1
    · have hcompare : compareCells? (Cell.text? (text s)) (Cell.text? (text t)) =
          compareCharacters s.toList t.toList := compareTexts_eq_compareCharacters (.inl hs)
      rw [ComparedAs, hcompare, before_text_iff, String.lt_iff_toList_lt,
        compareCharacters_eq_lt_iff, compareCharacters_eq_iff, String.toList_inj]
      simp

end Json

/-! ## Rows -/

/-- The cell of a row in a column, null where it has none. -/
def Row.cell (row : Row) (column : String) : Json :=
  (Fields.get? column row).getD .null

theorem Row.cell?_eq (row : Row) (column : String) :
    row.cell? column = Cell.text? (row.cell column) := by
  rw [cell?, cell]
  cases Fields.get? column row <;> rfl

/-- A row comes before another one by one key: its cell does, or the other one's for a
descending key. -/
def OrderTerm.Before (t : OrderTerm) (a b : Row) : Prop :=
  match t.direction with
  | .asc => (a.cell t.column).Before (b.cell t.column)
  | .desc => (b.cell t.column).Before (a.cell t.column)

namespace Row

/-- A row comes before another one by several keys: by the first key whose column has not the
same cell in both. -/
inductive Before : List OrderTerm → Row → Row → Prop where
  | first {t : OrderTerm} {rest : List OrderTerm} {a b : Row} :
      t.Before a b → Before (t :: rest) a b
  | next {t : OrderTerm} {rest : List OrderTerm} {a b : Row} :
      a.cell t.column = b.cell t.column → Before rest a b → Before (t :: rest) a b

/-- Two rows have the same cells in the columns of all keys. -/
def Ties (terms : List OrderTerm) (a b : Row) : Prop :=
  ∀ t ∈ terms, a.cell t.column = b.cell t.column

/-- A column of rows has cells of one kind only: integers that are not rounded as numbers, or
texts that denote no numbers.  Cells may be missing. -/
def TypedColumn (column : String) (rows : List Row) : Prop :=
  (∀ row ∈ rows, (row.cell column).IsWhole) ∨ ∀ row ∈ rows, (row.cell column).IsWord

variable {rows : List Row} {a b : Row}

theorem TypedColumn.comparedAs {column : String} (h : TypedColumn column rows) (ha : a ∈ rows)
    (hb : b ∈ rows) : (a.cell column).ComparedAs (b.cell column) := by
  rcases h with hwhole | hword
  · exact (hwhole a ha).comparedAs (hwhole b hb)
  · exact (hword a ha).comparedAs (hword b hb)

/-- By one key on a typed column, rows are compared as they should be. -/
theorem compareByTerm_iff {t : OrderTerm} (h : TypedColumn t.column rows) (ha : a ∈ rows)
    (hb : b ∈ rows) :
    (compareByTerm t a b = .lt ↔ t.Before a b) ∧
      (compareByTerm t a b = .eq ↔ a.cell t.column = b.cell t.column) := by
  obtain ⟨column, direction⟩ := t
  cases direction with
  | asc =>
    rw [compareByTerm_asc, cell?_eq, cell?_eq]
    exact h.comparedAs ha hb
  | desc =>
    rw [compareByTerm_desc, compareByTerm_asc, cell?_eq, cell?_eq]
    obtain ⟨hlt, heq⟩ := h.comparedAs hb ha
    exact ⟨hlt, heq.trans eq_comm⟩

/-- By several keys on typed columns, too. -/
theorem compareBy_iff {terms : List OrderTerm} (h : ∀ t ∈ terms, TypedColumn t.column rows)
    (ha : a ∈ rows) (hb : b ∈ rows) :
    (compareBy terms a b = .lt ↔ Before terms a b) ∧
      (compareBy terms a b = .eq ↔ Ties terms a b) := by
  induction terms with
  | nil =>
    refine ⟨iff_of_false (by simp [compareBy]) fun hbefore => ?_, by simp [compareBy, Ties]⟩
    cases hbefore
  | cons t rest ih =>
    obtain ⟨ht, hrest⟩ := List.forall_mem_cons.1 h
    obtain ⟨hlt, heq⟩ := compareByTerm_iff ht ha hb
    obtain ⟨ihlt, iheq⟩ := ih hrest
    have hcases : Before (t :: rest) a b ↔
        t.Before a b ∨ (a.cell t.column = b.cell t.column ∧ Before rest a b) := by
      constructor
      · rintro (hfirst | ⟨hsame, hnext⟩)
        · exact .inl hfirst
        · exact .inr ⟨hsame, hnext⟩
      · rintro (hfirst | ⟨hsame, hnext⟩)
        · exact .first hfirst
        · exact .next hsame hnext
    rw [hcases, ← hlt, ← heq, ← ihlt, Ties, List.forall_mem_cons, ← Ties, ← iheq, ← heq, compareBy]
    cases compareByTerm t a b <;> simp

theorem compareBy_ne_gt_iff {terms : List OrderTerm}
    (h : ∀ t ∈ terms, TypedColumn t.column rows) :
    ∀ a ∈ rows, ∀ b ∈ rows, compareBy terms a b ≠ .gt ↔ Before terms a b ∨ Ties terms a b := by
  intro a ha b hb
  obtain ⟨hlt, heq⟩ := compareBy_iff h ha hb
  rw [← hlt, ← heq]
  cases compareBy terms a b <;> simp

/-- The texts of a typed column are all numbers, or none of them is one. -/
theorem TypedColumn.coherent {column : String} (h : TypedColumn column rows) :
    Coherent (texts column rows) := by
  rcases h with hwhole | hword
  · refine coherent_of_numbers fun t ht => ?_
    obtain ⟨row, hrow, htext⟩ := mem_texts.1 ht
    rw [cell?_eq] at htext
    exact (hwhole row hrow).read?_text htext
  · refine coherent_of_words fun t ht => ?_
    obtain ⟨row, hrow, htext⟩ := mem_texts.1 ht
    rw [cell?_eq] at htext
    exact (hword row hrow).read?_text htext

variable {terms : List OrderTerm}

/-- **On typed columns, sorted rows are in their order.** -/
theorem pairwise_sortRows (h : ∀ t ∈ terms, TypedColumn t.column rows) :
    (sortRows terms rows).Pairwise fun a b => Before terms a b ∨ Ties terms a b := by
  have htrans : TransitiveOn (compareBy terms) rows :=
    transitiveOn_compareBy fun t ht =>
      transitiveOn_compareByTerm_iff.2 (h t ht).coherent.transitiveOn
  exact pairwise_sortBy_of_iff htrans (compareBy_ne_gt_iff h)

/-- **Rows that tie keep their sequence.** -/
theorem sublist_sortRows (h : ∀ t ∈ terms, TypedColumn t.column rows) {tied : List Row}
    (hsub : tied.Sublist rows) (htied : tied.Pairwise (Ties terms)) :
    tied.Sublist (sortRows terms rows) :=
  sublist_sortBy_of_iff (compareBy_ne_gt_iff h) hsub (htied.imp .inr)

end Row

/-! ## Searches -/

namespace Backend

/-- **A search with an order gives its rows sorted.**  Where the columns of the order are typed,
the rows that pass the filter come back by the first column in which they differ, each in its
direction and with missing cells last, or first if it is descending; rows that differ in none
are as they are in the table.  The search for the first row gives the first of them. -/
theorem findMany_sorted {s : Store} {table : String} (args : FindMany) (ht : table ∉ s.denied)
    (htake : args.page.take = some 0)
    (htyped : ∀ t ∈ args.order.terms,
      Row.TypedColumn t.column ((s.rows table).filter (args.filter.admits .full))) :
    let terms := args.order.terms
    let matching := (s.rows table).filter (args.filter.admits .full)
    let record (row : Row) := (row.selected args.select args.relations).record.normalize
    let first : FindFirst :=
      { filter := args.filter, order := args.order, select := args.select
        relations := args.relations }
    ∃ rows : List Row, rows.Perm matching ∧
      (rows.Pairwise fun a b => Row.Before terms a b ∨ Row.Ties terms a b) ∧
      (∀ tied : List Row, tied.Sublist matching → tied.Pairwise (Row.Ties terms) →
        tied.Sublist rows) ∧
      ((Store.backend.findMany table args).run s).result = .ok (rows.map record) ∧
      ((Store.backend.findFirst table first).run s).result = .ok (rows.head?.map record) := by
  intro terms matching record first
  obtain ⟨_, hmany, -⟩ := ends_findMany_whole args ht htake
  have hfirst := ends_findFirst first ht
  exact ⟨sortRows terms matching, sortBy_perm _ matching, Row.pairwise_sortRows htyped,
    fun _ => Row.sublist_sortRows htyped, hmany.result_eq, hfirst.result_eq⟩

/-- Texts ascending, and integers descending where these are the same: a row without an integer
comes first among them, a row without a text last of all, and two rows stay as they are. -/
theorem findMany_sorted_by_kind_and_size :
    let row (id kind : String) (size : Int) : Row :=
      [("id", .text id), ("kind", .text kind), ("size", .number (.integer size))]
    let unsized : Row := [("id", .text "2"), ("kind", .text "a")]
    let unnamed : Row := [("id", .text "5"), ("kind", .null), ("size", .number (.integer 1))]
    let rows := [row "1" "b" 2, unsized, row "3" "b" 2, row "4" "a" 10, unnamed]
    let s : Store := { tables := [("items", rows)], ids := fun _ => "new" }
    let terms : List OrderTerm := [⟨"kind", .asc⟩, ⟨"size", .desc⟩]
    let record (row : Row) := (row.selected none none).record.normalize
    "items" ∉ s.denied ∧ (∀ t ∈ terms, Row.TypedColumn t.column rows) ∧
      ∃ sorted : List Row, sorted.Perm rows ∧
        (sorted.Pairwise fun a b => Row.Before terms a b ∨ Row.Ties terms a b) ∧
        [row "1" "b" 2, row "3" "b" 2].Sublist sorted ∧
        ((Store.backend.findMany "items" { order := ⟨terms⟩, page := { take := some 0 } }).run
          s).result = .ok (sorted.map record) ∧
        ((Store.backend.findFirst "items" { order := ⟨terms⟩ }).run s).result =
          .ok (sorted.head?.map record) := by
  intro row unsized unnamed rows s terms record
  have hallowed : "items" ∉ s.denied := List.not_mem_nil
  have htyped : ∀ t ∈ terms, Row.TypedColumn t.column rows := by
    have hkind : ∀ r ∈ rows, (r.cell "kind").IsWord := by
      have ha : (Json.text "a").IsWord := .inr ⟨"a", rfl, by decide +kernel⟩
      have hb : (Json.text "b").IsWord := .inr ⟨"b", rfl, by decide +kernel⟩
      simp only [rows, List.forall_mem_cons]
      exact ⟨hb, ha, hb, ha, .inl rfl, by simp⟩
    have hsize : ∀ r ∈ rows, (r.cell "size").IsWhole := by
      have hint (i : ℤ) (hi : i.natAbs ≤ 2 ^ 53) : (Json.number (.integer i)).IsWhole :=
        .inr ⟨i, rfl, hi⟩
      simp only [rows, List.forall_mem_cons]
      exact ⟨hint 2 (by decide), .inl rfl, hint 2 (by decide), hint 10 (by decide),
        hint 1 (by decide), by simp⟩
    simp only [terms, List.forall_mem_cons]
    exact ⟨.inr hkind, .inl hsize, by simp⟩
  obtain ⟨sorted, hperm, hsorted, htied, hmany, hfirst⟩ :=
    findMany_sorted (s := s) { order := ⟨terms⟩, page := { take := some 0 } } hallowed rfl htyped
  have hsub : [row "1" "b" 2, row "3" "b" 2].Sublist rows :=
    .cons_cons _ (.cons _ (.cons_cons _ (List.nil_sublist _)))
  refine ⟨hallowed, htyped, sorted, hperm, hsorted, htied _ hsub ?_, hmany, hfirst⟩
  simp [Row.Ties, terms, row, Row.cell, Fields.get?]

end Backend

end TabularQuery
