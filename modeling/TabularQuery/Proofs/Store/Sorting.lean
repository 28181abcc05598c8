import Mathlib.Data.List.Sort
import TabularQuery.Proofs.Store.Comparison
import TabularQuery.Store.Filtering

/-!
# Sorted rows

Elements are put one after the other into a list that is kept from its end, so that sorting is
insertion sort of the reversed list.  Elements that are in order already stay so, without any
law of the comparison; for the whole list to be in order, the comparison has to be transitive
on it.  On rows it is that where no column of the order mixes numbers and other texts in
contradiction to their characters, or numbers and what is none.

## Main definitions

* `sortBy_eq_insertionSort` — sorting is insertion sort.
* `pairwise_sortBy`, `sublist_sortBy` — what is sorted is in order, and the sort is stable;
  with `pairwise_sortBy_of_iff` and `sublist_sortBy_of_iff` by a relation.
* `eq_of_pairwise_of_filter_eq` — this determines the sorted list.
* `Row.compareBy_orders_coherent_columns` — the order of rows.
-/

namespace TabularQuery

open Std (OrientedCmp ReflCmp TransCmp)

/-! ## Insertion -/

section Insertion

variable {α : Type}

theorem insertFromEnd_eq_orderedInsert (before : α → α → Bool) (x : α) (xs : List α) :
    insertFromEnd before x xs = xs.orderedInsert (fun a b => before a b = false) x := by
  induction xs with
  | nil => rfl
  | cons y rest ih =>
    rw [insertFromEnd, List.orderedInsert_cons, ih]
    cases before x y <;> rfl

/-- **Sorting is insertion sort**, from the end of the list on. -/
theorem sortBy_eq_insertionSort (before : α → α → Bool) (xs : List α) :
    sortBy before xs =
      (xs.reverse.insertionSort fun a b => before a b = false).reverse := by
  simp only [sortBy, insertFromEnd_eq_orderedInsert, List.insertionSort, List.foldr_reverse]

variable {cmp : α → α → Ordering} {xs : List α}

/-- An element is put behind those that it does not come before. -/
theorem before_eq_false_iff {a b : α} : (cmp a b == .lt) = false ↔ cmp a b ≠ .lt :=
  beq_eq_false_iff_ne

variable [OrientedCmp cmp]

theorem ne_lt_iff_ne_gt {a b : α} : cmp a b ≠ .lt ↔ cmp b a ≠ .gt :=
  OrientedCmp.gt_iff_lt.symm.not

/-- **What is sorted is in order** if the comparison is transitive on it. -/
theorem pairwise_sortBy (h : TransitiveOn cmp xs) :
    (sortBy (fun a b => cmp a b == .lt) xs).Pairwise fun a b => cmp a b ≠ .gt := by
  have htrans := transitiveOn_iff.1 h
  -- the law holds of the elements of the list only, which are therefore sorted as such
  let after (a b : { x // x ∈ xs }) : Prop := compareWithin cmp xs a b ≠ .lt
  have htotal : Std.Total after :=
    ⟨fun a b => or_iff_not_imp_left.2 fun hab => OrientedCmp.not_lt_of_lt (not_not.1 hab)⟩
  have hafter : IsTrans _ after := ⟨fun a b c hab hbc => by
    have hba := Ordering.ne_gt_iff_isLE.1 (ne_lt_iff_ne_gt.1 hab)
    have hcb := Ordering.ne_gt_iff_isLE.1 (ne_lt_iff_ne_gt.1 hbc)
    exact ne_lt_iff_ne_gt.2 (Ordering.ne_gt_iff_isLE.2 (TransCmp.isLE_trans hcb hba))⟩
  have hsorted := List.pairwise_insertionSort after xs.attach.reverse
  have hmap : (xs.attach.reverse.insertionSort after).map Subtype.val =
      xs.reverse.insertionSort fun a b => (cmp a b == .lt) = false := by
    rw [List.map_insertionSort after (fun a b => (cmp a b == .lt) = false) Subtype.val
      xs.attach.reverse fun a _ b _ => before_eq_false_iff.symm, List.map_reverse,
      List.attach_map_subtype_val]
  rw [sortBy_eq_insertionSort, List.pairwise_reverse, ← hmap, List.pairwise_map]
  exact hsorted.imp ne_lt_iff_ne_gt.1

/-- **Sorting is stable**: elements that are in order stay in their sequence. -/
theorem sublist_sortBy {ys : List α} (h : ys.Sublist xs)
    (hys : ys.Pairwise fun a b => cmp a b ≠ .gt) :
    ys.Sublist (sortBy (fun a b => cmp a b == .lt) xs) := by
  have hreverse : ys.reverse.Pairwise fun a b => (cmp a b == .lt) = false := by
    rw [List.pairwise_reverse]
    exact hys.imp fun hab => before_eq_false_iff.2 (ne_lt_iff_ne_gt.2 hab)
  rw [sortBy_eq_insertionSort, ← List.reverse_sublist, List.reverse_reverse]
  exact List.sublist_insertionSort hreverse (List.reverse_sublist.2 h)

/-- Elements that are equal to one of them stay in their sequence. -/
theorem filter_sortBy (h : TransitiveOn cmp xs) {a : α} (ha : a ∈ xs) :
    (sortBy (fun a b => cmp a b == .lt) xs).filter (fun b => cmp a b == .eq) =
      xs.filter fun b => cmp a b == .eq := by
  have hties : (xs.filter fun b => cmp a b == .eq).Pairwise fun b c => cmp b c ≠ .gt := by
    refine List.pairwise_of_forall_mem_list fun b hb c hc => ?_
    obtain ⟨hb, hab⟩ := List.mem_filter.1 hb
    obtain ⟨hc, hac⟩ := List.mem_filter.1 hc
    have hba : cmp b a = .eq := OrientedCmp.eq_comm.1 (beq_iff_eq.1 hab)
    rw [h.eq_trans hb ha hc hba (beq_iff_eq.1 hac)]
    decide
  have hsub := (sublist_sortBy List.filter_sublist hties).filter fun b => cmp a b == .eq
  rw [List.filter_filter, List.filter_congr fun b _ => Bool.and_self _] at hsub
  exact (hsub.eq_of_length ((sortBy_perm _ xs).filter _).length_eq.symm).symm

/-- **Being in order and stable determines a list**: of two lists with the same elements that
are in order, and in which equal elements have the same sequence, neither differs. -/
theorem eq_of_pairwise_of_filter_eq {ys : List α} (hperm : xs.Perm ys)
    (hxs : xs.Pairwise fun a b => cmp a b ≠ .gt) (hys : ys.Pairwise fun a b => cmp a b ≠ .gt)
    (hties : ∀ a ∈ xs, xs.filter (fun b => cmp a b == .eq) = ys.filter fun b => cmp a b == .eq) :
    xs = ys := by
  induction xs generalizing ys with
  | nil => exact hperm.nil_eq
  | cons x xs ih =>
    cases ys with
    | nil => exact absurd hperm.symm.nil_eq (List.cons_ne_nil x xs).symm
    | cons y ys =>
      obtain ⟨hx, hxtail⟩ := List.pairwise_cons.1 hxs
      obtain ⟨hy, hytail⟩ := List.pairwise_cons.1 hys
      have hxx : cmp x x = .eq := ReflCmp.compare_self
      -- each first element is in the other list, and so not behind its first element
      have hxy : cmp x y = .eq := by
        by_cases heq : x = y
        · rw [← heq, hxx]
        · have hyx : y ∈ xs :=
            (List.mem_cons.1 (hperm.symm.subset List.mem_cons_self)).resolve_left (Ne.symm heq)
          have hxy : x ∈ ys :=
            (List.mem_cons.1 (hperm.subset List.mem_cons_self)).resolve_left heq
          have hle := hx y hyx
          have hge := ne_lt_iff_ne_gt.2 (hy x hxy)
          cases hcmp : cmp x y with
          | lt => exact absurd hcmp hge
          | eq => rfl
          | gt => exact absurd hcmp hle
      have hfirst := hties x List.mem_cons_self
      rw [List.filter_cons, List.filter_cons, hxx, hxy] at hfirst
      obtain rfl := (List.cons.inj hfirst).1
      congr 1
      refine ih hperm.cons_inv hxtail hytail fun a ha => ?_
      have hrest := hties a (List.mem_cons_of_mem x ha)
      rw [List.filter_cons, List.filter_cons] at hrest
      split at hrest
      · exact (List.cons.inj hrest).2
      · exact hrest

variable {R : α → α → Prop}

/-- Where the comparison means a relation, what is sorted is in this relation, -/
theorem pairwise_sortBy_of_iff (h : TransitiveOn cmp xs)
    (hR : ∀ a ∈ xs, ∀ b ∈ xs, cmp a b ≠ .gt ↔ R a b) :
    (sortBy (fun a b => cmp a b == .lt) xs).Pairwise R := by
  have hmem {a : α} (ha : a ∈ sortBy (fun a b => cmp a b == .lt) xs) : a ∈ xs :=
    (sortBy_perm _ xs).subset ha
  exact (pairwise_sortBy h).imp_of_mem fun ha hb hab => (hR _ (hmem ha) _ (hmem hb)).1 hab

/-- and elements that are in it stay in their sequence. -/
theorem sublist_sortBy_of_iff (hR : ∀ a ∈ xs, ∀ b ∈ xs, cmp a b ≠ .gt ↔ R a b) {ys : List α}
    (h : ys.Sublist xs) (hys : ys.Pairwise R) :
    ys.Sublist (sortBy (fun a b => cmp a b == .lt) xs) :=
  sublist_sortBy h (hys.imp_of_mem fun ha hb hab =>
    (hR _ (h.subset ha) _ (h.subset hb)).2 hab)

end Insertion

/-! ## Rows -/

namespace Row

/-- **Rows are ordered where the columns of the order are coherent.**  The comparison of two
rows turns around with them, whatever their cells are.  It is transitive on rows where the
columns of the order are coherent, and for one column only there; then the sorted rows are in
order. -/
theorem compareBy_orders_coherent_columns (terms : List OrderTerm) :
    (∀ a b : Row, compareBy terms b a = (compareBy terms a b).swap) ∧
    ∀ rows : List Row,
      ((∀ t ∈ terms, Coherent (texts t.column rows)) →
        TransitiveOn (compareBy terms) rows ∧
        (∀ a ∈ rows, ∀ b ∈ rows, ∀ c ∈ rows,
          compareBy terms a b = .eq → compareBy terms b c = .eq → compareBy terms a c = .eq) ∧
        (sortRows terms rows).Perm rows ∧
        (sortRows terms rows).Pairwise fun a b => compareBy terms a b ≠ .gt) ∧
      (∀ t, terms = [t] → TransitiveOn (compareBy terms) rows →
        Coherent (texts t.column rows)) := by
  refine ⟨fun a b => OrientedCmp.eq_swap, fun rows => ⟨fun hcoherent => ?_, ?_⟩⟩
  · have htrans : TransitiveOn (compareBy terms) rows :=
      transitiveOn_compareBy fun t ht =>
        transitiveOn_compareByTerm_iff.2 (hcoherent t ht).transitiveOn
    exact ⟨htrans, fun a ha b hb c hc => htrans.eq_trans ha hb hc, sortBy_perm _ rows,
      pairwise_sortBy htrans⟩
  · rintro t rfl htrans
    rw [compareBy_singleton, transitiveOn_compareByTerm_iff] at htrans
    exact transitiveOn_compareTexts_iff.1 htrans

/-- Numbers in several forms, a text behind all of them, and a row without a cell. -/
theorem compareBy_orders_numbers_and_text :
    let row (size : Json) (name : String) : Row := [("size", size), ("name", .text name)]
    let terms : List OrderTerm := [⟨"size", .asc⟩, ⟨"name", .desc⟩]
    let rows : List Row :=
      [row (.number (.integer 10)) "b", row (.text "9") "a", [("name", .text "c")],
        row (.text "kg") "a", row (.text "9.0") "c"]
    (∀ t ∈ terms, Coherent (texts t.column rows)) ∧
      TransitiveOn (compareBy terms) rows ∧
      sortRows terms rows =
        [row (.text "9.0") "c", row (.text "9") "a", row (.number (.integer 10)) "b",
          row (.text "kg") "a", [("name", .text "c")]] ∧
      (sortRows terms rows).Pairwise fun a b => compareBy terms a b ≠ .gt := by
  intro row terms rows
  have hcoherent : ∀ t ∈ terms, Coherent (texts t.column rows) := by decide +kernel
  obtain ⟨htrans, -, -, hsorted⟩ :=
    ((compareBy_orders_coherent_columns terms).2 rows).1 hcoherent
  exact ⟨hcoherent, htrans, rfl, hsorted⟩

/-- A text between two numbers by its characters takes the three rows round in a circle, so
that they cannot be sorted. -/
theorem compareBy_cycles_at_text_between_numbers :
    let row (size : String) : Row := [("size", .text size)]
    let terms : List OrderTerm := [⟨"size", .asc⟩]
    let rows : List Row := [row "10", row "1a", row "2"]
    compareBy terms (row "2") (row "10") = .lt ∧ compareBy terms (row "10") (row "1a") = .lt ∧
      compareBy terms (row "1a") (row "2") = .lt ∧
      ¬ (sortRows terms rows).Pairwise fun a b => compareBy terms a b ≠ .gt := by
  decide +kernel

end Row

end TabularQuery
