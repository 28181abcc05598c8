import TabularQuery.Proofs.Store.Execution
import TabularQuery.Proofs.Store.Sorting

/-!
# Sorts of which the laws are known

A store hands the rows that a search has found to a sort of which it knows the laws only.  A
sort that returns keeps the rows.  Where the comparison is transitive on them it returns, and
then they are in order and equal ones in the sequence in which they were; anywhere else it may
return them in any sequence, or not return at all.  So all sorts do the same where the columns
of the order are coherent, and a store with any of them then answers like one that sorts by
insertion.

## Main definitions

* `Sorter` — the laws, with `Sorter.insertion` and `Sorter.checked` which obey them.
* `Sorter.run_eq_sortBy` — where the comparison is transitive all sorts do the same.
* `Sorter.backend` — a store with a sort, with `Sorter.execute_eq` and
  `Sorter.insertion_execute`.
* `Session.Returns` — a session returns a result, and leaves a store.
-/

namespace TabularQuery

open Std (OrientedCmp)

/-! ## Sorts -/

/-- A sort of rows by a comparison that turns around with its arguments. -/
structure Sorter where
  /-- The rows as they are sorted, or nothing if the sort does not return. -/
  run : (Row → Row → Ordering) → List Row → Option (List Row)
  perm : ∀ {cmp : Row → Row → Ordering} {rows sorted : List Row},
    run cmp rows = some sorted → sorted.Perm rows
  sorts : ∀ {cmp : Row → Row → Ordering} [OrientedCmp cmp] {rows : List Row},
    TransitiveOn cmp rows → ∃ sorted, run cmp rows = some sorted ∧
      sorted.Pairwise (fun a b => cmp a b ≠ .gt) ∧
      ∀ a ∈ rows, sorted.filter (fun b => cmp a b == .eq) = rows.filter fun b => cmp a b == .eq

namespace Sorter

/-- Sorting by insertion, which always returns. -/
def insertion : Sorter where
  run cmp rows := some (sortBy (fun a b => cmp a b == .lt) rows)
  perm h := Option.some.inj h ▸ sortBy_perm _ _
  sorts h := ⟨_, rfl, pairwise_sortBy h, fun _ => filter_sortBy h⟩

instance {α : Type} {cmp : α → α → Ordering} {xs : List α} : Decidable (TransitiveOn cmp xs) :=
  inferInstanceAs (Decidable (∀ a ∈ xs, ∀ b ∈ xs, ∀ c ∈ xs,
    (cmp a b).isLE → (cmp b c).isLE → (cmp a c).isLE))

/-- Sorting that does not return where the comparison turns out not to be transitive. -/
def checked : Sorter where
  run cmp rows := if TransitiveOn cmp rows then insertion.run cmp rows else none
  perm h := by
    split at h
    · exact insertion.perm h
    · cases h
  sorts h := by
    rw [if_pos h]
    exact insertion.sorts h

variable (sorter : Sorter)

/-- **Where the comparison is transitive all sorts do the same.** -/
theorem run_eq_sortBy {cmp : Row → Row → Ordering} [OrientedCmp cmp] {rows : List Row}
    (h : TransitiveOn cmp rows) :
    sorter.run cmp rows = some (sortBy (fun a b => cmp a b == .lt) rows) := by
  obtain ⟨sorted, hrun, hsorted, hties⟩ := sorter.sorts h
  have hperm := sorter.perm hrun
  rw [hrun, eq_of_pairwise_of_filter_eq (hperm.trans (sortBy_perm _ rows).symm) hsorted
    (pairwise_sortBy h)]
  intro a ha
  rw [hties a (hperm.subset ha), filter_sortBy h (hperm.subset ha)]

/-- The rows in an order. -/
def sort (order : List OrderTerm) (rows : List Row) : Option (List Row) :=
  sorter.run (Row.compareBy order) rows

theorem sort_eq_sortRows {order : List OrderTerm} {rows : List Row}
    (h : TransitiveOn (Row.compareBy order) rows) :
    sorter.sort order rows = some (sortRows order rows) :=
  sorter.run_eq_sortBy h

/-- No rows need no order. -/
theorem sort_nil (order : List OrderTerm) : sorter.sort order [] = some [] :=
  sorter.sort_eq_sortRows fun _ h => nomatch h

/-- A text between two numbers by its characters. -/
example :
    let row (size : String) : Row := [("size", .text size)]
    checked.sort [⟨"size", .asc⟩] [row "10", row "1a", row "2"] = none := by
  decide +kernel

/-! ## Stores with a sort -/

/-- A store with a sort, as a backend. -/
def backend : Backend (Option Store) :=
  Store.backendBy sorter.sort

variable {s : Store} {q : Query} {rows : List Row}

/-- A search is about the rows that the sort returns. -/
theorem searches_backend (hq : q.action = .select false) (ht : q.table ∉ s.denied)
    (hsort : sorter.sort q.order ((s.rows q.table).filter q.accepts) = some rows) :
    Store.Searches sorter.backend q rows (some s) (some (s.remember q)) := by
  simp only [Store.Searches, backend, Store.backendBy, Option.bind_some,
    Store.executeBy_select sorter.sort hq ht, hsort]
  rfl

/-- Where the sort does not return there is no store afterwards. -/
theorem execute_of_sort_eq_none (hq : q.action = .select false) (ht : q.table ∉ s.denied)
    (hsort : sorter.sort q.order ((s.rows q.table).filter q.accepts) = none) :
    sorter.backend.execute q (some s) = ({ outcome := .error {} }, none) := by
  simp only [backend, Store.backendBy, Option.bind_some,
    Store.executeBy_select sorter.sort hq ht, hsort]
  rfl

/-- If the sort returns the rows of the filter as insertion does, so does the whole query. -/
theorem executeBy_eq_some (hsort : sorter.sort q.order ((s.rows q.table).filter q.accepts) =
    some (s.matching q)) : Store.executeBy sorter.sort q s = some (Store.execute q s) := by
  have hact (inserted : List Row) :
      Store.actBy sorter.sort q inserted (s.rows q.table) =
        some (Store.act q inserted (s.rows q.table)) := by
    cases hq : q.action with
    | select head =>
      rw [Store.actBy_select _ hq, hsort, Store.act_eq, hq]
      rfl
    | _ =>
      simp only [Store.act, Store.actBy, hq]
      rfl
  rw [Store.executeBy_eq, Store.execute_eq_respond]
  by_cases ht : q.table ∈ s.denied
  · rw [Store.runBy_of_denied _ (s := s.remember q) ht,
      Store.run_of_denied (s := s.remember q) ht]
    rfl
  · rw [Store.runBy_eq _ (s := s.remember q) ht, Store.run_eq (s := s.remember q) ht,
      Store.rows_remember, hact]
    rfl

/-- **A store answers with any sort as it does with insertion**, where the comparison is
transitive on the rows of the filter. -/
theorem execute_eq (h : TransitiveOn (Row.compareBy q.order)
    ((s.rows q.table).filter q.accepts)) :
    sorter.backend.execute q (some s) =
      ((Store.backend.execute q s).1, some (Store.backend.execute q s).2) := by
  simp only [backend, Store.backendBy, Option.bind_some,
    sorter.executeBy_eq_some (sorter.sort_eq_sortRows h)]
  rfl

/-- Insertion is the sort of the store that has none to choose. -/
theorem insertion_execute (q : Query) (s : Store) :
    insertion.backend.execute q (some s) =
      ((Store.backend.execute q s).1, some (Store.backend.execute q s).2) := by
  simp only [backend, Store.backendBy, Option.bind_some, insertion.executeBy_eq_some rfl]
  rfl

end Sorter

/-! ## Sessions that return -/

namespace Session

variable {σ α : Type} {p : Session (Option σ) α} {s : σ}

/-- A session on a state that may be lost returns a result and has not lost it. -/
def Returns (p : Session (Option σ) α) (s : σ) (r : Except DataFault α) : Prop :=
  ∃ t, p.Ends (some s) r (some t)

theorem Ends.returns_iff {r r' : Except DataFault α} {t : σ}
    (h : p.Ends (some s) r (some t)) : p.Returns s r' ↔ r' = r := by
  constructor
  · rintro ⟨u, hu⟩
    rw [← hu.result_eq, h.result_eq]
  · rintro rfl
    exact ⟨t, h⟩

theorem Ends.not_returns {r : Except DataFault α} (h : p.Ends (some s) r none)
    (r' : Except DataFault α) : ¬ p.Returns s r' := by
  rintro ⟨t, ht⟩
  cases h.state_eq.symm.trans ht.state_eq

end Session

end TabularQuery
