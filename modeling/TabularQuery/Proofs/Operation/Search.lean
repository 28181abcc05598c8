import TabularQuery.Proofs.Filter.Meaning
import TabularQuery.Proofs.Store.Execution

/-!
# Searches with a where-clause

A search without a window is about the rows that its clause admits, in its order.

## Main definitions

* `Query.Plain` — a search without filters of its own and without a window.
* `Store.found` — the rows that a clause admits, in an order.
* `Store.ends_search`, `Store.ends_searchOne` — what searches end with.
-/

namespace TabularQuery

/-- Without keys of an order the rows stay as they are. -/
theorem sortRows_nil (rows : List Row) : sortRows [] rows = rows := by
  have hfirst (row : Row) (sorted : List Row) :
      insertFromEnd (fun a b => Row.compareBy [] a b == .lt) row sorted = row :: sorted := by
    cases sorted <;> rfl
  have hfold (acc : List Row) :
      rows.foldl
        (fun sorted row => insertFromEnd (fun a b => Row.compareBy [] a b == .lt) row sorted)
        acc = rows.reverse ++ acc := by
    induction rows generalizing acc with
    | nil => rfl
    | cons row rest ih =>
      rw [List.foldl_cons, hfirst, ih, List.reverse_cons, List.append_assoc]
      rfl
  rw [sortRows, sortBy, hfold, List.append_nil, List.reverse_reverse]

/-- Ordering rows keeps their number. -/
theorem length_sortRows (order : List OrderTerm) (rows : List Row) :
    (sortRows order rows).length = rows.length :=
  (sortBy_perm _ rows).length_eq

/-- A query with the filters of a clause only accepts the rows that the clause admits. -/
theorem Query.accepts_restrict {q : Query} (hq : q.filters = []) (d : Dispatch) (w : Where)
    (row : Row) : (q.restrict d w).accepts row = w.admits d row := by
  rw [Query.accepts, Query.restrict_eq, Query.filter, hq]
  rfl

theorem Query.accepts_restrict_eq {q : Query} (hq : q.filters = []) (d : Dispatch)
    (w : Where) : (q.restrict d w).accepts = w.admits d :=
  funext fun row => accepts_restrict hq d w row

/-- A search without filters of its own and without a window. -/
structure Query.Plain (q : Query) : Prop where
  action : q.action = .select false
  filters : q.filters = []
  range : q.range = none
  limit : q.limit = none

theorem Query.plain_select (table columns : String) :
    ((Query.ofTable table).select columns).Plain :=
  ⟨rfl, rfl, rfl, rfl⟩

theorem Query.Plain.expectSingle {q : Query} (h : q.Plain) : q.expectSingle.Plain :=
  ⟨h.action, h.filters, h.range, h.limit⟩

theorem Query.Plain.orderBy {q : Query} (h : q.Plain) (terms : List OrderTerm) :
    (q.orderBy terms).Plain :=
  ⟨h.action, h.filters, h.range, h.limit⟩

namespace Store

variable {s : Store} {q : Query} {d : Dispatch} {w : Where}

/-- The rows that a clause admits, in an order. -/
def found (s : Store) (table : String) (d : Dispatch) (w : Where) (order : List OrderTerm) :
    List Row :=
  sortRows order ((s.rows table).filter (w.admits d))

/-- Without an order they are in the order of the table. -/
theorem found_nil (s : Store) (table : String) (d : Dispatch) (w : Where) :
    s.found table d w [] = (s.rows table).filter (w.admits d) :=
  sortRows_nil _

theorem length_found (s : Store) (table : String) (d : Dispatch) (w : Where)
    (order : List OrderTerm) :
    (s.found table d w order).length = (s.rows table).countP (w.admits d) := by
  rw [found, length_sortRows, List.countP_eq_length_filter]

/-- One row needs no order. -/
theorem found_singleton {table : String} {row : Row}
    (h : (s.rows table).filter (w.admits d) = [row]) (order : List OrderTerm) :
    s.found table d w order = [row] := by
  rw [found, h]
  rfl

theorem matching_restrict (hfilters : q.filters = []) :
    s.matching (q.restrict d w) = s.found q.table d w q.order := by
  have hrows : s.matching (q.restrict d w) =
      sortRows q.order ((s.rows q.table).filter (q.restrict d w).accepts) := rfl
  rw [hrows, Query.accepts_restrict_eq hfilters, found]

theorem cut_restrict (h : q.Plain) {α : Type} (rows : List α) :
    (q.restrict d w).cut rows = rows := by
  have hrange : (q.restrict d w).range = none := h.range
  have hlimit : (q.restrict d w).limit = none := h.limit
  simp only [Query.cut, hrange, hlimit]

theorem action_restrict (h : q.Plain) : (q.restrict d w).action = .select false :=
  h.action

theorem returnsRows_restrict (h : q.Plain) : (q.restrict d w).returnsRows = true := by
  rw [Query.returnsRows, action_restrict h]
  rfl

/-- A search is about the rows that its clause admits, in its order. -/
theorem searches_restrict (haction : q.action = .select false) (hfilters : q.filters = [])
    (ht : q.table ∉ s.denied) :
    Searches backend (q.restrict d w) (s.found q.table d w q.order) s
      (s.remember (q.restrict d w)) := by
  rw [← matching_restrict hfilters]
  exact searches_backend haction ht

/-! ## Many rows -/

/-- A search for many rows, with a window or without one, is about the rows that its clause
admits. -/
theorem ends_searchMany (op : Operation) (haction : q.action = .select false)
    (hfilters : q.filters = []) (hsingle : q.single = false) (ht : q.table ∉ s.denied) :
    (Session.sendFiltered backend op d w q).Ends s
      (.ok (answer (q.restrict d w) (s.found q.table d w q.order)))
      (s.remember (q.restrict d w)) := by
  have hsingle' : (q.restrict d w).single = false := hsingle
  exact Session.ends_sendFiltered
    ((searches_restrict haction hfilters ht).ends_send op (by simp [hsingle']))

/-- The same for a search without a window. -/
theorem ends_search (op : Operation) (h : q.Plain) (hsingle : q.single = false)
    (ht : q.table ∉ s.denied) :
    (Session.sendFiltered backend op d w q).Ends s
      (.ok (answer (q.restrict d w) (s.found q.table d w q.order)))
      (s.remember (q.restrict d w)) :=
  ends_searchMany op h.action h.filters hsingle ht

/-- A search for many rows gives back the records of the rows it is about. -/
theorem records_search (h : q.Plain) (hsingle : q.single = false) (rows : List Row) :
    (answer (q.restrict d w) rows).records =
      rows.map fun row => (row.project q.columns).record := by
  rw [records_answer (returnsRows_restrict h) hsingle, cut_restrict h]
  rfl

/-! ## One row -/

/-- A search for one row is about the row that its clause admits. -/
theorem ends_searchOne (op : Operation) (h : q.Plain) (ht : q.table ∉ s.denied) {row : Row}
    (hrow : (s.rows q.table).filter (w.admits d) = [row]) :
    (Session.sendFiltered backend op d w q).Ends s (.ok (answer (q.restrict d w) [row]))
      (s.remember (q.restrict d w)) := by
  have hsearches := searches_restrict (s := s) (d := d) (w := w) h.action h.filters ht
  rw [found_singleton hrow] at hsearches
  refine Session.ends_sendFiltered (hsearches.ends_send op fun _ => ?_)
  rw [cut_restrict h]
  rfl

/-- A search for one row fails if its clause admits no row or several. -/
theorem ends_searchOne_error (op : Operation) (h : q.Plain) (hsingle : q.single = true)
    (ht : q.table ∉ s.denied) (hne : (s.rows q.table).countP (w.admits d) ≠ 1) :
    (Session.sendFiltered backend op d w q).Ends s
      (.error (.backend op q.table
        (cardinalityFault ((s.rows q.table).countP (w.admits d)))))
      (s.remember (q.restrict d w)) := by
  have hcount : ((q.restrict d w).cut (s.found q.table d w q.order)).length =
      (s.rows q.table).countP (w.admits d) := by
    rw [cut_restrict h, length_found]
  have hsend := (searches_restrict (s := s) h.action h.filters ht).ends_send_error op hsingle
    (by rwa [hcount])
  rw [hcount] at hsend
  exact Session.ends_sendFiltered hsend

/-- A search for one row gives back its record. -/
theorem records_searchOne (h : q.Plain) (hsingle : q.single = true) (row : Row) :
    (answer (q.restrict d w) [row]).records = [(row.project q.columns).record] := by
  rw [records_answer_single (returnsRows_restrict h) hsingle (cut_restrict h [row])]
  rfl

/-- No row and several rows are the same fault. -/
theorem isNotFound_cardinalityFault (op : Operation) (table : String) (n : Nat) :
    (DataFault.backend op table (cardinalityFault n)).isNotFound = true := by
  rw [DataFault.isNotFound, DataFault.code?, cardinalityFault]
  exact beq_self_eq_true _

end Store

end TabularQuery
