import TabularQuery.Operation.Read
import TabularQuery.Proofs.Filter.KeyOrder
import TabularQuery.Proofs.Operation.Search

/-!
# The rows of a search

A search for many rows gives back the rows that pass the calls of its filter, as far as
they are in its window.  Without a window and without an order these are the rows that
satisfy the descriptor of the filter, each once and in the order of the table.

## Main definitions

* `Backend.ends_findMany_cut` — the rows that pass the calls of the filter, with a window.
* `Backend.ends_findMany_whole` — all of them, without a window.
* `Backend.findMany_eq_filter_satisfies` — the rows that satisfy its descriptor.
-/

namespace TabularQuery

namespace Backend

/-- A search gives the rows that the backend has found, as far as they are in its window. -/
theorem ends_findMany_of_searches {σ : Type} {b : Backend σ} {table : String} (args : FindMany)
    {rows : List Row} {s t : σ}
    (h : Store.Searches b ((findManyQuery table args).restrict .full args.filter) rows s t) :
    (b.findMany table args).Ends s
      (.ok (((findManyQuery table args).cut rows).map fun row =>
        (row.selected args.select args.relations).record.normalize)) t := by
  have hquery := findManyQuery_eq table args
  rw [findMany]
  generalize findManyQuery table args = q at hquery h ⊢
  have hsingle : (q.restrict .full args.filter).single = false := by rw [hquery]; rfl
  have hrecords : (Store.answer (q.restrict .full args.filter) rows).records =
      (q.cut rows).map fun row => (row.selected args.select args.relations).record := by
    rw [Store.records_answer (by rw [hquery]; rfl) hsingle, hquery]
    rfl
  refine (Session.ends_sendFiltered (h.ends_send .findMany (by simp [hsingle]))).bind ?_
  have hnormalize := Session.ends_normalizeAll
    ((q.cut rows).map fun row => (row.selected args.select args.relations).record) t
  simp only [List.map_map, Function.comp_def] at hnormalize
  rw [hrecords]
  exact hnormalize

/-- The rows that a store finds are those that the filter admits, in order. -/
theorem searches_findMany {s : Store} {table : String} (args : FindMany)
    (ht : table ∉ s.denied) :
    Store.Searches Store.backend ((findManyQuery table args).restrict .full args.filter)
      (s.found table .full args.filter args.order.terms) s
      (s.remember ((findManyQuery table args).restrict .full args.filter)) := by
  rw [findManyQuery_eq]
  exact Store.searches_restrict rfl rfl ht

/-- A search gives the rows that pass the calls of its filter, in its order, as far as they
are in its window.  Nothing but the query that it remembers changes. -/
theorem ends_findMany_cut {s : Store} {table : String} (args : FindMany)
    (ht : table ∉ s.denied) :
    (Store.backend.findMany table args).Ends s
      (.ok (((findManyQuery table args).cut
        (s.found table .full args.filter args.order.terms)).map fun row =>
          (row.selected args.select args.relations).record.normalize))
      (s.remember ((findManyQuery table args).restrict .full args.filter)) :=
  ends_findMany_of_searches args (searches_findMany args ht)

/-- Without a window, a search gives all rows that pass the calls of its filter, in its
order, and leaves its table as it is. -/
theorem ends_findMany_whole {s : Store} {table : String} (args : FindMany)
    (ht : table ∉ s.denied) (htake : args.page.take = some 0) :
    ∃ t, (Store.backend.findMany table args).Ends s
        (.ok ((s.found table .full args.filter args.order.terms).map fun row =>
          (row.selected args.select args.relations).record.normalize)) t ∧
      t.denied = s.denied ∧ t.rows table = s.rows table := by
  have hrange : args.page.resolve.range = none := by
    simp [Pagination.resolve, htake, PageWindow.range]
  have hends := ends_findMany_cut args ht
  have hcut (rows : List Row) : (findManyQuery table args).cut rows = rows := by
    rw [findManyQuery_eq, hrange]
    rfl
  rw [hcut] at hends
  exact ⟨_, hends, Store.denied_remember s _, Store.rows_remember s _ table⟩

/-- Without an order, the rows are in the order of the table. -/
theorem ends_findMany {s : Store} {table : String} (args : FindMany)
    (ht : table ∉ s.denied) (htake : args.page.take = some 0) (horder : args.order.terms = []) :
    ∃ t, (Store.backend.findMany table args).Ends s
      (.ok (((s.rows table).filter (args.filter.admits .full)).map fun row =>
        (row.selected args.select args.relations).record.normalize)) t := by
  obtain ⟨t, hends, -⟩ := ends_findMany_whole args ht htake
  rw [horder, Store.found_nil] at hends
  exact ⟨t, hends⟩

/-- **A search gives the rows that satisfy the descriptor of its filter**, each once and
in the order of the table: with all their columns unless some are selected, and the same
rows whatever the order of the keys of the descriptor. -/
theorem findMany_eq_filter_satisfies {s : Store} {table : String} {w : Json}
    (args : FindMany) (ht : table ∉ s.denied) (hd : w.KeysDistinct)
    (hw : Where.ofJson w = .ok args.filter)
    (htake : args.page.take = some 0) (horder : args.order.terms = []) :
    let rows := (s.rows table).filter fun row => decide (row.Satisfies w)
    let records := rows.map fun row =>
      (row.selected args.select args.relations).record.normalize
    ((Store.backend.findMany table args).run s).result = .ok records ∧
      ((∀ columns ∈ args.select, columns.isEmpty = true) →
        records = rows.map fun row => row.record.normalize) ∧
      ∀ v, w.Reordered v → ∃ other, Where.ofJson v = .ok other ∧
        ((Store.backend.findMany table { args with filter := other }).run s).result =
          .ok records := by
  have hadmits : (fun row => decide (row.Satisfies w)) = args.filter.admits .full := by
    funext row
    rw [Bool.eq_iff_iff, decide_eq_true_iff]
    exact (Where.admits_iff_satisfies hd hw row).symm
  intro rows records
  refine ⟨?_, fun hall => ?_, fun v hv => ?_⟩
  · obtain ⟨t, hends⟩ := ends_findMany args ht htake horder
    rw [← hadmits] at hends
    exact hends.result_eq
  · refine List.map_congr_left fun row _ => ?_
    rw [Row.selected_all row args.relations hall]
  · obtain ⟨other, hother, hsame⟩ := Where.ofJson_reordered hv hd hw
    refine ⟨other, hother, ?_⟩
    obtain ⟨t, hends⟩ := ends_findMany { args with filter := other } ht htake horder
    rw [funext hsame, ← hadmits] at hends
    exact hends.result_eq

/-- A disjunction, a range with two verbs of which the first by precedence counts, and a
null that asks for nothing. -/
theorem findMany_disjunction_and_range :
    let table := "items"
    let wanted : Row := [("kind", .text "b"), ("size", .number (.integer 5))]
    let s : Store :=
      { tables := [(table,
          [[("kind", .text "a"), ("size", .number (.integer 5))], wanted,
            [("kind", .text "b"), ("size", .number (.integer 3))], [("kind", .text "b")]])]
        ids := fun _ => "new" }
    let w : Json := .object
      [("size", .object [("lt", .number (.integer 4)), ("gte", .number (.integer 4))]),
        ("note", .null),
        ("OR", .array [.object [("kind", .text "b")], .object [("kind", .text "c")]])]
    table ∉ s.denied ∧ w.KeysDistinct ∧
      ∃ clause, Where.ofJson w = .ok clause ∧
        ((Store.backend.findMany table
          { filter := clause, page := { take := some 0 } }).run s).result =
            .ok [[("kind", .text "b"), ("size", .int 5)]] := by
  intro table wanted s w
  have hd : w.KeysDistinct := by
    simp [w, Json.keysDistinct_object, Json.keysDistinct_array, Json.KeysDistinct,
      Fields.names]
  have hrows : (s.rows table).filter (fun row => decide (row.Satisfies w)) = [wanted] := by
    rfl
  have hrecord : wanted.record.normalize = [("kind", .text "b"), ("size", .int 5)] := by
    rfl
  obtain ⟨clause, hclause⟩ : ∃ clause, Where.ofJson w = .ok clause := ⟨_, rfl⟩
  obtain ⟨hresult, hall, -⟩ := findMany_eq_filter_satisfies (s := s)
    { filter := clause, page := { take := some 0 } } List.not_mem_nil hd hclause
    rfl rfl
  refine ⟨List.not_mem_nil, hd, clause, hclause, ?_⟩
  rw [hresult, hall (by simp), hrows, List.map_singleton, hrecord]

end Backend

end TabularQuery
