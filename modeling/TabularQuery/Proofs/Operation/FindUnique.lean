import TabularQuery.Operation.Read
import TabularQuery.Proofs.Operation.Search

/-!
# The one row of a filter

A search for one row gives it back if the filter admits exactly one, and otherwise none:
that there are several is no fault, and is not told from that there is none.
-/

namespace TabularQuery.Backend

variable {s : Store} {table : String} (args : FindUnique)

theorem plain_findUniqueQuery (table : String) :
    (findUniqueQuery table args).Plain :=
  (Query.plain_select table _).expectSingle

/-- The only row that a filter admits is found. -/
theorem ends_findUnique_some (ht : table ∉ s.denied) {row : Row}
    (hrow : (s.rows table).filter (args.filter.admits .full) = [row]) :
    (Store.backend.findUnique table args).Ends s
      (.ok (some (row.selected args.select args.relations).record.normalize))
      (s.remember ((findUniqueQuery table args).restrict .full args.filter)) := by
  have hplain := plain_findUniqueQuery args table
  have hsearch := Store.ends_searchOne (d := .full) .findUnique hplain ht hrow
  have hfound := Session.ends_orNone_ok .findUnique table hsearch
  rw [Store.records_searchOne hplain rfl] at hfound
  exact hfound

/-- Nothing is found if a filter admits no row or several. -/
theorem ends_findUnique_none (ht : table ∉ s.denied)
    (hne : (s.rows table).countP (args.filter.admits .full) ≠ 1) :
    (Store.backend.findUnique table args).Ends s (.ok none)
      (s.remember ((findUniqueQuery table args).restrict .full args.filter)) := by
  have hsearch := Store.ends_searchOne_error (d := .full) .findUnique
    (plain_findUniqueQuery args table) rfl ht hne
  exact Session.ends_orNone_notFound .findUnique table hsearch
    (Store.isNotFound_cardinalityFault _ _ _)

end TabularQuery.Backend
