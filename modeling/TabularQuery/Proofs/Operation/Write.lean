import TabularQuery.Operation.Write
import TabularQuery.Proofs.Operation.Search

/-!
# Writing one row

An insertion puts one row at the end of its table and gives it back.  A change whose
filter admits exactly one row changes that row at its place and gives it back.

## Main definitions

* `Query.GivesBack` — a query that gives back the one row that it writes.
* `Store.Grown` — a store after rows were inserted into a table.
* `Store.inserted`, `Store.changed` — what a write puts into the table.
* `Backend.updateQuery` — the query of a change.
* `Backend.ends_create`, `Backend.ends_update` — what the writes end with.
-/

namespace TabularQuery

/-- A query that gives back the one row that it writes, without a window. -/
structure Query.GivesBack (q : Query) : Prop where
  writes : q.action.isSelect = false
  columns : q.columns.isSome = true
  range : q.range = none
  limit : q.limit = none
  single : q.single = true

namespace Store

/-- The row of a record as it is inserted: with an id. -/
def inserted (s : Store) (r : Record) : Row :=
  (withId (s.ids s.drawn) r.toMembers).1

/-- The rows of a table after values were set in those that a clause admits. -/
def changed (s : Store) (table : String) (w : Where) (values : Row) : List Row :=
  (s.rows table).map fun row => if w.admits .full row then Fields.putAll values row else row

/-- Where one row alone is admitted, it alone is changed, at its place. -/
theorem changed_of_only {s : Store} {table : String} {w : Where} {values : Row}
    {before after : List Row} {row : Row} (hrows : s.rows table = before ++ row :: after)
    (hrow : w.admits .full row = true)
    (hothers : ∀ other ∈ before ++ after, w.admits .full other = false) :
    s.changed table w values = before ++ Fields.putAll values row :: after := by
  have hkept {rows : List Row} (h : ∀ other ∈ rows, w.admits .full other = false) :
      (rows.map fun row => if w.admits .full row then Fields.putAll values row else row) =
        rows := by
    refine (List.map_congr_left fun other hother => ?_).trans (List.map_id rows)
    rw [h other hother]
    rfl
  obtain ⟨hbefore, hafter⟩ := List.forall_mem_append.1 hothers
  rw [changed, hrows, List.map_append, List.map_cons, if_pos hrow, hkept hbefore, hkept hafter]

/-- A store after rows were inserted into a table: they stand at its end, with ids that were
taken from the supply, and nothing else is new but the queries. -/
structure Grown (table : String) (new : List Row) (s t : Store) : Prop where
  denied : t.denied = s.denied
  ids : t.ids = s.ids
  drawn : t.drawn = (withIds s.ids s.drawn new).2
  rows : t.rows table = s.rows table ++ (withIds s.ids s.drawn new).1
  others : ∀ other, other ≠ table → t.rows other = s.rows other

/-- A query that inserts rows is answered with them. -/
theorem execute_grown {s : Store} {q : Query} {new : List Row} (hq : q.action = .insert new)
    (ht : q.table ∉ s.denied) (hone : q.single = true → new.length = 1) :
    ∃ t, execute q s = (.ok (answer q (withIds s.ids s.drawn new).1), t) ∧
      Grown q.table new s t := by
  have hexecute := execute_insert hq ht rfl (by rwa [length_withIds])
  refine ⟨_, hexecute, rfl, rfl, rfl, by simp, fun other hother => ?_⟩
  rw [rows_setRows_of_ne hother]
  rfl

/-- The record of the row that is written comes back. -/
theorem ends_written {q : Query} (h : q.GivesBack) (op : Operation) (table : String)
    (row : Row) (s : Store) :
    (Session.writtenRecord op table (answer q [row])).Ends s
      (.ok (row.project q.columns).record.normalize) s := by
  have hreturns : q.returnsRows = true := by
    have hwrites := h.writes
    rw [Query.returnsRows]
    cases haction : q.action with
    | select head => simp [haction, Action.isSelect] at hwrites
    | _ => exact h.columns
  have hcut : q.cut [row] = [row] := by
    simp only [Query.cut, h.range, h.limit]
  have hrecords := records_answer_single hreturns h.single hcut
  exact Session.ends_writtenRecord (congrArg List.head? hrecords) s

/-- A query that inserts a row gives it back. -/
theorem ends_insertion {s : Store} {q : Query} (h : q.GivesBack) {data : Record}
    (hq : q.action = .insert [data.toMembers]) (ht : q.table ∉ s.denied) (op : Operation) :
    ∃ t, (Session.send backend op q >>= Session.writtenRecord op q.table).Ends s
        (.ok ((s.inserted data).project q.columns).record.normalize) t ∧
      Grown q.table [data.toMembers] s t := by
  obtain ⟨t, hexecute, hgrown⟩ := execute_grown hq ht fun _ => rfl
  have hsend := ends_send_ok op hexecute
  have hwritten := ends_written h op q.table (s.inserted data) t
  exact ⟨t, hsend.bind hwritten, hgrown⟩

/-- A query that sets values in the only row that its clause admits gives that row back as it
is then. -/
theorem ends_change {s : Store} {q : Query} (h : q.GivesBack) (hfilters : q.filters = [])
    {values : Row} (hq : q.action = .update values) (ht : q.table ∉ s.denied) {w : Where}
    {row : Row} (hrow : (s.rows q.table).filter (w.admits .full) = [row]) (op : Operation) :
    (Session.sendFiltered backend op .full w q >>= Session.writtenRecord op q.table).Ends s
      (.ok (Row.record (Row.project q.columns (Fields.putAll values row))).normalize)
      ((s.remember (q.restrict .full w)).setRows q.table (s.changed q.table w values)) := by
  have haccepts := Query.accepts_restrict_eq hfilters .full w
  have hgives : (q.restrict .full w).GivesBack :=
    ⟨h.writes, h.columns, h.range, h.limit, h.single⟩
  have hone : (s.rows q.table).countP (w.admits .full) = 1 := by
    rw [List.countP_eq_length_filter, hrow]
    rfl
  have haction : (q.restrict .full w).action = .update values := hq
  have hexecute := execute_update haction ht (by
    rw [haccepts]
    exact fun _ => hone)
  have htable : (q.restrict .full w).table = q.table := rfl
  rw [haccepts, htable, hrow] at hexecute
  have hsend := Session.ends_sendFiltered (ends_send_ok op hexecute)
  have hwritten := ends_written hgives op q.table (Fields.putAll values row)
    ((s.remember (q.restrict .full w)).setRows q.table (s.changed q.table w values))
  exact hsend.bind hwritten

end Store

namespace Backend

variable {s : Store} {table : String}

/-- An insertion gives back the stamped row that it inserts, with the columns that are
selected. -/
theorem ends_create_record (now : Instant) (args : Create) (ht : table ∉ s.denied) :
    ∃ t, (Store.backend.create now table args).Ends s
        (.ok ((s.inserted (args.data.stampCreation table now)).selected args.select
          none).record.normalize) t ∧
      Store.Grown table [(args.data.stampCreation table now).toMembers] s t :=
  Store.ends_insertion ⟨rfl, rfl, rfl, rfl, rfl⟩ rfl ht .create

theorem grown_create (now : Instant) (args : Create) (ht : table ∉ s.denied) :
    ∃ r t, (Store.backend.create now table args).Ends s (.ok r) t ∧
      Store.Grown table [(args.data.stampCreation table now).toMembers] s t := by
  obtain ⟨t, hends, hgrown⟩ := ends_create_record now args ht
  exact ⟨_, t, hends, hgrown⟩

/-- It puts the row at the end of the table. -/
theorem ends_create (now : Instant) (args : Create) (ht : table ∉ s.denied) :
    ∃ r t, (Store.backend.create now table args).Ends s (.ok r) t ∧ t.denied = s.denied ∧
      t.rows table = s.rows table ++ [s.inserted (args.data.stampCreation table now)] := by
  obtain ⟨r, t, hends, hgrown⟩ := grown_create now args ht
  exact ⟨r, t, hends, hgrown.denied, hgrown.rows⟩

/-- The query of a change, without its filters. -/
def updateQuery (now : Instant) (table : String) (args : Update) : Query :=
  (((Query.ofTable table).update (args.data.stampChange now).toMembers).select
    (Selection.columnList args.select none)).expectSingle

/-- A change sets the stamped values in the only row that the filter admits, and gives the
row back with the columns that are selected. -/
theorem ends_update_record (now : Instant) (args : Update) (ht : table ∉ s.denied) {row : Row}
    (hrow : (s.rows table).filter (args.filter.admits .full) = [row]) :
    (Store.backend.update now table args).Ends s
      (.ok (Row.record (Row.selected (Fields.putAll (args.data.stampChange now).toMembers row)
        args.select none)).normalize)
      ((s.remember ((updateQuery now table args).restrict .full args.filter)).setRows table
        (s.changed table args.filter (args.data.stampChange now).toMembers)) :=
  Store.ends_change (q := updateQuery now table args) ⟨rfl, rfl, rfl, rfl, rfl⟩ rfl rfl ht hrow
    .update

end Backend

end TabularQuery
