import TabularQuery.Proofs.Operation.Effect
import TabularQuery.Proofs.Operation.FindMany

/-!
# Operations that agree on the rows of a filter

Some operations know only a few verbs.  A filter whose constraints are all known to an
operation has the same calls there as in a search, so the operation is about the rows that
the search finds: a count, a reduction and a read of some columns tell their number, and a
deletion or a change of many rows is about just these rows.

## Main definitions

* `Where.Supported` — an operation knows the verbs of all constraints of a clause.
* `Backend.operations_agree` — counts, deletions and changes agree with searches.
-/

namespace TabularQuery

namespace Where

/-- An operation knows the verbs of all constraints of a clause.  Inside the disjunction
all verbs are known everywhere. -/
def Supported (d : Dispatch) (w : Where) : Prop :=
  ∀ f ∈ w.fields, d.supports f.2 = true

variable {d : Dispatch} {w : Where}

theorem Supported.calls_eq (h : w.Supported d) : w.calls d = w.calls .full := by
  have hfields : w.fieldCalls d = w.fieldCalls .full := by
    refine List.map_congr_left fun f hf => ?_
    have hknown : d.supports f.2 = true := h f (List.mem_of_mem_filter hf)
    simp only [fieldCall, hknown, supports_full, if_true]
  rw [calls, calls, hfields]

theorem Supported.admits_eq (h : w.Supported d) : w.admits d = w.admits .full := by
  funext row
  rw [admits, admits, h.calls_eq]

end Where

namespace Backend

variable {s : Store} {table : String}

/-! ## Reads -/

/-- A count is about the same rows as a search, and gives back none of them. -/
theorem ends_count (args : Count) (ht : table ∉ s.denied) :
    ∃ t, (Store.backend.count table args).Ends s
      (.ok ((s.rows table).countP (args.filter.admits .count))) t := by
  have hmatching : s.matching ((((Query.ofTable table).select "*").headCount).restrict .count
      args.filter) = s.found table .count args.filter [] := Store.matching_restrict rfl
  obtain ⟨a, t, hends, hanswered, -⟩ := Store.ends_many (s := s) .count .count args.filter
    (q := ((Query.ofTable table).select "*").headCount) rfl ht
  have hcount : a.count = some ((s.rows table).countP (args.filter.admits .count)) := by
    rw [hanswered.answer_eq, ← Store.length_found s table .count args.filter [], ← hmatching]
    rfl
  have hvalue : (Store.backend.count table args).Ends s (.ok (a.count.getD 0)) t :=
    hends.bind (Session.ends_pure _ t)
  rw [hcount] at hvalue
  exact ⟨t, hvalue⟩

theorem ends_groupBy (args : GroupBy) (ht : table ∉ s.denied) :
    ∃ groups t, (Store.backend.groupBy table args).Ends s (.ok groups) t ∧
      groups.length = (s.rows table).countP (args.filter.admits .full) := by
  have hplain := Query.plain_select table args.columnList
  have hsearch := Store.ends_search (d := .full) (w := args.filter) .groupBy hplain rfl ht
  refine ⟨_, _, hsearch.bind (Session.ends_pure _ _), ?_⟩
  rw [Store.records_search hplain rfl, List.length_map]
  exact Store.length_found s table .full args.filter []

theorem ends_aggregate (args : Aggregate) (hcount : args.count = true) (ht : table ∉ s.denied) :
    ∃ reduced t, (Store.backend.aggregate table args).Ends s (.ok reduced) t ∧
      reduced.count = some ((s.rows table).countP (args.filter.admits .full)) := by
  have hplain := Query.plain_select table "*"
  have hsearch := Store.ends_search (d := .full) (w := args.filter) .aggregate hplain rfl ht
  refine ⟨_, _, hsearch.bind ((Session.ends_report _ _).bind (Session.ends_pure _ _)), ?_⟩
  rw [Reduced.ofRecords, if_pos hcount, Store.records_search hplain rfl, List.length_map]
  exact congrArg some (Store.length_found s table .full args.filter [])

/-! ## Writes of many rows -/

/-- Changes and deletions of many rows only fail where access is denied. -/
theorem ends_updateMany (now : Instant) (args : UpdateMany) (ht : table ∉ s.denied) :
    ∃ n t, (Store.backend.updateMany now table args).Ends s (.ok n) t := by
  obtain ⟨a, t, hends, -⟩ := Store.ends_many (s := s) .updateMany .bulk args.filter
    (q := ((Query.ofTable table).update (args.data.stampChange now).toMembers).select "id") rfl ht
  exact ⟨_, t, hends.bind (Session.ends_pure _ t)⟩

theorem ends_deleteMany (args : Delete) (ht : table ∉ s.denied) :
    ∃ n t, (Store.backend.deleteMany table args).Ends s (.ok n) t := by
  obtain ⟨a, t, hends, -⟩ := Store.ends_many (s := s) .deleteMany .bulk args.filter
    (q := (Query.ofTable table).delete.select "id") rfl ht
  exact ⟨_, t, hends.bind (Session.ends_pure _ t)⟩

/-- So a deletion of many rows removes those that its filter admits there, and tells their
number. -/
theorem deleteMany_removes (args : Delete) (ht : table ∉ s.denied) :
    ((Store.backend.deleteMany table args).run s).result =
        .ok ((s.rows table).countP (args.filter.admits .bulk)) ∧
      Rows.Removes (args.filter.admits .bulk) (s.rows table)
        (((Store.backend.deleteMany table args).run s).state.rows table) := by
  obtain ⟨n, _, hends⟩ := ends_deleteMany (s := s) args ht
  obtain ⟨hremoves, hn⟩ := removes_deleteMany hends.result_eq
  rw [← hn]
  exact ⟨hends.result_eq, hremoves⟩

/-! ## Agreement -/

variable {w : Where}

/-- With verbs that a count knows, all reads of a filter are about the same number of
rows. -/
theorem reads_agree (hw : w.Supported .count) (ht : table ∉ s.denied) {find : FindMany}
    (hfilter : find.filter = w) (htake : find.page.take = some 0) :
    ∃ found, ((Store.backend.findMany table find).run s).result = .ok found ∧
      ((Store.backend.count table { filter := w }).run s).result = .ok found.length ∧
      (∀ args : Aggregate, args.filter = w → args.count = true →
        ∃ reduced, ((Store.backend.aggregate table args).run s).result = .ok reduced ∧
          reduced.count = some found.length) ∧
      ∀ args : GroupBy, args.filter = w →
        ∃ groups, ((Store.backend.groupBy table args).run s).result = .ok groups ∧
          groups.length = found.length := by
  obtain ⟨_, hfind, -⟩ := ends_findMany_whole (s := s) find ht htake
  obtain ⟨_, hcount⟩ := ends_count (s := s) { filter := w } ht
  rw [hfilter] at hfind
  rw [hw.admits_eq] at hcount
  refine ⟨_, hfind.result_eq, ?_, fun args hargs hasked => ?_, fun args hargs => ?_⟩
  all_goals rw [List.length_map, Store.length_found]
  · exact hcount.result_eq
  · obtain ⟨reduced, _, hends, hreduced⟩ := ends_aggregate (s := s) args hasked ht
    rw [hargs] at hreduced
    exact ⟨reduced, hends.result_eq, hreduced⟩
  · obtain ⟨groups, _, hends, hgroups⟩ := ends_groupBy (s := s) args ht
    rw [hargs] at hgroups
    exact ⟨groups, hends.result_eq, hgroups⟩

/-- With verbs that are known everywhere, a deletion of many rows removes the rows that the
search finds, and tells their number. -/
theorem deleteMany_agrees (hw : w.Supported .bulk) (ht : table ∉ s.denied)
    (order : List OrderTerm) {args : Delete} (hfilter : args.filter = w) :
    ((Store.backend.deleteMany table args).run s).result =
        .ok (s.found table .full w order).length ∧
      Rows.Removes (w.admits .full) (s.rows table)
        (((Store.backend.deleteMany table args).run s).state.rows table) := by
  have hremoves := deleteMany_removes (s := s) args ht
  rw [hfilter, hw.admits_eq] at hremoves
  rw [Store.length_found]
  exact hremoves

/-- A change of many rows changes them at their places. -/
theorem updateMany_agrees (hw : w.Supported .bulk) (ht : table ∉ s.denied)
    (order : List OrderTerm) (now : Instant) {args : UpdateMany} (hfilter : args.filter = w)
    (hdata : Fields.Ordered args.data) :
    ((Store.backend.updateMany now table args).run s).result =
        .ok (s.found table .full w order).length ∧
      Rows.Revises (w.admits .full) args.data now (s.rows table)
        (((Store.backend.updateMany now table args).run s).state.rows table) := by
  obtain ⟨n, _, hends⟩ := ends_updateMany (s := s) now args ht
  obtain ⟨hrevises, hn⟩ := revises_updateMany hdata hends.result_eq
  rw [hfilter, hw.admits_eq] at hrevises hn
  rw [Store.length_found, ← hn]
  exact ⟨hends.result_eq, hrevises⟩

/-- **Operations agree on the rows of a filter.**  Where a count knows the verbs of all
constraints, a count, the count of a reduction, and the read of some columns tell as many
rows as a search without a window finds.  Where deletions and changes of many rows know
them too, they remove and change exactly the rows that a search before them found, and tell
their number. -/
theorem operations_agree (w : Where) (ht : table ∉ s.denied) (find : FindMany)
    (hfilter : find.filter = w) (htake : find.page.take = some 0) :
    (w.Supported .count →
      ∃ found, ((Store.backend.findMany table find).run s).result = .ok found ∧
        ((Store.backend.count table { filter := w }).run s).result = .ok found.length ∧
        (∀ args : Aggregate, args.filter = w → args.count = true →
          ∃ reduced, ((Store.backend.aggregate table args).run s).result = .ok reduced ∧
            reduced.count = some found.length) ∧
        ∀ args : GroupBy, args.filter = w →
          ∃ groups, ((Store.backend.groupBy table args).run s).result = .ok groups ∧
            groups.length = found.length) ∧
      (w.Supported .bulk →
        let rows := s.found table .full w find.order.terms
        let search := (Store.backend.findMany table find).run s
        search.result = .ok (rows.map fun row =>
            (row.selected find.select find.relations).record.normalize) ∧
          (∀ args : Delete, args.filter = w →
            let deletion := (Store.backend.deleteMany table args).run search.state
            deletion.result = .ok rows.length ∧
              Rows.Removes (w.admits .full) (s.rows table) (deletion.state.rows table)) ∧
          ∀ (now : Instant) (args : UpdateMany), args.filter = w → Fields.Ordered args.data →
            let change := (Store.backend.updateMany now table args).run search.state
            change.result = .ok rows.length ∧
              Rows.Revises (w.admits .full) args.data now (s.rows table)
                (change.state.rows table)) := by
  refine ⟨fun hw => reads_agree hw ht hfilter htake, fun hw => ?_⟩
  obtain ⟨t, hfind, hdenied, hrows⟩ := ends_findMany_whole (s := s) find ht htake
  intro rows search
  -- the search leaves the table and its rights as they are, so the writes see the same rows
  have hstate : search.state = t := hfind.state_eq
  have hallowed : table ∉ t.denied := hdenied ▸ ht
  have hfound : t.found table .full w find.order.terms = rows := by
    rw [Store.found, hrows]
    rfl
  refine ⟨?_, fun args hargs => ?_, fun now args hargs hdata => ?_⟩
  · have hresult : search.result = _ := hfind.result_eq
    rw [hresult, hfilter]
  · have hagrees := deleteMany_agrees hw hallowed find.order.terms hargs
    rw [hfound, hrows] at hagrees
    rw [hstate]
    exact hagrees
  · have hagrees := updateMany_agrees hw hallowed find.order.terms now hargs hdata
    rw [hfound, hrows] at hagrees
    rw [hstate]
    exact hagrees

/-- A filter with a verb inside its disjunction that counts and deletions do not know at its
top: two of three rows are found, counted and deleted. -/
theorem operations_agree_disjunction :
    let other : Row := [("name", .text "z"), ("kind", .text "b")]
    let s : Store :=
      { tables := [("items", [[("name", .text "xy"), ("kind", .text "a")], other,
          [("name", .text "ax"), ("kind", .text "b")]])]
        ids := fun _ => "new" }
    let w : Where :=
      { anyOf := some [("name", .contains "x")]
        fields := [("kind", .among [.text "a", .text "b"])] }
    let search := (Store.backend.findMany "items"
      { filter := w, page := { take := some 0 } }).run s
    let deletion := (Store.backend.deleteMany "items" { filter := w }).run search.state
    "items" ∉ s.denied ∧ w.Supported .count ∧ w.Supported .bulk ∧
      (∃ found, search.result = .ok found ∧
        ((Store.backend.count "items" { filter := w }).run s).result = .ok found.length) ∧
      deletion.result = .ok 2 ∧ deletion.state.rows "items" = [other] := by
  intro other s w search deletion
  have hcount : w.Supported .count := by
    simp [w, Where.Supported, Dispatch.supports, Constraint.verb?]
  have hbulk : w.Supported .bulk := by
    simp [w, Where.Supported, Dispatch.supports, Constraint.verb?]
  obtain ⟨hreads, hwrites⟩ := operations_agree (s := s) w (List.not_mem_nil (a := "items"))
    { filter := w, page := { take := some 0 } } rfl rfl
  obtain ⟨found, hfound, hnumber, -⟩ := hreads hcount
  obtain ⟨-, hdeletes, -⟩ := hwrites hbulk
  obtain ⟨hresult, hremoves⟩ := hdeletes { filter := w } rfl
  have htwo : (s.found "items" .full w []).length = 2 := rfl
  have hrest : ((s.rows "items").filter fun row => !w.admits .full row) = [other] := rfl
  rw [Rows.Removes, hrest] at hremoves
  rw [htwo] at hresult
  exact ⟨List.not_mem_nil, hcount, hbulk, ⟨found, hfound, hnumber⟩, hresult, hremoves⟩

end Backend

end TabularQuery
