import TabularQuery.Proofs.Filter.Fallback
import TabularQuery.Proofs.Operation.Agreement
import TabularQuery.Proofs.Operation.Failure

/-!
# How far writes of many rows reach

Changes and deletions of many rows know few verbs, and for the others they compare a column
with the text of the constraint.  So they reach fewer rows than a search with the same
filter, with one exception: a cell that happens to hold this text need not meet the
constraint, and then a row is changed or removed that the search did not find.

## Main definitions

* `Backend.Reached` — a row that a search found, or that has the text of a constraint.
* `Backend.reached_of_written` — no other row is changed or removed.
* `Backend.deleteMany_removes_unfound` — a row of the exception.
-/

namespace TabularQuery

namespace Store

variable {s t : Store} {q : Query} {a : Answer} {row : Row}

/-- A deletion that is answered leaves the rows that its query does not accept. -/
theorem Answered.accepts_of_removed (h : Answered q s a t) (hq : q.action = .delete)
    (hrow : row ∈ s.rows q.table) (hmissing : row ∉ t.rows q.table) :
    q.accepts row = true := by
  by_contra hrejected
  apply hmissing
  rw [h.rows_eq, outcome, hq]
  apply List.mem_filter.2
  exact ⟨hrow, by simpa using hrejected⟩

/-- A change that is answered leaves them too, at their places. -/
theorem Answered.accepts_of_changed (h : Answered q s a t) {values : Row}
    (hq : q.action = .update values) {i : Nat} (hold : (s.rows q.table)[i]? = some row)
    (hnew : (t.rows q.table)[i]? ≠ some row) : q.accepts row = true := by
  by_contra hrejected
  apply hnew
  rw [h.rows_eq, outcome, hq, List.getElem?_map, hold, Option.map_some, if_neg hrejected]

/-- A write of many rows that does something to its table has been answered: it does nothing
when it fails. -/
theorem answered_of_written {β : Type} {op : Operation} {d : Dispatch} {w : Where}
    {next : Answer → β}
    (h : ((Session.sendFiltered backend op d w q >>= fun a => pure (next a)).run s).state.rows
      q.table ≠ s.rows q.table) :
    ∃ a, Answered (q.restrict d w) s a
      ((Session.sendFiltered backend op d w q >>= fun a => pure (next a)).run s).state := by
  have hintact : (Session.sendFiltered backend op d w q >>= fun a => pure (next a)).FailsIntact
      fun s => s.rows q.table :=
    (failsIntact_sendFiltered op d w q q.table).bind fun _ a _ => ⟨next a, rfl⟩
  cases hresult : ((Session.sendFiltered backend op d w q >>=
      fun a => pure (next a)).run s).result with
  | error f => exact absurd (hintact s f hresult) h
  | ok b =>
    obtain ⟨a, hanswered, -⟩ := (sends_sendFiltered op d w q).bind
      (fun _ => Session.keeps_pure _) hresult
    exact ⟨a, hanswered⟩

end Store

namespace Backend

variable {s : Store} {table : String} {row : Row}

/-- A deletion of many rows removes only rows that its filter admits, from a table to which
access is not denied. -/
theorem admits_of_removed {args : Delete} (hrow : row ∈ s.rows table)
    (hmissing : row ∉ ((Store.backend.deleteMany table args).run s).state.rows table) :
    table ∉ s.denied ∧ args.filter.admits .bulk row = true := by
  have hwritten : ((Store.backend.deleteMany table args).run s).state.rows table ≠
      s.rows table := by
    intro hsame
    rw [hsame] at hmissing
    exact hmissing hrow
  obtain ⟨a, hanswered⟩ := Store.answered_of_written hwritten
  have haccepts := hanswered.accepts_of_removed rfl hrow hmissing
  rw [Query.accepts_restrict rfl] at haccepts
  exact ⟨hanswered.allowed, haccepts⟩

/-- A change of many rows changes only rows that its filter admits. -/
theorem admits_of_changed {now : Instant} {args : UpdateMany} {i : Nat}
    (hold : (s.rows table)[i]? = some row)
    (hnew : (((Store.backend.updateMany now table args).run s).state.rows table)[i]? ≠
      some row) : table ∉ s.denied ∧ args.filter.admits .bulk row = true := by
  have hwritten : ((Store.backend.updateMany now table args).run s).state.rows table ≠
      s.rows table := by
    intro hsame
    rw [hsame] at hnew
    exact hnew hold
  obtain ⟨a, hanswered⟩ := Store.answered_of_written hwritten
  have haccepts := hanswered.accepts_of_changed rfl hold hnew
  rw [Query.accepts_restrict rfl] at haccepts
  exact ⟨hanswered.allowed, haccepts⟩

/-- A row that a search has found, or that has the text of a constraint of its filter and
does not meet it. -/
def Reached (s : Store) (table : String) (find : FindMany) (row : Row) : Prop :=
  ((Store.backend.findMany table find).run s).result =
      .ok ((s.found table .full find.filter find.order.terms).map fun row =>
        (row.selected find.select find.relations).record.normalize) ∧
    (row ∈ s.found table .full find.filter find.order.terms ∨ find.filter.Echoed .bulk row)

theorem reached_of_admits {find : FindMany} (ht : table ∉ s.denied)
    (htake : find.page.take = some 0) (hrow : row ∈ s.rows table)
    (hadmits : find.filter.admits .bulk row = true) : Reached s table find row := by
  obtain ⟨_, hfind, -⟩ := ends_findMany_whole (s := s) find ht htake
  refine ⟨hfind.result_eq, ?_⟩
  rcases Where.admits_full_or_echoed hadmits with hfull | hechoed
  · left
    rw [Store.found, sortRows, (sortBy_perm _ _).mem_iff]
    exact List.mem_filter.2 ⟨hrow, hfull⟩
  · exact .inr hechoed

/-- A search, and a deletion just after it. -/
theorem deleteMany_after_findMany (ht : table ∉ s.denied) (find : FindMany)
    (htake : find.page.take = some 0) (args : Delete) :
    let search := (Store.backend.findMany table find).run s
    let deletion := (Store.backend.deleteMany table args).run search.state
    search.result = .ok ((s.found table .full find.filter find.order.terms).map fun row =>
        (row.selected find.select find.relations).record.normalize) ∧
      deletion.result = .ok ((s.rows table).countP (args.filter.admits .bulk)) ∧
      Rows.Removes (args.filter.admits .bulk) (s.rows table) (deletion.state.rows table) := by
  intro search deletion
  obtain ⟨t, hfind, hdenied, hrows⟩ := ends_findMany_whole (s := s) find ht htake
  have hstate : search.state = t := hfind.state_eq
  have hallowed : table ∉ search.state.denied := by
    rw [hstate, hdenied]
    exact ht
  have hremoves := deleteMany_removes args hallowed
  rw [hstate, hrows, ← hstate] at hremoves
  exact ⟨hfind.result_eq, hremoves⟩

/-- **Writes of many rows reach no further than a search just before them.**  The rows that a
deletion removes and that a change changes, at their places, are among the rows that a
search with their filter found, or they have the text of a constraint of it. -/
theorem reached_of_written (s : Store) (table : String) (w : Where) (find : FindMany)
    (hfilter : find.filter = w) (htake : find.page.take = some 0) :
    let search := (Store.backend.findMany table find).run s
    (∀ args : Delete, args.filter = w →
      let deletion := (Store.backend.deleteMany table args).run search.state
      ∀ row ∈ s.rows table, row ∉ deletion.state.rows table → Reached s table find row) ∧
    ∀ (now : Instant) (args : UpdateMany), args.filter = w →
      let change := (Store.backend.updateMany now table args).run search.state
      ∀ (i : Nat) (row : Row), (s.rows table)[i]? = some row → (change.state.rows table)[i]? ≠ some row →
        Reached s table find row := by
  intro search
  -- the search leaves the table and its rights as they are, so the writes see the same rows
  have hkeepsRows : (Store.backend.findMany table find).Keeps fun t => t.rows table :=
    keeps_findMany (fun _ _ hselect _ => Store.rows_execute_of_isSelect hselect table) find
  have hkeepsDenied : (Store.backend.findMany table find).Keeps Store.denied :=
    keeps_findMany (fun q _ _ t => (Store.execute_frame q t).1) find
  have hrows : search.state.rows table = s.rows table := hkeepsRows s
  have hdenied : search.state.denied = s.denied := hkeepsDenied s
  constructor
  · intro args hargs deletion row hrow hmissing
    rw [← hrows] at hrow
    obtain ⟨ht, hadmits⟩ := admits_of_removed hrow hmissing
    rw [hdenied] at ht
    rw [hrows] at hrow
    rw [hargs, ← hfilter] at hadmits
    exact reached_of_admits ht htake hrow hadmits
  · intro now args hargs change i row hold hnew
    rw [← hrows] at hold
    obtain ⟨ht, hadmits⟩ := admits_of_changed hold hnew
    rw [hdenied] at ht
    rw [hrows] at hold
    rw [hargs, ← hfilter] at hadmits
    exact reached_of_admits ht htake (List.mem_of_getElem? hold) hadmits

/-- A deletion with `not` removes the row that has the text of the constraint, and leaves
another one that the search finds. -/
theorem reached_by_exclusion :
    let echo : Row := [("kind", .object [("not", .text "a")])]
    let other : Row := [("kind", .text "b")]
    let s : Store := { tables := [("items", [echo, other])], ids := fun _ => "new" }
    let w : Where := { fields := [("kind", .differs (.text "a"))] }
    let find : FindMany := { filter := w, page := { take := some 0 } }
    let search := (Store.backend.findMany "items" find).run s
    let deletion := (Store.backend.deleteMany "items" { filter := w }).run search.state
    find.filter = w ∧ find.page.take = some 0 ∧ deletion.state.rows "items" = [other] ∧
      Reached s "items" find echo ∧ s.found "items" .full w [] = [echo, other] := by
  intro echo other s w find search deletion
  have hdeletion : deletion.state.rows "items" = [other] :=
    (deleteMany_after_findMany (List.not_mem_nil (a := "items")) find rfl { filter := w }).2.2
  have hecho : echo ∈ s.rows "items" := List.mem_cons_self
  have hmissing : echo ∉ deletion.state.rows "items" := by
    rw [hdeletion]
    simp [echo, other]
  have hreached := (reached_of_written s "items" w find rfl rfl).1 { filter := w } rfl
    echo hecho hmissing
  exact ⟨rfl, rfl, hdeletion, hreached, rfl⟩

/-- A deletion removes a row that the search does not find: its cell has the text of the
constraint, which does not meet it. -/
theorem deleteMany_removes_unfound :
    let row : Row := [("id", .text "1"), ("qty", .object [("lte", .number (.integer 5))])]
    let s : Store := { tables := [("items", [row])], ids := fun _ => "new" }
    let w : Where := { fields := [("qty", .atMost (.int 5))] }
    let search := (Store.backend.findMany "items"
      { filter := w, page := { take := some 0 } }).run s
    let deletion := (Store.backend.deleteMany "items" { filter := w }).run search.state
    search.result = .ok [] ∧ row ∈ s.rows "items" ∧ deletion.result = .ok 1 ∧
      deletion.state.rows "items" = [] := by
  intro row s w search deletion
  obtain ⟨hresult, hone, hremoves⟩ := deleteMany_after_findMany (s := s)
    (List.not_mem_nil (a := "items")) { filter := w, page := { take := some 0 } } rfl
    { filter := w }
  have hnone : s.found "items" .full w [] = [] := rfl
  have hfound : search.result = .ok ((s.found "items" .full w []).map fun row =>
      (row.selected none none).record.normalize) := hresult
  rw [hnone] at hfound
  exact ⟨hfound, List.mem_cons_self, hone, hremoves⟩

end Backend

end TabularQuery
