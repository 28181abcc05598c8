import TabularQuery.Proofs.Session
import TabularQuery.Proofs.Store.Places
import TabularQuery.Store.Basic

/-!
# What a store answers

The answer of a store to each kind of query, with the store after it, for tables to which
access is not denied; and the records of an answer.

## Main definitions

* `Store.act`, `Store.run` — what the store does whose searches are sorted by insertion.
* `Store.answer` — the answer with the rows that a query is about.
* `Store.run_eq` — what becomes of a query to which access is not denied.
* `Store.executeBy_select`, `Store.execute_insert`, `Store.execute_update` — the answers.
* `Store.Searches` — a backend answers a search about some rows in a sequence.
* `Row.record`, `Store.records_answer` — the records that come back.
-/

namespace TabularQuery

namespace Row

/-- The record of a row. -/
def record (row : Row) : Record :=
  Fields.sorted (Value.ofJsonMembers row)

/-- The columns of a row that a selection asks for. -/
def selected (row : Row) (select relations : Option Selection) : Row :=
  row.project (some (Selection.columnList select relations))

/-- A list of columns that starts with all of them has all. -/
theorem columnNames_all (rest : List (List Char)) :
    ['*'] ∈ columnNames (String.ofList (Text.join [','] (['*'] :: rest))) := by
  have hsplit : ∃ pieces,
      Text.splitOn ',' (Text.join [','] (['*'] :: rest)) = ['*'] :: pieces := by
    cases rest with
    | nil => exact ⟨[], by decide⟩
    | cons piece more =>
      exact ⟨Text.splitOn ',' (Text.join [','] (piece :: more)), by
        simp [Text.join, Text.splitOn]⟩
  obtain ⟨pieces, hpieces⟩ := hsplit
  have hstar : Text.trim ['*'] = ['*'] := by decide
  rw [columnNames, String.toList_ofList, hpieces, List.map_cons, hstar]
  exact List.mem_filter.2 ⟨List.mem_cons_self, by decide⟩

/-- Where no columns are selected, the whole row is asked for. -/
theorem selected_all (row : Row) {select : Option Selection} (relations : Option Selection)
    (h : ∀ columns ∈ select, columns.isEmpty = true) : row.selected select relations = row := by
  have hcolumns : ∃ rest, Selection.columnList select relations =
      String.ofList (Text.join [','] (['*'] :: rest)) := by
    unfold Selection.columnList
    cases select with
    | none => exact ⟨_, rfl⟩
    | some columns =>
      simp only [h columns rfl, if_true]
      exact ⟨_, rfl⟩
  obtain ⟨rest, hrest⟩ := hcolumns
  rw [selected, project, hrest]
  simp only [List.contains_eq_mem, columnNames_all, decide_true, if_true]

end Row

namespace Store

/-- The store that remembers a query. -/
def remember (s : Store) (q : Query) : Store :=
  { s with requests := s.requests ++ [q] }

/-- The store after ids were taken from its supply. -/
def draw (s : Store) (drawn : Nat) : Store :=
  { s with drawn }

/-- The rows that a search is about, before its window is cut out of them. -/
def matching (s : Store) (q : Query) : List Row :=
  sortRows q.order ((s.rows q.table).filter q.accepts)

/-- The answer to a query that is about some rows. -/
def answer (q : Query) (rows : List Row) : Answer where
  data := if q.returnsRows then some (rowsToJson q (q.cut rows)) else none
  count := if q.count then some rows.length else none

@[simp] theorem rows_remember (s : Store) (q : Query) (table : String) :
    (s.remember q).rows table = s.rows table := rfl

@[simp] theorem denied_remember (s : Store) (q : Query) :
    (s.remember q).denied = s.denied := rfl

@[simp] theorem rows_draw (s : Store) (drawn : Nat) (table : String) :
    (s.draw drawn).rows table = s.rows table := rfl

@[simp] theorem denied_draw (s : Store) (drawn : Nat) : (s.draw drawn).denied = s.denied := rfl

@[simp] theorem denied_setRows (s : Store) (table : String) (rows : List Row) :
    (s.setRows table rows).denied = s.denied := rfl

@[simp] theorem rows_setRows (s : Store) (table : String) (rows : List Row) :
    (s.setRows table rows).rows table = rows := by
  simp [Store.rows, setRows, Fields.get?_put]

theorem rows_setRows_of_ne {table other : String} (h : other ≠ table) (s : Store)
    (rows : List Row) : (s.setRows table rows).rows other = s.rows other := by
  simp [Store.rows, setRows, Fields.get?_put, h]

/-! ## Records -/

/-- A query for rows gives back the records of the rows in its window. -/
theorem records_answer {q : Query} (hq : q.returnsRows = true) (hsingle : q.single = false)
    (rows : List Row) :
    (answer q rows).records = (q.cut rows).map fun row => (row.project q.columns).record := by
  simp only [Answer.records, answer, hq, if_true, rowsToJson, hsingle, Bool.false_eq_true,
    if_false, List.filterMap_map]
  exact congrFun (List.filterMap_eq_map (f := fun row => (Row.project q.columns row).record)) _

/-- A query for one row gives back its record. -/
theorem records_answer_single {q : Query} (hq : q.returnsRows = true)
    (hsingle : q.single = true) {rows : List Row} {row : Row} (hrows : q.cut rows = [row]) :
    (answer q rows).records = [(row.project q.columns).record] := by
  simp only [Answer.records, answer, hq, if_true, rowsToJson, hsingle, hrows]
  rfl

/-! ## Answers -/

/-- The rows that a query is about, and the rows of its table after it. -/
def act (q : Query) (inserted rows : List Row) : Except ServiceFault (List Row × List Row) :=
  (actBy (m := Id) sortRows q inserted rows).run

/-- The rows of the answer to a query with their number, and the store after the query. -/
def run (s : Store) (q : Query) : Except ServiceFault (List Row × Option Nat) × Store :=
  (runBy (m := Id) sortRows s q).run

/-- What the loops over the places of a table come to. -/
theorem act_eq (q : Query) (inserted rows : List Row) :
    act q inserted rows =
      match q.action with
      | .select _ => .ok (sortRows q.order (rows.filter q.accepts), rows)
      | .insert _ => (expectOne q inserted.length).map fun _ => (inserted, rows ++ inserted)
      | .update values => (expectOne q (rows.countP q.accepts)).map fun _ =>
        ((rows.filter q.accepts).map (Fields.putAll values),
          rows.map fun row => if q.accepts row then Fields.putAll values row else row)
      | .delete => (expectOne q (rows.countP q.accepts)).map fun _ =>
        (rows.filter q.accepts, rows.filter fun row => !q.accepts row) := by
  simp only [act, actBy, Rows.copies_places, Rows.change_places, Rows.drain_places,
    Rows.length_places]
  cases q.action <;> rfl

theorem execute_eq_respond (q : Query) (s : Store) :
    execute q s = respond q ((s.remember q).run q) := rfl

theorem execute_ok {s t : Store} {q : Query} {rows : List Row} {count : Option Nat}
    (h : (s.remember q).run q = (.ok (rows, count), t)) :
    execute q s =
      (.ok ⟨if q.returnsRows then some (rowsToJson q rows) else none, count⟩, t) := by
  rw [execute_eq_respond, h]
  rfl

theorem execute_error {s t : Store} {q : Query} {fault : ServiceFault}
    (h : (s.remember q).run q = (.error fault, t)) : execute q s = (.error fault, t) := by
  rw [execute_eq_respond, h]
  rfl

theorem expectOne_eq_ok {q : Query} {n : Nat} (h : q.single = true → n = 1) :
    expectOne q n = .ok () := by
  rw [expectOne, if_neg]
  simpa using h

theorem expectOne_eq_error {q : Query} {n : Nat} (h : q.single = true) (hn : n ≠ 1) :
    expectOne q n = .error (cardinalityFault n) := by
  rw [expectOne, if_pos]
  simp [h, hn]

/-- The place in the supply of ids after a row that may need one. -/
def following (ids : Nat → String) (next : Nat) (row : Row) : Nat :=
  if (withId (ids next) row).2 then next + 1 else next

theorem withIds_cons (ids : Nat → String) (next : Nat) (row : Row) (rest : List Row) :
    withIds ids next (row :: rest) =
      ((withId (ids next) row).1 :: (withIds ids (following ids next row) rest).1,
        (withIds ids (following ids next row) rest).2) :=
  rfl

theorem length_withIds (ids : Nat → String) (next : Nat) (rows : List Row) :
    (withIds ids next rows).1.length = rows.length := by
  induction rows generalizing next with
  | nil => rfl
  | cons row rest ih =>
    rw [withIds_cons, List.length_cons, List.length_cons, ih]

/-- The new rows of an insertion, with their ids, and the place in the supply of ids after
them. -/
def newRows (s : Store) (q : Query) : List Row × Nat :=
  match q.action with
  | .insert rows => withIds s.ids s.drawn rows
  | _ => ([], s.drawn)

section

variable {m : Type → Type} [Monad m] [LawfulMonad m]
  (sort : List OrderTerm → List Row → m (List Row))

/-- What becomes of a query that is about some rows and would leave some rows in its
table. -/
theorem runBy_eq {s : Store} {q : Query} (ht : q.table ∉ s.denied) :
    s.runBy sort q =
      (s.draw (s.newRows q).2).conclude q <$>
        actBy sort q (s.newRows q).1 (s.rows q.table) := by
  rw [runBy, if_neg (by simpa using ht), map_eq_pure_bind]
  rfl

omit [LawfulMonad m] in
/-- A query to which access is denied. -/
theorem runBy_of_denied {s : Store} {q : Query} (ht : q.table ∈ s.denied) :
    s.runBy sort q = pure (.error (deniedFault q.table), s) := by
  rw [runBy, if_pos (by simpa using ht)]

theorem executeBy_eq (s : Store) (q : Query) :
    executeBy sort q s = respond q <$> (s.remember q).runBy sort q := by
  rw [executeBy, map_eq_pure_bind]
  rfl

theorem actBy_select {q : Query} {head : Bool} (hq : q.action = .select head)
    (inserted rows : List Row) :
    actBy sort q inserted rows =
      (fun found => .ok (found, rows)) <$> sort q.order (rows.filter q.accepts) := by
  simp only [actBy, hq, Rows.copies_places, map_eq_pure_bind]

/-- What a search comes to once its rows are in a sequence. -/
def searched (q : Query) (rows : List Row) : Except ServiceFault Answer :=
  (expectOne q (q.cut rows).length).map fun _ => answer q rows

/-- **A search sorts its rows before it cuts its window out of them**, whatever the sort is. -/
theorem executeBy_select {s : Store} {q : Query} (hq : q.action = .select false)
    (ht : q.table ∉ s.denied) :
    executeBy sort q s =
      (fun rows => (searched q rows, s.remember q)) <$>
        sort q.order ((s.rows q.table).filter q.accepts) := by
  have hnew : (s.remember q).newRows q = ([], s.drawn) := by rw [newRows, hq]; rfl
  rw [executeBy_eq, runBy_eq sort (s := s.remember q) ht, actBy_select sort hq, hnew,
    ← comp_map, ← comp_map]
  congr 1
  funext rows
  simp only [Function.comp_apply, conclude, hq, searched]
  cases expectOne q (q.cut rows).length <;> rfl

end

/-- The same where rows are sorted by insertion. -/
theorem run_eq {s : Store} {q : Query} (ht : q.table ∉ s.denied) :
    s.run q = (s.draw (s.newRows q).2).conclude q (act q (s.newRows q).1 (s.rows q.table)) :=
  runBy_eq (m := Id) sortRows ht

theorem run_of_denied {s : Store} {q : Query} (ht : q.table ∈ s.denied) :
    s.run q = (.error (deniedFault q.table), s) :=
  runBy_of_denied (m := Id) sortRows ht

/-- A store that sorts by insertion answers a search about the rows of its filter in order. -/
theorem execute_eq_searched {s : Store} {q : Query} (hq : q.action = .select false)
    (ht : q.table ∉ s.denied) :
    execute q s = (searched q (s.matching q), s.remember q) :=
  executeBy_select (m := Id) sortRows hq ht

/-- What a change comes to. -/
theorem run_update {s : Store} {q : Query} {values : Row} (hq : q.action = .update values)
    (ht : q.table ∉ s.denied) :
    s.run q =
      match act q [] (s.rows q.table) with
      | .error fault => (.error fault, s)
      | .ok (affected, rows) =>
        (.ok (q.cut affected, if q.count then some affected.length else none),
          s.setRows q.table rows) := by
  rw [run_eq ht]
  simp only [hq, newRows, conclude]
  rfl

/-- An insertion answers with the new rows, which have ids, and puts them last. -/
theorem execute_insert {s : Store} {q : Query} {rows inserted : List Row} {drawn : Nat}
    (hq : q.action = .insert rows) (ht : q.table ∉ s.denied)
    (hids : withIds s.ids s.drawn rows = (inserted, drawn))
    (hone : q.single = true → inserted.length = 1) :
    execute q s =
      (.ok (answer q inserted),
        ((s.remember q).draw drawn).setRows q.table (s.rows q.table ++ inserted)) := by
  have hids' : withIds (s.remember q).ids (s.remember q).drawn rows = (inserted, drawn) := hids
  have hact (old : List Row) : act q inserted old = .ok (inserted, old ++ inserted) := by
    rw [act_eq, hq]
    simp only [expectOne_eq_ok hone]
    rfl
  have hrun :
      (s.remember q).run q =
        (.ok (q.cut inserted, if q.count then some inserted.length else none),
          ((s.remember q).draw drawn).setRows q.table (s.rows q.table ++ inserted)) := by
    rw [run_eq (s := s.remember q) ht]
    simp only [newRows, hq, hids', hact, conclude]
    rfl
  rw [execute_ok hrun, answer]

/-- A change answers with the changed rows, which keep their places. -/
theorem execute_update {s : Store} {q : Query} {values : Row} (hq : q.action = .update values)
    (ht : q.table ∉ s.denied)
    (hone : q.single = true → (s.rows q.table).countP q.accepts = 1) :
    execute q s =
      (.ok (answer q (((s.rows q.table).filter q.accepts).map (Fields.putAll values))),
        (s.remember q).setRows q.table
          ((s.rows q.table).map fun row =>
            if q.accepts row then Fields.putAll values row else row)) := by
  have hact :
      act q [] (s.rows q.table) =
        .ok (((s.rows q.table).filter q.accepts).map (Fields.putAll values),
          (s.rows q.table).map fun row =>
            if q.accepts row then Fields.putAll values row else row) := by
    rw [act_eq, hq]
    simp only [expectOne_eq_ok hone]
    rfl
  have hrun := run_update (s := s.remember q) hq ht
  rw [rows_remember, hact] at hrun
  rw [execute_ok hrun, answer]

/-! ## Queries of a session -/

theorem backend_execute (q : Query) (s : Store) :
    backend.execute q s = ({ outcome := (execute q s).1 }, (execute q s).2) := rfl

/-- A backend answers a search about some rows, which have been put in this sequence. -/
def Searches {σ : Type} (b : Backend σ) (q : Query) (rows : List Row) (s t : σ) : Prop :=
  b.execute q s = ({ outcome := searched q rows }, t)

theorem searches_backend {s : Store} {q : Query} (hq : q.action = .select false)
    (ht : q.table ∉ s.denied) : Searches backend q (s.matching q) s (s.remember q) := by
  rw [Searches, backend_execute, execute_eq_searched hq ht]

section

variable {σ : Type} {b : Backend σ} {q : Query} {rows : List Row} {s t : σ}

/-- A search that finds the expected number of rows ends with them. -/
theorem Searches.ends_send (h : Searches b q rows s t) (op : Operation)
    (hone : q.single = true → (q.cut rows).length = 1) :
    (Session.send b op q).Ends s (.ok (answer q rows)) t := by
  have hsend := Session.ends_send b op q s
  rw [h, searched, expectOne_eq_ok hone] at hsend
  exact hsend

/-- A search for one row that finds another number of rows ends with a fault. -/
theorem Searches.ends_send_error (h : Searches b q rows s t) (op : Operation)
    (hsingle : q.single = true) (hne : (q.cut rows).length ≠ 1) :
    (Session.send b op q).Ends s
      (.error (.backend op q.table (cardinalityFault (q.cut rows).length))) t := by
  have hsend := Session.ends_send b op q s
  rw [h, searched, expectOne_eq_error hsingle hne] at hsend
  exact hsend

end

theorem ends_send_ok {s t : Store} {q : Query} {a : Answer} (op : Operation)
    (h : execute q s = (.ok a, t)) : (Session.send backend op q).Ends s (.ok a) t := by
  have hsend := Session.ends_send backend op q s
  rw [backend_execute, h] at hsend
  exact hsend

end Store

end TabularQuery
