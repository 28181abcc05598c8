import TabularQuery.Proofs.Operation.Task
import TabularQuery.Proofs.Operation.Write

/-!
# Operations that fail

An operation on a store that fails has changed no table.  A write is the last query of its
operation.  After it only the row that it gives back is missing, and a write that expects
one row and is answered always has that row.

## Main definitions

* `Store.written_of_answered` — the row that a write gives back is there.
* `Task.failsIntact` — what an operation that fails leaves behind.
* `Store.tables_intact_of_error` — the same of queries and of operations.
-/

namespace TabularQuery

/-- A write that is answered has the row that it gives back. -/
theorem Store.written_of_answered {q : Query} {s t : Store} {a : Answer} (hq : q.GivesBack)
    (h : Store.Answered q s a t) (op : Operation) (table : String) (u : Store) :
    ∃ r, (Session.writtenRecord op table a).Ends u (.ok r) u := by
  have hone : (s.outcome q).1.length = 1 := h.one hq.single hq.writes
  obtain ⟨row, hrow⟩ := List.length_eq_one_iff.1 hone
  have ha : a = Store.answer q [row] := by rw [h.answer_eq, hrow]
  rw [ha]
  exact ⟨_, Store.ends_written hq op table row u⟩

namespace Backend

variable {table : String}

/-! ## Writes of one row -/

/-- Only the query can fail: once it is answered, the row that comes back is there. -/
theorem failsIntact_create (now : Instant) (args : Create) (other : String) :
    (Store.backend.create now table args).FailsIntact fun s => s.rows other := by
  refine (Store.failsIntact_send .create _ other).bind fun s a ha => ?_
  obtain ⟨r, hr⟩ := Store.written_of_answered ⟨rfl, rfl, rfl, rfl, rfl⟩
    (Store.sends_send _ _ s a ha) .create table _
  exact ⟨r, hr.result_eq⟩

theorem failsIntact_update (now : Instant) (args : Update) (other : String) :
    (Store.backend.update now table args).FailsIntact fun s => s.rows other := by
  refine (Store.failsIntact_sendFiltered .update .full args.filter _ other).bind
    fun s a ha => ?_
  obtain ⟨r, hr⟩ := Store.written_of_answered ⟨rfl, rfl, rfl, rfl, rfl⟩
    (Store.sends_sendFiltered _ _ _ _ s a ha) .update table _
  exact ⟨r, hr.result_eq⟩

/-- Its search writes nothing, and its write is one of the two others. -/
theorem failsIntact_upsert (now : Instant) (args : Upsert) (other : String) :
    (Store.backend.upsert now table args).FailsIntact fun s => s.rows other := by
  refine (keeps_rows_findUnique _ table other).bind_failsIntact fun found => ?_
  cases found with
  | some r =>
    exact (Session.keeps_report _).bind_failsIntact fun _ => failsIntact_update now _ other
  | none =>
    exact (Session.keeps_report _).bind_failsIntact fun _ => failsIntact_create now _ other

/-! ## Writes of many rows -/

theorem failsIntact_delete (args : Delete) (other : String) :
    (Store.backend.delete table args).FailsIntact fun s => s.rows other :=
  (Store.failsIntact_sendFiltered .delete .full args.filter _ other).bind
    fun _ _ _ => ⟨(), rfl⟩

theorem failsIntact_createMany (now : Instant) (args : CreateMany) (other : String) :
    (Store.backend.createMany now table args).FailsIntact fun s => s.rows other := by
  rw [createMany]
  split
  · exact (Session.keeps_pure 0).failsIntact
  · exact (Store.failsIntact_send .createMany _ other).bind fun _ _ _ => ⟨_, rfl⟩

theorem failsIntact_updateMany (now : Instant) (args : UpdateMany) (other : String) :
    (Store.backend.updateMany now table args).FailsIntact fun s => s.rows other :=
  (Store.failsIntact_sendFiltered .updateMany .bulk args.filter _ other).bind
    fun _ a _ => ⟨a.records.length, rfl⟩

theorem failsIntact_deleteMany (args : Delete) (other : String) :
    (Store.backend.deleteMany table args).FailsIntact fun s => s.rows other :=
  (Store.failsIntact_sendFiltered .deleteMany .bulk args.filter _ other).bind
    fun _ a _ => ⟨a.records.length, rfl⟩

end Backend

/-- An operation that fails leaves the rows of every table as they are. -/
theorem Task.failsIntact (task : Task) (now : Instant) (table other : String) :
    (task.session Store.backend now table).FailsIntact fun s => s.rows other := by
  have hread (htask : task.reads = true) :
      (task.session Store.backend now table).FailsIntact fun s => s.rows other :=
    (keeps_rows_of_reads htask now table other).failsIntact
  cases task with
  | create args => exact (Backend.failsIntact_create now args other).map _
  | update args => exact (Backend.failsIntact_update now args other).map _
  | delete args => exact (Backend.failsIntact_delete args other).map _
  | createMany args => exact (Backend.failsIntact_createMany now args other).map _
  | updateMany args => exact (Backend.failsIntact_updateMany now args other).map _
  | deleteMany args => exact (Backend.failsIntact_deleteMany args other).map _
  | upsert args => exact (Backend.failsIntact_upsert now args other).map _
  | _ => exact hread rfl

namespace Store

/-- **What fails changes no table.**  A query that is answered with a fault leaves the rows
of every table as they are, and so does an operation that ends with a fault. -/
theorem tables_intact_of_error :
    (∀ (s : Store) (q : Query) (f : ServiceFault), (execute q s).1 = .error f →
      ∀ table, (execute q s).2.rows table = s.rows table) ∧
    ∀ (s : Store) (j : Job) (f : DataFault), ((j.session backend).run s).result = .error f →
      ∀ table, ((j.session backend).run s).state.rows table = s.rows table :=
  ⟨fun _ _ _ h table => rows_of_execute_error h table,
    fun s j f h table => j.task.failsIntact j.now j.table table s f h⟩

/-- A change that expects one row and would find two is refused, and a deletion in a table
to which access is denied; both leave the two rows. -/
theorem tables_intact_of_two_faults :
    let items : List Row := [[("id", .text "1"), ("kind", .text "a")],
      [("id", .text "2"), ("kind", .text "a")]]
    let s : Store :=
      { tables := [("items", items)], denied := ["logs"], ids := fun _ => "new" }
    let q := (Query.ofTable "logs").delete
    let j : Job :=
      { now := ⟨0, 0⟩
        table := "items"
        task := .update
          { filter := Where.empty.eq "kind" (.text "a"), data := [("kind", .text "b")] } }
    (execute q s).1 = .error (deniedFault "logs") ∧ (execute q s).2.rows "items" = items ∧
      ((j.session backend).run s).result =
        .error (.backend .update "items" (cardinalityFault 2)) ∧
      ((j.session backend).run s).state.rows "items" = items := by
  intro items s q j
  have hquery : (execute q s).1 = .error (deniedFault "logs") := rfl
  have hjob : ((j.session backend).run s).result =
      .error (.backend .update "items" (cardinalityFault 2)) := rfl
  exact ⟨hquery, tables_intact_of_error.1 s q _ hquery "items", hjob,
    tables_intact_of_error.2 s j _ hjob "items"⟩

end Store

end TabularQuery
