import TabularQuery.Operation.Reduction
import TabularQuery.Operation.Upsert
import TabularQuery.Proofs.Store.Effect

/-!
# Operations as data

The operations with their arguments, so that a statement can be made of all of them and of
runs of them.  An operation sends queries on its own table only, and one that reads sends
only queries that read.

## Main definitions

* `Task`, `Job` — an operation with its arguments, and with its table and its instant.
* `Task.keeps` — what no query on a table changes, no operation on it changes.
* `Task.keeps_rows_of_ne`, `Task.keeps_rows_of_reads` — the tables that stay as they are.
-/

namespace TabularQuery

/-- An operation with its arguments. -/
inductive Task where
  | findMany (args : FindMany)
  | findUnique (args : FindUnique)
  | findFirst (args : FindFirst)
  | count (args : Count)
  | groupBy (args : GroupBy)
  | aggregate (args : Aggregate)
  | create (args : Create)
  | update (args : Update)
  | delete (args : Delete)
  | createMany (args : CreateMany)
  | updateMany (args : UpdateMany)
  | deleteMany (args : Delete)
  | upsert (args : Upsert)

namespace Task

/-- What an operation gives back. -/
inductive Result where
  | records (rs : List Record)
  | found (r : Option Record)
  | written (r : Record)
  | number (n : Nat)
  | reduced (r : Reduced)
  | done

/-- Whether an operation only reads. -/
def reads : Task → Bool
  | findMany _ | findUnique _ | findFirst _ | count _ | groupBy _ | aggregate _ => true
  | _ => false

/-- The session of an operation on a table at an instant. -/
def session {σ : Type} (b : Backend σ) (now : Instant) (table : String) :
    Task → Session σ Result
  | findMany args => .records <$> b.findMany table args
  | findUnique args => .found <$> b.findUnique table args
  | findFirst args => .found <$> b.findFirst table args
  | count args => .number <$> b.count table args
  | groupBy args => .records <$> b.groupBy table args
  | aggregate args => .reduced <$> b.aggregate table args
  | create args => .written <$> b.create now table args
  | update args => .written <$> b.update now table args
  | delete args => (fun _ => .done) <$> b.delete table args
  | createMany args => .number <$> b.createMany now table args
  | updateMany args => .number <$> b.updateMany now table args
  | deleteMany args => .number <$> b.deleteMany table args
  | upsert args => .written <$> b.upsert now table args

end Task

/-- An operation on a table at an instant. -/
structure Job where
  now : Instant
  table : String
  task : Task

/-- The session of an operation. -/
def Job.session {σ : Type} (b : Backend σ) (j : Job) : Session σ Task.Result :=
  j.task.session b j.now j.table

/-! ## What operations keep -/

namespace Backend

variable {σ γ : Type} {b : Backend σ} {table : String} {view : σ → γ}

@[simp] theorem table_findManyQuery (args : FindMany) :
    (findManyQuery table args).table = table := by
  rw [findManyQuery_eq]

@[simp] theorem action_findManyQuery (args : FindMany) :
    (findManyQuery table args).action = .select false := by
  rw [findManyQuery_eq]

section Reading

variable (h : ∀ q : Query, q.table = table → q.action.isSelect = true →
  ∀ s, view (b.execute q s).2 = view s)

include h

theorem keeps_findMany (args : FindMany) : (b.findMany table args).Keeps view := by
  have hsend : (Session.sendFiltered b .findMany .full args.filter
      (findManyQuery table args)).Keeps view := by
    refine Session.keeps_sendFiltered (h _ (table_findManyQuery args) ?_) .findMany
    have haction : (findManyQuery table args).action = .select false := action_findManyQuery args
    exact congrArg Action.isSelect haction
  exact hsend.bind fun a => Session.keeps_normalizeAll a.records

theorem keeps_findUnique (args : FindUnique) : (b.findUnique table args).Keeps view :=
  (Session.keeps_sendFiltered (h _ rfl rfl) .findUnique).orNone .findUnique table

theorem keeps_findFirst (args : FindFirst) : (b.findFirst table args).Keeps view :=
  (Session.keeps_sendFiltered (h _ rfl rfl) .findFirst).orNone .findFirst table

theorem keeps_count (args : Count) : (b.count table args).Keeps view :=
  (Session.keeps_sendFiltered (h _ rfl rfl) .count).bind fun _ => Session.keeps_pure _

theorem keeps_groupBy (args : GroupBy) : (b.groupBy table args).Keeps view :=
  (Session.keeps_sendFiltered (h _ rfl rfl) .groupBy).bind fun _ => Session.keeps_pure _

theorem keeps_aggregate (args : Aggregate) : (b.aggregate table args).Keeps view :=
  (Session.keeps_sendFiltered (h _ rfl rfl) .aggregate).bind fun _ =>
    (Session.keeps_report _).bind fun _ => Session.keeps_pure _

end Reading

section Writing

variable (h : ∀ q : Query, q.table = table → ∀ s, view (b.execute q s).2 = view s)

include h

theorem keeps_create (now : Instant) (args : Create) : (b.create now table args).Keeps view :=
  (Session.keeps_send (h _ rfl) .create).bind (Session.keeps_writtenRecord .create table)

theorem keeps_update (now : Instant) (args : Update) : (b.update now table args).Keeps view :=
  (Session.keeps_sendFiltered (h _ rfl) .update).bind (Session.keeps_writtenRecord .update table)

theorem keeps_delete (args : Delete) : (b.delete table args).Keeps view :=
  (Session.keeps_sendFiltered (h _ rfl) .delete).bind fun _ => Session.keeps_pure _

theorem keeps_createMany (now : Instant) (args : CreateMany) :
    (b.createMany now table args).Keeps view := by
  rw [createMany]
  split
  · exact Session.keeps_pure 0
  · exact (Session.keeps_send (h _ rfl) .createMany).bind fun _ => Session.keeps_pure _

theorem keeps_updateMany (now : Instant) (args : UpdateMany) :
    (b.updateMany now table args).Keeps view :=
  (Session.keeps_sendFiltered (h _ rfl) .updateMany).bind fun _ => Session.keeps_pure _

theorem keeps_deleteMany (args : Delete) : (b.deleteMany table args).Keeps view :=
  (Session.keeps_sendFiltered (h _ rfl) .deleteMany).bind fun _ => Session.keeps_pure _

theorem keeps_upsert (now : Instant) (args : Upsert) : (b.upsert now table args).Keeps view := by
  refine (keeps_findUnique (fun q hq _ => h q hq) _).bind fun found => ?_
  cases found with
  | some r => exact (Session.keeps_report _).bind fun _ => keeps_update h now _
  | none => exact (Session.keeps_report _).bind fun _ => keeps_create h now _

end Writing

end Backend

/-- **What no query on a table changes, no operation on it changes**; and an operation that
reads need only fear the queries that read. -/
theorem Task.keeps {σ γ : Type} {b : Backend σ} {table : String} {view : σ → γ} (task : Task)
    (h : ∀ q : Query, q.table = table → (task.reads = true → q.action.isSelect = true) →
      ∀ s, view (b.execute q s).2 = view s) (now : Instant) :
    (task.session b now table).Keeps view := by
  have hread (htask : task.reads = true) (q : Query) (hq : q.table = table)
      (hselect : q.action.isSelect = true) : ∀ s, view (b.execute q s).2 = view s :=
    h q hq fun _ => hselect
  have hwrite (htask : task.reads = false) (q : Query) (hq : q.table = table) :
      ∀ s, view (b.execute q s).2 = view s :=
    h q hq fun hreads => by rw [htask] at hreads; cases hreads
  cases task with
  | findMany args => exact (Backend.keeps_findMany (hread rfl) args).map _
  | findUnique args => exact (Backend.keeps_findUnique (hread rfl) args).map _
  | findFirst args => exact (Backend.keeps_findFirst (hread rfl) args).map _
  | count args => exact (Backend.keeps_count (hread rfl) args).map _
  | groupBy args => exact (Backend.keeps_groupBy (hread rfl) args).map _
  | aggregate args => exact (Backend.keeps_aggregate (hread rfl) args).map _
  | create args => exact (Backend.keeps_create (hwrite rfl) now args).map _
  | update args => exact (Backend.keeps_update (hwrite rfl) now args).map _
  | delete args => exact (Backend.keeps_delete (hwrite rfl) args).map _
  | createMany args => exact (Backend.keeps_createMany (hwrite rfl) now args).map _
  | updateMany args => exact (Backend.keeps_updateMany (hwrite rfl) now args).map _
  | deleteMany args => exact (Backend.keeps_deleteMany (hwrite rfl) args).map _
  | upsert args => exact (Backend.keeps_upsert (hwrite rfl) now args).map _

/-! ## On a store -/

theorem Backend.keeps_rows_findUnique (args : FindUnique) (table other : String) :
    (Store.backend.findUnique table args).Keeps fun s => s.rows other :=
  keeps_findUnique (fun _ _ hq _ => Store.rows_execute_of_isSelect hq other) args

namespace Task

/-- An operation leaves the other tables as they are, however it ends. -/
theorem keeps_rows_of_ne (task : Task) (now : Instant) {table other : String}
    (hother : other ≠ table) :
    (task.session Store.backend now table).Keeps fun s => s.rows other := by
  refine task.keeps (fun q hq _ s => ?_) now
  exact (Store.execute_frame q s).2 other (hq ▸ hother)

/-- An operation that reads leaves all tables as they are. -/
theorem keeps_rows_of_reads {task : Task} (htask : task.reads = true) (now : Instant)
    (table other : String) :
    (task.session Store.backend now table).Keeps fun s => s.rows other := by
  refine task.keeps (fun q _ hselect s => ?_) now
  exact Store.rows_execute_of_isSelect (hselect htask) other

end Task

end TabularQuery
