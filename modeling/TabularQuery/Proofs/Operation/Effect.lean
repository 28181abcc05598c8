import TabularQuery.Proofs.Filter.Clause
import TabularQuery.Proofs.Operation.Search
import TabularQuery.Proofs.Operation.Task
import TabularQuery.Proofs.Store.Rows

/-!
# What operations do to their table

An operation that has a result has done to its table exactly what its kind says: it has
read, inserted rows, changed the rows of its filter at their places, or removed them.
Operations that write many rows tell their number.

## Main definitions

* `Upsert.Merges` — the data of the row that an upsert inserts.
* `Task.Effect` — what an operation does to its table, and the number that it tells.
* `Task.Ordered` — the data of changes and of upserts are maps.
* `Task.effect_of_ok` — an operation that has a result has done that.
-/

namespace TabularQuery

namespace Store.Answered

variable {s t : Store} {q : Query} {a : Answer} {chosen : Row → Bool}

theorem inserts {stamps : List String} {data : List Record} {now : Instant}
    (h : Answered q s a t) (hid : "id" ∉ stamps)
    (hq : q.action =
      .insert (data.map fun r => (r.stampAll stamps (.timestamp now)).toMembers)) :
    Rows.Inserts stamps data now (s.rows q.table) (t.rows q.table) := by
  have hrows := h.rows_eq
  rw [outcome, hq] at hrows
  exact ⟨_, hrows,
    forall₂_withIds (fun id r => (stores_withId id _).insertedFrom hid) s.ids s.drawn data⟩

theorem revises {data : Record} {now : Instant} (h : Answered q s a t)
    (hdata : Fields.Ordered data) (hq : q.action = .update (data.stampChange now).toMembers)
    (hchosen : q.accepts = chosen) :
    Rows.Revises chosen data now (s.rows q.table) (t.rows q.table) := by
  have hrows := h.rows_eq
  rw [outcome, hq, hchosen] at hrows
  rw [hrows]
  exact Rows.revises_map hdata now

theorem removes (h : Answered q s a t) (hq : q.action = .delete)
    (hchosen : q.accepts = chosen) :
    Rows.Removes chosen (s.rows q.table) (t.rows q.table) := by
  have hrows := h.rows_eq
  rw [outcome, hq, hchosen] at hrows
  exact hrows

/-- The rows that come back from a change or a deletion of many rows are counted, whatever
columns they have. -/
theorem length_records (h : Answered q s a t) (hreturns : q.returnsRows = true)
    (hsingle : q.single = false) (hrange : q.range = none) (hlimit : q.limit = none)
    (hwrites : q.action = .delete ∨ ∃ values, q.action = .update values)
    (hchosen : q.accepts = chosen) :
    a.records.length = (s.rows q.table).countP chosen := by
  have houtcome : (s.outcome q).1.length = (s.rows q.table).countP chosen := by
    rw [List.countP_eq_length_filter, ← hchosen]
    rcases hwrites with hq | ⟨values, hq⟩
    · simp only [outcome, hq]
    · simp only [outcome, hq, List.length_map]
  rw [h.answer_eq, records_answer hreturns hsingle, List.length_map, ← houtcome]
  simp only [Query.cut, hrange, hlimit]

end Store.Answered

/-! ## Writes -/

namespace Backend

variable {s : Store} {table : String} {now : Instant}

theorem inserts_create {args : Create} {r : Record}
    (h : ((Store.backend.create now table args).run s).result = .ok r) :
    Rows.Inserts (Rows.stamps table) [args.data] now (s.rows table)
      (((Store.backend.create now table args).run s).state.rows table) := by
  obtain ⟨a, hanswered, -⟩ :=
    (Store.sends_send .create _).bind (Session.keeps_writtenRecord .create table) h
  have hstamped : args.data.stampCreation table now =
      args.data.stampAll (Rows.stamps table) (.timestamp now) := by
    rw [Record.stampCreation_eq_stampAll, Record.stampColumns_eq]
  exact hanswered.inserts (Rows.id_notMem_stamps table)
    (congrArg (fun r : Record => Action.insert [r.toMembers]) hstamped)

theorem revises_update {args : Update} {r : Record} (hdata : Fields.Ordered args.data)
    (h : ((Store.backend.update now table args).run s).result = .ok r) :
    Rows.Revises (args.filter.admits .full) args.data now (s.rows table)
      (((Store.backend.update now table args).run s).state.rows table) := by
  obtain ⟨a, hanswered, -⟩ :=
    (Store.sends_sendFiltered .update .full args.filter _).bind
      (Session.keeps_writtenRecord .update table) h
  exact hanswered.revises hdata rfl (Query.accepts_restrict_eq rfl .full args.filter)

theorem removes_delete {args : Delete} {u : Unit}
    (h : ((Store.backend.delete table args).run s).result = .ok u) :
    Rows.Removes (args.filter.admits .full) (s.rows table)
      (((Store.backend.delete table args).run s).state.rows table) := by
  obtain ⟨a, hanswered, -⟩ :=
    (Store.sends_sendFiltered .delete .full args.filter _).bind
      (fun _ => Session.keeps_pure ()) h
  exact hanswered.removes rfl (Query.accepts_restrict_eq rfl .full args.filter)

/-- Of no rows nothing is sent, and nothing is inserted. -/
theorem inserts_createMany {args : CreateMany} {n : Nat}
    (h : ((Store.backend.createMany now table args).run s).result = .ok n) :
    Rows.Inserts ["created_at", "updated_at"] args.data now (s.rows table)
        (((Store.backend.createMany now table args).run s).state.rows table) ∧
      n = args.data.length := by
  rw [createMany] at h ⊢
  split at h
  · rename_i hempty
    have hnil : args.data = [] := List.isEmpty_iff.1 hempty
    rw [if_pos hempty, hnil]
    refine ⟨⟨[], ?_, .nil⟩, (Except.ok.inj h).symm⟩
    exact (List.append_nil _).symm
  · rename_i hempty
    rw [if_neg hempty]
    obtain ⟨a, hanswered, t, hn⟩ :=
      (Store.sends_send .createMany _).bind (fun _ => Session.keeps_pure _) h
    refine ⟨hanswered.inserts (by decide) rfl, ?_⟩
    rw [← Except.ok.inj hn, List.length_map]

theorem revises_updateMany {args : UpdateMany} {n : Nat} (hdata : Fields.Ordered args.data)
    (h : ((Store.backend.updateMany now table args).run s).result = .ok n) :
    Rows.Revises (args.filter.admits .bulk) args.data now (s.rows table)
        (((Store.backend.updateMany now table args).run s).state.rows table) ∧
      n = (s.rows table).countP (args.filter.admits .bulk) := by
  obtain ⟨a, hanswered, t, hn⟩ :=
    (Store.sends_sendFiltered .updateMany .bulk args.filter _).bind
      (fun _ => Session.keeps_pure _) h
  have hchosen := Query.accepts_restrict_eq
    (q := ((Query.ofTable table).update (args.data.stampChange now).toMembers).select "id")
    rfl .bulk args.filter
  refine ⟨hanswered.revises hdata rfl hchosen, ?_⟩
  rw [← Except.ok.inj hn]
  exact hanswered.length_records rfl rfl rfl rfl (.inr ⟨_, rfl⟩) hchosen

theorem removes_deleteMany {args : Delete} {n : Nat}
    (h : ((Store.backend.deleteMany table args).run s).result = .ok n) :
    Rows.Removes (args.filter.admits .bulk) (s.rows table)
        (((Store.backend.deleteMany table args).run s).state.rows table) ∧
      n = (s.rows table).countP (args.filter.admits .bulk) := by
  obtain ⟨a, hanswered, t, hn⟩ :=
    (Store.sends_sendFiltered .deleteMany .bulk args.filter _).bind
      (fun _ => Session.keeps_pure _) h
  have hchosen := Query.accepts_restrict_eq (q := (Query.ofTable table).delete.select "id")
    rfl .bulk args.filter
  refine ⟨hanswered.removes rfl hchosen, ?_⟩
  rw [← Except.ok.inj hn]
  exact hanswered.length_records rfl rfl rfl rfl (.inl rfl) hchosen

end Backend

/-! ## Upserts -/

/-- The data of the row that an upsert inserts: the columns to create with their values, beside
them the columns that the clause holds to values, the last one of a column counting, and no
others. -/
structure Upsert.Merges (args : Upsert) (data : Record) : Prop where
  created : ∀ column v, Fields.get? column args.create = some v →
    Fields.get? column data = some v
  held : ∀ column c v before after, Fields.get? column args.create = none →
    args.filter.fields = before ++ (column, c) :: after → c.HoldsTo v →
    (∀ c' w, (column, c') ∈ after → ¬ c'.HoldsTo w) → Fields.get? column data = some v
  only : ∀ column, Fields.get? column args.create = none →
    (∀ c w, (column, c) ∈ args.filter.fields → ¬ c.HoldsTo w) →
    Fields.get? column data = none

theorem Upsert.merges_insertion {args : Upsert} (h : Fields.Ordered args.create) :
    args.Merges args.insertion where
  created column v hv := Fields.get?_insertAll_of_some h.nodup hv _
  held column c v before after hnone hfields hholds hafter := by
    rw [insertion, Fields.get?_insertAll_of_none hnone]
    exact Where.get?_sorted_equalities hfields hholds hafter
  only column hnone hfree := by
    rw [insertion, Fields.get?_insertAll_of_none hnone, Record.ofPairs, Fields.sorted,
      Fields.get?_insertAll_of_none (Where.get?_equalities_eq_none hfree), Fields.get?_nil]

namespace Backend

variable {s : Store} {table : String} {now : Instant}

/-- The search of an upsert leaves the table as it is; what follows is one of the two
writes. -/
theorem effect_upsert {args : Upsert} {r : Record} (hcreate : Fields.Ordered args.create)
    (hupdate : Fields.Ordered args.update)
    (h : ((Store.backend.upsert now table args).run s).result = .ok r) :
    (∃ data, args.Merges data ∧ Rows.Inserts (Rows.stamps table) [data] now (s.rows table)
        (((Store.backend.upsert now table args).run s).state.rows table)) ∨
      Rows.Revises (args.filter.admits .full) args.update now (s.rows table)
        (((Store.backend.upsert now table args).run s).state.rows table) := by
  obtain ⟨found, -, hwrite, hstate⟩ := Session.bind_eq_ok h
  have hsame : ((Store.backend.findUnique table { filter := args.filter }).run s).state.rows
      table = s.rows table := keeps_rows_findUnique _ table table s
  -- the write runs on the store after the search, whose table is still the same
  have hafter : ((Store.backend.upsert now table args).run s).state = _ := hstate
  rw [hafter, ← hsame]
  cases found with
  | none =>
    have hinserts : ((Store.backend.create now table { data := args.insertion }).run
        _).result = .ok r := hwrite
    exact .inl ⟨_, Upsert.merges_insertion hcreate, inserts_create hinserts⟩
  | some _ =>
    have hrevises : ((Store.backend.update now table
        { filter := args.filter, data := args.update }).run _).result = .ok r := hwrite
    exact .inr (revises_update hupdate hrevises)

end Backend

/-! ## All operations -/

namespace Task

/-- What an operation at an instant does to the rows of its table if it has a result, and
the number that the result tells. -/
def Effect (now : Instant) (table : String) (before after : List Row) : Task → Result → Prop
  | create args, _ => Rows.Inserts (Rows.stamps table) [args.data] now before after
  | createMany args, r =>
    Rows.Inserts ["created_at", "updated_at"] args.data now before after ∧
      r = .number args.data.length
  | update args, _ => Rows.Revises (args.filter.admits .full) args.data now before after
  | updateMany args, r =>
    Rows.Revises (args.filter.admits .bulk) args.data now before after ∧
      r = .number (before.countP (args.filter.admits .bulk))
  | delete args, _ => Rows.Removes (args.filter.admits .full) before after
  | deleteMany args, r =>
    Rows.Removes (args.filter.admits .bulk) before after ∧
      r = .number (before.countP (args.filter.admits .bulk))
  | upsert args, _ =>
    (∃ data, args.Merges data ∧ Rows.Inserts (Rows.stamps table) [data] now before after) ∨
      Rows.Revises (args.filter.admits .full) args.update now before after
  | _, _ => after = before

/-- The data that an operation sets in rows that are there, or puts together, have each column
once. -/
def Ordered : Task → Prop
  | update args => Fields.Ordered args.data
  | updateMany args => Fields.Ordered args.data
  | upsert args => Fields.Ordered args.create ∧ Fields.Ordered args.update
  | _ => True

/-- **An operation that has a result has had its effect.** -/
theorem effect_of_ok {task : Task} {now : Instant} {table : String} {s : Store} {r : Result}
    (hordered : task.Ordered)
    (h : ((task.session Store.backend now table).run s).result = .ok r) :
    task.Effect now table (s.rows table)
      (((task.session Store.backend now table).run s).state.rows table) r := by
  have hreads (htask : task.reads = true) := keeps_rows_of_reads htask now table table s
  cases task with
  | create args =>
    obtain ⟨_, hok, -, hstate⟩ := Session.map_eq_ok h
    rw [session, hstate]
    exact Backend.inserts_create hok
  | createMany args =>
    obtain ⟨n, hok, hr, hstate⟩ := Session.map_eq_ok h
    obtain ⟨hinserts, hn⟩ := Backend.inserts_createMany hok
    rw [session, hstate]
    exact ⟨hinserts, by rw [hr, hn]⟩
  | update args =>
    obtain ⟨_, hok, -, hstate⟩ := Session.map_eq_ok h
    rw [session, hstate]
    exact Backend.revises_update hordered hok
  | updateMany args =>
    obtain ⟨n, hok, hr, hstate⟩ := Session.map_eq_ok h
    obtain ⟨hrevises, hn⟩ := Backend.revises_updateMany hordered hok
    rw [session, hstate]
    exact ⟨hrevises, by rw [hr, hn]⟩
  | delete args =>
    obtain ⟨_, hok, -, hstate⟩ := Session.map_eq_ok h
    rw [session, hstate]
    exact Backend.removes_delete hok
  | deleteMany args =>
    obtain ⟨n, hok, hr, hstate⟩ := Session.map_eq_ok h
    obtain ⟨hremoves, hn⟩ := Backend.removes_deleteMany hok
    rw [session, hstate]
    exact ⟨hremoves, by rw [hr, hn]⟩
  | upsert args =>
    obtain ⟨_, hok, -, hstate⟩ := Session.map_eq_ok h
    rw [session, hstate]
    exact Backend.effect_upsert hordered.1 hordered.2 hok
  | _ => exact hreads rfl

end Task

end TabularQuery
