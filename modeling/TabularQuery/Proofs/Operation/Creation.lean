import TabularQuery.Proofs.Operation.FindUnique
import TabularQuery.Proofs.Operation.Task
import TabularQuery.Proofs.Operation.Write
import TabularQuery.Proofs.Store.Rows
import TabularQuery.Proofs.Value.Wire

/-!
# What is created, what is stored and what is read

The record that a creation gives back is the record of the row that it puts into its table.
It has the columns of the data with their values as they come back from the service, and
beside them the stamps and an id.  As long as nothing is written to the table, every search
for this one row finds the same record.

## Main definitions

* `Record.CreatedFrom` — what a record that is created has of its data.
* `Backend.create_reads_back` — a creation and the searches after it.
-/

namespace TabularQuery

/-! ## Records that are created -/

namespace Record

/-- What a record has that is created from data at an instant, with an id from the supply:
the columns of the data, an id and the stamps, and no others.  The values are those of the
data as they come back, and the stamps are the instant cut down to milliseconds. -/
structure CreatedFrom (r data : Record) (table : String) (now : Instant) (id : String) :
    Prop where
  ordered : Fields.Ordered r
  columns : ∀ column, (Fields.get? column r).isSome ↔
    (Fields.get? column data).isSome ∨ column = "id" ∨ column ∈ stampColumns table
  values : ∀ column v, Fields.get? column data = some v →
    (column ∈ stampColumns table → v.isNull = false) →
    Fields.get? column r = some (v.wire.readBack column)
  instants : ∀ column t, Fields.get? column data = some (.timestamp t) →
    column ∈ temporalColumns → t.Regular → Fields.get? column r = some (.timestamp t.toMillis)
  stamps : ∀ column ∈ stampColumns table, ¬ data.HasValue column →
    Fields.get? column r = some ((Value.timestamp now).wire.readBack column) ∧
      (now.Regular → Fields.get? column r = some (.timestamp now.toMillis))
  id : Fields.get? "id" data = none → Fields.get? "id" r = some (.text id)

end Record

namespace Row

/-- The record of a row has its columns in order, with their values. -/
theorem get?_record {row : Row} (h : (Fields.names row).Nodup) (column : String) :
    Fields.get? column row.record = (Fields.get? column row).map Value.ofJson := by
  rw [record, Value.ofJsonMembers_eq_map, Fields.get?_sorted (by rwa [Fields.names_map]),
    Fields.get?_map]

theorem ordered_record (row : Row) : Fields.Ordered row.record :=
  Fields.ordered_sorted _

end Row

namespace Store

variable {s : Store} {table : String} {data : Record} {now : Instant}

theorem nodup_inserted (h : Fields.Ordered data) : (Fields.names (s.inserted data)).Nodup := by
  have hmembers : (Fields.names data.toMembers).Nodup := by
    rw [Record.names_toMembers]
    exact h.nodup
  rw [inserted, withId]
  split
  · exact hmembers
  · exact Fields.nodup_put hmembers

/-- A column of the record of a row that is inserted. -/
theorem get?_inserted (h : Fields.Ordered data) {column : String} {v : Value}
    (hv : Fields.get? column data = some v) :
    Fields.get? column (s.inserted data).record.normalize =
      some ((Value.ofJson v.toJson).readBack column) := by
  have hrow := (stores_withId (s.ids s.drawn) data).value column v hv
  rw [Record.get?_normalize, Row.get?_record (nodup_inserted h), inserted, hrow]
  rfl

/-- It has the columns of its data and an id. -/
theorem isSome_get?_inserted (h : Fields.Ordered data) (column : String) :
    (Fields.get? column (s.inserted data).record.normalize).isSome ↔
      (Fields.get? column data).isSome ∨ column = "id" := by
  have hstores := stores_withId (s.ids s.drawn) data
  cases hv : Fields.get? column data with
  | some v => simp [get?_inserted h hv]
  | none =>
    rw [Record.get?_normalize, Row.get?_record (nodup_inserted h), Option.isSome_map,
      Option.isSome_map, inserted]
    by_cases hid : column = "id"
    · subst hid
      obtain ⟨id, hrow⟩ := hstores.id hv
      simp [hrow]
    · simp [hstores.only column hid hv, hid]

/-- Without an id of its own it has one of the supply. -/
theorem get?_id_inserted (h : Fields.Ordered data) (hnone : Fields.get? "id" data = none) :
    Fields.get? "id" (s.inserted data).record.normalize = some (.text (s.ids s.drawn)) := by
  have hneeded : Fields.has "id" data.toMembers = false := by
    rw [Fields.has, Record.get?_toMembers, hnone]
    rfl
  have hrow : Fields.get? "id" (s.inserted data) = some (.text (s.ids s.drawn)) := by
    rw [inserted, withId, if_neg (by simp [hneeded]), Fields.get?_put, if_pos rfl]
  rw [Record.get?_normalize, Row.get?_record (nodup_inserted h), hrow]
  rfl

/-- The record of the row that a creation inserts is created from its data. -/
theorem createdFrom_inserted (hdata : (Value.object data).WellFormed) :
    (s.inserted (data.stampCreation table now)).record.normalize.CreatedFrom data table now
      (s.ids s.drawn) := by
  obtain ⟨hordered, hvalues⟩ := hdata
  rw [Record.stampCreation_eq_stampAll]
  have hstamped := Record.ordered_stampAll (Record.stampColumns table) (.timestamp now) hordered
  have hkept (column : String) (v : Value) (hv : Fields.get? column data = some v)
      (h : column ∈ Record.stampColumns table → v.isNull = false) :
      Fields.get? column (s.inserted (data.stampAll (Record.stampColumns table)
        (.timestamp now))).record.normalize = some (v.wire.readBack column) := by
    have hcolumn := Record.get?_stampAll_of_kept (Record.stampColumns table) (.timestamp now)
      data fun hmem => ⟨v, hv, h hmem⟩
    rw [get?_inserted hstamped (hcolumn.trans hv),
      Value.ofJson_toJson (Value.wellFormed_of_get? hvalues hv)]
  refine ⟨Record.ordered_normalize (Row.ordered_record _), ?_, hkept, ?_, ?_, ?_⟩
  · intro column
    rw [isSome_get?_inserted hstamped, Record.isSome_get?_stampAll _ (by rfl), or_right_comm,
      or_assoc]
  · intro column t ht hcolumn hregular
    rw [hkept column _ ht fun _ => rfl, Value.readBack_wire_timestamp hcolumn hregular]
  · intro column hcolumn hnone
    have hset := Record.get?_stampAll_of_stamped (Record.stampColumns table)
      (v := .timestamp now) rfl data hcolumn hnone
    have hwire : Value.ofJson (Value.timestamp now).toJson = (Value.timestamp now).wire :=
      Value.ofJson_toJson trivial
    rw [get?_inserted hstamped hset, hwire]
    refine ⟨rfl, fun hregular => ?_⟩
    rw [Value.readBack_wire_timestamp (Record.stampColumns_subset hcolumn) hregular]
  · intro hnone
    refine get?_id_inserted hstamped ?_
    rw [Record.get?_stampAll_of_kept _ _ _ fun hmem => absurd (Record.stampColumns_subset hmem)
      (by decide), hnone]

end Store

namespace Backend

variable {s : Store} {table : String}

/-- As long as a table stays as it is, a search for one row finds the same record. -/
theorem ends_findUnique_later {s t : Store} (hrows : t.rows table = s.rows table)
    (ht : table ∉ t.denied) (find : FindUnique)
    (hall : ∀ columns ∈ find.select, columns.isEmpty = true) {row : Row}
    (hrow : (s.rows table).filter (find.filter.admits .full) = [row]) :
    ((Store.backend.findUnique table find).run t).result = .ok (some row.record.normalize) := by
  rw [← hrows] at hrow
  have hfound := (ends_findUnique_some find ht hrow).result_eq
  rwa [Row.selected_all row find.relations hall] at hfound

end Backend

/-- Operations that write nothing to a table leave it as it is, and the rights on it. -/
theorem Job.frame_of_reads {table : String} (jobs : List Job)
    (hreads : ∀ j ∈ jobs, j.table = table → j.task.reads = true) (s : Store) :
    (Session.after (jobs.map (Job.session Store.backend)) s).rows table = s.rows table ∧
      (Session.after (jobs.map (Job.session Store.backend)) s).denied = s.denied := by
  induction jobs generalizing s with
  | nil => exact ⟨rfl, rfl⟩
  | cons j rest ih =>
    obtain ⟨hjob, hrest⟩ := List.forall_mem_cons.1 hreads
    obtain ⟨hrows, hdenied⟩ := ih hrest ((j.session Store.backend).run s).state
    have hkeeps : (j.session Store.backend).Keeps Store.denied :=
      j.task.keeps (fun q _ _ t => (Store.execute_frame q t).1) j.now
    have hrowsKept : ((j.session Store.backend).run s).state.rows table = s.rows table := by
      by_cases htable : j.table = table
      · exact j.task.keeps_rows_of_reads (hjob htable) j.now j.table table s
      · exact j.task.keeps_rows_of_ne j.now (Ne.symm htable) s
    exact ⟨hrows.trans hrowsKept, hdenied.trans (hkeeps s)⟩

/-- **What a creation gives back is what it stores and what is read.**  The record that comes
back is that of the new row, which stands at the end of its table; it has the columns of the
data as they come back from the service, the stamps and an id.  After any operations that
write nothing to the table, a search whose filter admits only this row gives the same
record. -/
theorem Backend.create_reads_back (s : Store) (table : String) (now : Instant) (data : Record)
    (ht : table ∉ s.denied) (hdata : (Value.object data).WellFormed) :
    let created := (Store.backend.create now table { data }).run s
    let row := s.inserted (data.stampCreation table now)
    created.result = .ok row.record.normalize ∧
      row.record.normalize.CreatedFrom data table now (s.ids s.drawn) ∧
      created.state.rows table = s.rows table ++ [row] ∧
      ∀ (between : List Job) (find : FindUnique),
        (∀ j ∈ between, j.table = table → j.task.reads = true) →
        (∀ columns ∈ find.select, columns.isEmpty = true) →
        (created.state.rows table).filter (find.filter.admits .full) = [row] →
        ((Store.backend.findUnique table find).run
          (Session.after (between.map (Job.session Store.backend)) created.state)).result =
            .ok (some row.record.normalize) := by
  intro created row
  obtain ⟨t, hends, hgrown⟩ := ends_create_record now { data } ht
  rw [Row.selected_all row none (by simp)] at hends
  have hstate : created.state = t := hends.state_eq
  refine ⟨hends.result_eq, Store.createdFrom_inserted hdata, ?_, ?_⟩
  · rw [hstate, hgrown.rows]
    rfl
  · intro between find hreads hall hrow
    obtain ⟨hrows, hdenied⟩ := Job.frame_of_reads between hreads created.state
    refine ends_findUnique_later hrows ?_ find hall hrow
    rw [hdenied, hstate, hgrown.denied]
    exact ht

/-- A null stamp, a date, and an instant and a float that is no number within an object. -/
theorem Backend.create_reads_back_nested :
    let s : Store := { tables := [("items", [[("id", .text "0")]])], ids := fun _ => "new" }
    let now : Instant := ⟨1709285400, 1234567⟩
    let data : Record :=
      [("created_at", .null), ("due_date", .text "2024-05-01"),
        ("meta", .object [("at", .timestamp ⟨0, 1500000⟩), ("ratio", .float .nan)])]
    let between : List Job := [⟨now, "items", .count {}⟩, ⟨now, "other", .delete {}⟩]
    "items" ∉ s.denied ∧ (Value.object data).WellFormed ∧ now.Regular ∧
      let created := (Store.backend.create now "items" { data }).run s
      ∃ r : Record, created.result = .ok r ∧
        Fields.get? "created_at" r = some (.timestamp ⟨1709285400, 1000000⟩) ∧
        Fields.get? "due_date" r = some (.timestamp ⟨1714521600, 0⟩) ∧
        Fields.get? "meta" r =
          some (.object [("at", .text "1970-01-01T00:00:00.001Z"), ("ratio", .null)]) ∧
        Fields.get? "id" r = some (.text "new") ∧
        ((Store.backend.findUnique "items" { filter := Where.empty.eq "id" (.text "new") }).run
          (Session.after (between.map (Job.session Store.backend)) created.state)).result =
            .ok (some r) := by
  intro s now data between
  have ht : "items" ∉ s.denied := List.not_mem_nil
  have hdata : (Value.object data).WellFormed := by
    have hnames {fields : List (String × Value)}
        (h : (Fields.names fields).Pairwise (· < ·)) : Fields.Ordered fields :=
      List.pairwise_map.1 h
    have houter : Fields.Ordered data := hnames (by decide +kernel)
    have hinner : Fields.Ordered
        [("at", Value.timestamp ⟨0, 1500000⟩), ("ratio", .float .nan)] :=
      hnames (by decide +kernel)
    exact ⟨houter, trivial, trivial, ⟨hinner, trivial, trivial, trivial⟩, trivial⟩
  have hregular : now.Regular := by decide +kernel
  obtain ⟨hresult, hcreated, hrows, hlater⟩ := create_reads_back s "items" now data ht hdata
  have hnone : ¬ data.HasValue "created_at" := by
    rintro ⟨v, hv, hvalue⟩
    obtain rfl : Value.null = v := Option.some.inj hv
    cases hvalue
  have hdate : Instant.read? "2024-05-01".toList = some ⟨1714521600, 0⟩ := by decide +kernel
  have htext : (Instant.mk 0 1500000).text = "1970-01-01T00:00:00.001Z".toList := by
    decide +kernel
  have hmillis : now.toMillis = ⟨1709285400, 1000000⟩ := by decide +kernel
  have hreads : ∀ j ∈ between, j.table = "items" → j.task.reads = true := by
    simp [between, Task.reads]
  have hold : (Where.empty.eq "id" (.text "new")).admits .full [("id", .text "0")] = false := by
    decide +kernel
  have hnew : (Where.empty.eq "id" (.text "new")).admits .full
      (s.inserted (data.stampCreation "items" now)) = true := by
    decide +kernel
  have hfound := hlater between { filter := Where.empty.eq "id" (.text "new") } hreads (by simp)
    (by
      have hbefore : s.rows "items" = [[("id", .text "0")]] := rfl
      rw [hrows, hbefore]
      simp [hold, hnew])
  refine ⟨ht, hdata, hregular, _, hresult, ?_, ?_, ?_, hcreated.id rfl, hfound⟩
  · have hstamp := hcreated.stamps "created_at" (by decide) hnone
    rw [hstamp.2 hregular, hmillis]
  · have hvalue := hcreated.values "due_date" (.text "2024-05-01") rfl
      fun h => absurd h (by decide)
    simp only [Value.wire, Value.readBack, Value.dated, hdate] at hvalue
    rw [hvalue, if_pos (by decide)]
  · have hvalue := hcreated.values "meta"
      (.object [("at", .timestamp ⟨0, 1500000⟩), ("ratio", .float .nan)]) rfl
      fun h => absurd h (by decide)
    simp only [Value.wire, Value.wireFields, htext, String.ofList_toList, Value.readBack] at hvalue
    rw [hvalue, if_neg (by decide)]
    rfl

end TabularQuery
