import Mathlib.Data.List.Forall2
import TabularQuery.Operation.Write
import TabularQuery.Proofs.Fields
import TabularQuery.Store.Basic

/-!
# Rows of records

What a row that is inserted has of the data it comes from, and what a row that is changed has
of the data and of the row it was.  Neither the stamps nor the id take the place of a value.

## Main definitions

* `Record.stampColumns`, `Record.stampAll` — stamps one after the other.
* `Row.Stores` — a row has the columns of a record, and an id.
* `Row.InsertedFrom` — a row has the data of an insertion, the stamps, and an id.
* `Row.RevisedBy` — a row has the data of a change, the stamp, and its other columns.
* `Rows.Inserts`, `Rows.Revises`, `Rows.Removes` — what a write does to the rows of a table.
-/

namespace TabularQuery

/-! ## Stamps and ids -/

namespace Record

theorem get?_toMembers (r : Record) (column : String) :
    Fields.get? column r.toMembers = (Fields.get? column r).map Value.toJson := by
  rw [toMembers, Value.toJsonFields_eq_map, Fields.get?_map]

/-- A stamp only sets its own column. -/
theorem get?_stampIfAbsent_of_ne {column stamp : String} (h : column ≠ stamp) (r : Record)
    (now : Value) : Fields.get? column (r.stampIfAbsent stamp now) = Fields.get? column r := by
  have hinsert : Fields.get? column (Fields.insert stamp now r) = Fields.get? column r := by
    rw [Fields.get?_insert, if_neg h]
  rw [stampIfAbsent]
  split
  · split
    · exact hinsert
    · rfl
  · exact hinsert

/-- A record has a value in a column, and not null. -/
def HasValue (column : String) (r : Record) : Prop :=
  ∃ v, Fields.get? column r = some v ∧ v.isNull = false

/-- A record that has a value there stays as it is. -/
theorem stampIfAbsent_of_hasValue {r : Record} {stamp : String} (h : r.HasValue stamp)
    (now : Value) : r.stampIfAbsent stamp now = r := by
  obtain ⟨v, hv, hvalue⟩ := h
  simp [stampIfAbsent, hv, hvalue]

/-- Any other record has the stamp afterwards. -/
theorem get?_stampIfAbsent_of_not_hasValue {r : Record} {stamp : String}
    (h : ¬ r.HasValue stamp) (now : Value) :
    Fields.get? stamp (r.stampIfAbsent stamp now) = some now := by
  have hinsert : Fields.get? stamp (Fields.insert stamp now r) = some now := by
    rw [Fields.get?_insert, if_pos rfl]
  rw [stampIfAbsent]
  split
  · rename_i v hv
    have hnull : v.isNull = true := by
      by_contra hvalue
      exact h ⟨v, hv, Bool.eq_false_iff.2 hvalue⟩
    rw [if_pos hnull]
    exact hinsert
  · exact hinsert

/-- A stamp does not take the place of a value. -/
theorem get?_stampIfAbsent {r : Record} {column : String} {v : Value}
    (h : Fields.get? column r = some v) (hv : v.isNull = false) (stamp : String)
    (now : Value) : Fields.get? column (r.stampIfAbsent stamp now) = some v := by
  by_cases hstamp : column = stamp
  · rw [← hstamp, stampIfAbsent_of_hasValue ⟨v, h, hv⟩, h]
  · rw [get?_stampIfAbsent_of_ne hstamp, h]

theorem get?_stampCreation {r : Record} {column : String} {v : Value}
    (h : Fields.get? column r = some v) (hv : v.isNull = false) (table : String)
    (now : Instant) : Fields.get? column (r.stampCreation table now) = some v := by
  have hcreated := get?_stampIfAbsent h hv "created_at" (.timestamp now)
  rw [stampCreation]
  split
  · exact hcreated
  · exact get?_stampIfAbsent hcreated hv "updated_at" (.timestamp now)

/-! ## Several stamps -/

variable {r : Record} {table column : String} {now : Instant}

/-- The columns that a creation stamps. -/
def stampColumns (table : String) : List String :=
  if auditTables.contains table then ["created_at"] else ["created_at", "updated_at"]

theorem stampColumns_subset (h : column ∈ stampColumns table) : column ∈ temporalColumns := by
  rw [stampColumns] at h
  split at h
  · rw [List.mem_singleton.1 h]
    decide
  · rcases List.mem_cons.1 h with rfl | h
    · decide
    · rw [List.mem_singleton.1 h]
      decide

/-- Sets several columns unless they hold values already, one after the other. -/
def stampAll (stamps : List String) (v : Value) (r : Record) : Record :=
  stamps.foldl (fun r stamp => stampIfAbsent stamp v r) r

theorem stampAll_cons (first : String) (rest : List String) (v : Value) (r : Record) :
    r.stampAll (first :: rest) v = (r.stampIfAbsent first v).stampAll rest v :=
  rfl

theorem stampCreation_eq_stampAll (r : Record) (table : String) (now : Instant) :
    r.stampCreation table now = r.stampAll (stampColumns table) (.timestamp now) := by
  rw [stampCreation, stampColumns]
  split <;> rfl

/-- A column that has a value or is not stamped stays as it is. -/
theorem get?_stampAll_of_kept (stamps : List String) (v : Value) (r : Record)
    (h : column ∈ stamps → r.HasValue column) :
    Fields.get? column (r.stampAll stamps v) = Fields.get? column r := by
  induction stamps generalizing r with
  | nil => rfl
  | cons first rest ih =>
    rw [stampAll_cons]
    by_cases hvalue : r.HasValue column
    · obtain ⟨w, hw, hnull⟩ := hvalue
      have hkept := get?_stampIfAbsent hw hnull first v
      rw [ih _ fun _ => ⟨w, hkept, hnull⟩, hkept, hw]
    · have hne : column ≠ first := fun heq => hvalue (h (heq ▸ List.mem_cons_self))
      have hrest : column ∉ rest := fun hmem => hvalue (h (List.mem_cons_of_mem _ hmem))
      rw [ih _ fun hmem => absurd hmem hrest, get?_stampIfAbsent_of_ne hne]

/-- A column that is stamped and has no value has the stamp afterwards. -/
theorem get?_stampAll_of_stamped (stamps : List String) {v : Value} (hv : v.isNull = false)
    (r : Record) (h : column ∈ stamps) (hnone : ¬ r.HasValue column) :
    Fields.get? column (r.stampAll stamps v) = some v := by
  induction stamps generalizing r with
  | nil => cases h
  | cons first rest ih =>
    rw [stampAll_cons]
    by_cases hfirst : column = first
    · subst hfirst
      have hstamped := get?_stampIfAbsent_of_not_hasValue hnone v
      rw [get?_stampAll_of_kept rest v _ fun _ => ⟨v, hstamped, hv⟩, hstamped]
    · have hsame := get?_stampIfAbsent_of_ne hfirst r v
      refine ih _ ((List.mem_cons.1 h).resolve_left hfirst) ?_
      rw [HasValue, hsame]
      exact hnone

/-- Stamps bring their columns, and no others. -/
theorem isSome_get?_stampAll (stamps : List String) {v : Value} (hv : v.isNull = false)
    (r : Record) : (Fields.get? column (r.stampAll stamps v)).isSome ↔
      (Fields.get? column r).isSome ∨ column ∈ stamps := by
  by_cases hset : column ∈ stamps ∧ ¬ r.HasValue column
  · rw [get?_stampAll_of_stamped stamps hv r hset.1 hset.2]
    simp [hset.1]
  · have hvalue : column ∈ stamps → r.HasValue column :=
      fun hmem => by_contra fun hnone => hset ⟨hmem, hnone⟩
    rw [get?_stampAll_of_kept stamps v r hvalue]
    refine ⟨.inl, fun h => h.elim id fun hmem => ?_⟩
    obtain ⟨w, hw, -⟩ := hvalue hmem
    rw [hw]
    rfl

theorem ordered_stampAll (stamps : List String) (v : Value) (h : Fields.Ordered r) :
    Fields.Ordered (r.stampAll stamps v) := by
  induction stamps generalizing r with
  | nil => exact h
  | cons first rest ih =>
    refine ih ?_
    simp only [stampIfAbsent]
    split
    · split
      · exact h.insert first v
      · exact h
    · exact h.insert first v

end Record

namespace Store

/-- An id only sets its own column. -/
theorem get?_withId_of_ne {column : String} (h : column ≠ "id") (id : String) (row : Row) :
    Fields.get? column (withId id row).1 = Fields.get? column row := by
  rw [withId]
  split
  · rfl
  · rw [Fields.get?_put, if_neg h]

/-- An id does not take the place of a value. -/
theorem get?_withId {row : Row} {column : String} {v : Json}
    (h : Fields.get? column row = some v) (id : String) :
    Fields.get? column (withId id row).1 = some v := by
  by_cases hcolumn : column = "id"
  · have hthere : Fields.has "id" row = true := by
      rw [Fields.has, ← hcolumn, h]
      rfl
    rw [withId, if_pos hthere, h]
  · rw [get?_withId_of_ne hcolumn, h]

end Store

/-! ## New rows -/

/-- A row has the columns of a record with their values, and beside them only an id where
the record has none. -/
structure Row.Stores (row : Row) (r : Record) : Prop where
  value : ∀ column v, Fields.get? column r = some v → Fields.get? column row = some v.toJson
  only : ∀ column, column ≠ "id" → Fields.get? column r = none → Fields.get? column row = none
  id : Fields.get? "id" r = none → ∃ id, Fields.get? "id" row = some (.text id)

namespace Store

theorem stores_withId (id : String) (r : Record) : Row.Stores (withId id r.toMembers).1 r where
  value column v hv := get?_withId (by rw [Record.get?_toMembers, hv]; rfl) id
  only column hcolumn hnone := by
    rw [get?_withId_of_ne hcolumn, Record.get?_toMembers, hnone]
    rfl
  id hnone := by
    have hneeded : Fields.has "id" r.toMembers = false := by
      rw [Fields.has, Record.get?_toMembers, hnone]
      rfl
    refine ⟨id, ?_⟩
    rw [withId, if_neg (by simp [hneeded]), Fields.get?_put, if_pos rfl]

/-- New rows come one for one from what they are made of, in the same sequence. -/
theorem forall₂_withIds {α : Type} {f : α → Row} {R : Row → α → Prop}
    (h : ∀ id a, R (withId id (f a)).1 a) (ids : Nat → String) (next : Nat) (as : List α) :
    List.Forall₂ R (withIds ids next (as.map f)).1 as := by
  induction as generalizing next with
  | nil => exact .nil
  | cons a rest ih =>
    rw [List.map_cons, withIds]
    exact .cons (h (ids next) a) (ih _)

end Store

/-- The columns in which a new row of a table has the instant of its insertion unless the data
have a value there.  Rows of the tables that are only added to are never changed, and have no
instant of a last change. -/
def Rows.stamps (table : String) : List String :=
  if table ∈ ["audit_logs", "activity_logs", "order_status_history",
    "quality_inspection_history"] then ["created_at"]
  else ["created_at", "updated_at"]

theorem Record.stampColumns_eq (table : String) : stampColumns table = Rows.stamps table := by
  simp only [stampColumns, Rows.stamps, auditTables, List.contains_eq_mem, decide_eq_true_eq]

theorem Rows.id_notMem_stamps (table : String) : "id" ∉ Rows.stamps table := by
  rw [Rows.stamps]
  split <;> decide

/-- A row comes from data by an insertion at an instant: it has the columns of the data with
their values, the instant where the data have no value in a column that is stamped, an id where
the data have none, and no other columns. -/
structure Row.InsertedFrom (row : Row) (data : Record) (stamps : List String) (now : Instant) :
    Prop where
  value : ∀ column v, Fields.get? column data = some v →
    (column ∈ stamps → v.isNull = false) → Fields.get? column row = some v.toJson
  stamp : ∀ column ∈ stamps,
    (∀ v, Fields.get? column data = some v → v.isNull = true) →
    Fields.get? column row = some (Value.timestamp now).toJson
  id : Fields.get? "id" data = none → ∃ id, Fields.get? "id" row = some (.text id)
  only : ∀ column, column ∉ stamps → column ≠ "id" → Fields.get? column data = none →
    Fields.get? column row = none

/-- Storing the stamped data inserts a row as it should be. -/
theorem Row.Stores.insertedFrom {row : Row} {data : Record} {stamps : List String}
    {now : Instant} (h : row.Stores (data.stampAll stamps (.timestamp now)))
    (hid : "id" ∉ stamps) : row.InsertedFrom data stamps now where
  value column v hv hnull := by
    have hkept := Record.get?_stampAll_of_kept stamps (.timestamp now) data
      fun hmem => ⟨v, hv, hnull hmem⟩
    exact h.value column v (hkept.trans hv)
  stamp column hmem hnull := by
    refine h.value column _ (Record.get?_stampAll_of_stamped stamps rfl data hmem ?_)
    rintro ⟨v, hv, hvalue⟩
    rw [hnull v hv] at hvalue
    cases hvalue
  id hnone := by
    have hkept := Record.get?_stampAll_of_kept stamps (.timestamp now) data
      fun hmem => absurd hmem hid
    exact h.id (hkept.trans hnone)
  only column hmem hcolumn hnone := by
    have hkept := Record.get?_stampAll_of_kept stamps (.timestamp now) data
      fun hstamped => absurd hstamped hmem
    exact h.only column hcolumn (hkept.trans hnone)

/-! ## Changed rows -/

/-- A row comes from another one by a change: it has the instant of the change whatever the
data say, it has the other columns of the data, and the columns that the data do not name
are as they were. -/
structure Row.RevisedBy (old : Row) (data : Record) (now : Instant) (new : Row) : Prop where
  stamp : Fields.get? "updated_at" new = some (Value.timestamp now).toJson
  assigned : ∀ column v, column ≠ "updated_at" → Fields.get? column data = some v →
    Fields.get? column new = some v.toJson
  kept : ∀ column, column ≠ "updated_at" → Fields.get? column data = none →
    Fields.get? column new = Fields.get? column old

namespace Record

theorem get?_stampChange (r : Record) (now : Instant) (column : String) :
    Fields.get? column (r.stampChange now) =
      if column = "updated_at" then some (.timestamp now) else Fields.get? column r := by
  rw [stampChange, Fields.get?_insert]

theorem names_toMembers (r : Record) : Fields.names r.toMembers = Fields.names r := by
  rw [toMembers, Value.toJsonFields_eq_map, Fields.names_map]

end Record

/-- Setting the stamped data in a row changes it as it should be. -/
theorem Row.revisedBy_putAll {data : Record} (hdata : Fields.Ordered data) (now : Instant)
    (old : Row) : old.RevisedBy data now (Fields.putAll (data.stampChange now).toMembers old) := by
  have hnodup : (Fields.names (data.stampChange now).toMembers).Nodup := by
    rw [Record.names_toMembers]
    exact (hdata.insert _ _).nodup
  have hset (column : String) (v : Value)
      (h : Fields.get? column (data.stampChange now) = some v) :
      Fields.get? column (Fields.putAll (data.stampChange now).toMembers old) =
        some v.toJson := by
    refine Fields.get?_putAll_of_some hnodup ?_ old
    rw [Record.get?_toMembers, h]
    rfl
  refine ⟨hset _ _ ?_, fun column v hcolumn hv => hset _ _ ?_, fun column hcolumn hnone => ?_⟩
  · rw [Record.get?_stampChange, if_pos rfl]
  · rw [Record.get?_stampChange, if_neg hcolumn, hv]
  · refine Fields.get?_putAll_of_none ?_ old
    rw [Record.get?_toMembers, Record.get?_stampChange, if_neg hcolumn, hnone]
    rfl

/-! ## Rows of a table -/

namespace Rows

/-- After the rows that were there stand new ones, one for each of some data and in their
sequence. -/
def Inserts (stamps : List String) (data : List Record) (now : Instant)
    (before after : List Row) : Prop :=
  ∃ new, after = before ++ new ∧
    List.Forall₂ (fun (row : Row) data => row.InsertedFrom data stamps now) new data

/-- At their places, the rows of a choice come from a change, and the others are as they
were. -/
def Revises (chosen : Row → Bool) (data : Record) (now : Instant) (before after : List Row) :
    Prop :=
  List.Forall₂ (fun old new => if chosen old then old.RevisedBy data now new else new = old)
    before after

/-- The rows of a choice are not there any more, and the others are as they were. -/
def Removes (chosen : Row → Bool) (before after : List Row) : Prop :=
  after = before.filter fun row => !chosen row

variable {chosen : Row → Bool} {before after : List Row}

theorem Inserts.length_eq {stamps : List String} {data : List Record} {now : Instant}
    (h : Inserts stamps data now before after) :
    after.length = before.length + data.length := by
  obtain ⟨new, hafter, hnew⟩ := h
  rw [hafter, List.length_append, hnew.length_eq]

theorem Removes.length_eq (h : Removes chosen before after) :
    after.length + before.countP chosen = before.length := by
  have hcount := List.length_eq_countP_add_countP chosen (l := before)
  rw [h, ← List.countP_eq_length_filter]
  simp only [Bool.not_eq_true, Bool.decide_eq_false] at hcount
  omega

theorem revises_map {data : Record} (hdata : Fields.Ordered data) (now : Instant) :
    Revises chosen data now before (before.map fun row =>
      if chosen row then Fields.putAll (data.stampChange now).toMembers row else row) := by
  rw [Revises, List.forall₂_map_right_iff, List.forall₂_same]
  intro row _
  by_cases hrow : chosen row = true
  · rw [if_pos hrow, if_pos hrow]
    exact Row.revisedBy_putAll hdata now row
  · rw [if_neg hrow, if_neg hrow]

end Rows

end TabularQuery
