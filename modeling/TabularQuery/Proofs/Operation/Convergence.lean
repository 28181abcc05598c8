import TabularQuery.Proofs.Filter.Clause
import TabularQuery.Proofs.Operation.Upsert
import TabularQuery.Proofs.Store.Comparison
import TabularQuery.Proofs.Store.Rows

/-!
# Upserts that converge

A clause that holds columns to values is a key.  A row that is inserted because no row has
the key has it afterwards: the text of a stored cell is that of the value it came from,
and neither the stamps nor the id take its place.  A row that is changed keeps the key.
So one upsert leaves one row with the key, and more of them leave that one row.

## Main definitions

* `Where.IsKey` — the clauses that are keys.
* `Upsert.KeepsKey` — data that assign no column of the key.
* `Store.Settled` — what upserts with a key do to a table.
* `Backend.upserts_converge` — every run of upserts does that.
-/

namespace TabularQuery

/-! ## Keys -/

namespace Value

/-- The values that can be part of a key: truth values, integers, texts and instants. -/
def IsKey : Value → Prop
  | bool _ | int _ | text _ | timestamp _ => True
  | _ => False

theorem IsKey.not_null {v : Value} (h : v.IsKey) : v.isNull = false := by
  cases v <;> first | rfl | exact h.elim

/-- The cell of a stored value has the text of the value. -/
theorem IsKey.text?_toJson {v : Value} (h : v.IsKey) : Cell.text? v.toJson = some v.plain := by
  cases v with
  | bool b => cases b <;> rfl
  | int i => rfl
  | text t => rfl
  | timestamp t =>
    rw [toJson, Cell.text?, plain, String.toList_ofList]
  | _ => exact h.elim

end Value

namespace Where

/-- A clause that holds some columns to values and asks for nothing else.  The instant of
the last change is no such column. -/
structure IsKey (w : Where) : Prop where
  noBranches : w.anyOf.getD [] = []
  equality : ∀ f ∈ w.fields, ∃ v : Value, v.IsKey ∧ (f.2 = .literal v ∨ f.2 = .equals v)
  distinct : (Fields.names w.fields).Nodup
  unstamped : "updated_at" ∉ Fields.names w.fields

namespace IsKey

variable {w : Where} {row : Row}

/-- A row has the key if it passes the call of every column. -/
theorem admits_iff (h : w.IsKey) :
    w.admits .full row = true ↔ ∀ f ∈ w.fields, (f.2.call f.1).accepts row = true := by
  have hbranches : ∀ bs ∈ w.anyOf,
      bs = [] ∨ ∃ f ∈ bs, (f.2.call f.1).accepts row = true := by
    intro bs hbs
    have hnone := h.noBranches
    rw [Option.mem_def.1 hbs] at hnone
    exact .inl hnone
  have hvoid : ∀ f ∈ w.fields, f.2.isVoid = false := by
    intro f hf
    obtain ⟨v, hv, hc | hc⟩ := h.equality f hf
    · rw [hc]
      cases v <;> first | rfl | exact hv.elim
    · rw [hc]
      rfl
  rw [Where.admits_iff]
  constructor
  · rintro ⟨-, hall⟩ f hf
    exact hall f hf (hvoid f hf)
  · intro hall
    exact ⟨hbranches, fun f hf _ => hall f hf⟩

/-- The call of a column of the key compares it with the value. -/
theorem exists_value (h : w.IsKey) {f : String × Constraint} (hf : f ∈ w.fields) :
    ∃ v : Value, v.IsKey ∧ f.2.call f.1 = .compare .eq f.1 v ∧ (f.1, v) ∈ w.equalities := by
  obtain ⟨v, hv, hc⟩ := h.equality f hf
  refine ⟨v, hv, ?_, ?_⟩
  · rcases hc with hc | hc <;> rw [hc] <;> rfl
  · exact mem_equalities_iff.2 ⟨f.2, hf, hc, hv.not_null⟩

/-- The row with the cells of the key has the key. -/
theorem admits_of_cells (h : w.IsKey)
    (hcells : ∀ column (v : Value), v.IsKey → (column, v) ∈ w.equalities →
      Fields.get? column row = some v.toJson) : w.admits .full row = true := by
  refine h.admits_iff.2 fun f hf => ?_
  obtain ⟨v, hv, hcall, hmem⟩ := h.exists_value hf
  have hcell : row.cell? f.1 = some v.plain := by
    rw [Row.cell?, hcells _ _ hv hmem, Option.bind_some, hv.text?_toJson]
  rw [hcall, FilterCall.accepts_compare_iff]
  exact ⟨v.plain, hcell, by rw [compareTexts_self]; rfl⟩

/-- Rows with the same cells in the columns of the key have the key both or neither. -/
theorem admits_congr (h : w.IsKey) {other : Row}
    (hcells : ∀ column ∈ Fields.names w.fields,
      Fields.get? column row = Fields.get? column other) :
    w.admits .full row = w.admits .full other := by
  rw [Bool.eq_iff_iff, h.admits_iff, h.admits_iff]
  refine forall₂_congr fun f hf => ?_
  obtain ⟨v, -, hcall, -⟩ := h.exists_value hf
  have hcell : row.cell? f.1 = other.cell? f.1 := by
    rw [Row.cell?, Row.cell?, hcells f.1 (List.mem_map_of_mem hf)]
  rw [hcall, FilterCall.accepts_compare_iff, FilterCall.accepts_compare_iff, hcell]

end IsKey

/-- The columns with a value come in the order of the clause. -/
theorem names_equalities (w : Where) :
    (Fields.names w.equalities).Sublist (Fields.names w.fields) := by
  rw [equalities]
  induction w.fields with
  | nil => exact List.Sublist.slnil
  | cons f rest ih =>
    obtain ⟨column, c⟩ := f
    rw [List.filterMap_cons]
    split
    · exact ih.cons _
    · rename_i g hg
      have hname : g.1 = column := by
        cases c <;> simp at hg <;> exact hg.2 ▸ rfl
      rw [Fields.names_cons, Fields.names_cons, hname]
      exact ih.cons_cons _

end Where

/-! ## One upsert -/

/-- The data of an upsert assign no column of its key. -/
structure Upsert.KeepsKey (args : Upsert) : Prop where
  create : ∀ column ∈ Fields.names args.filter.fields, column ∉ Fields.names args.create
  update : ∀ column ∈ Fields.names args.filter.fields, column ∉ Fields.names args.update

namespace Upsert.KeepsKey

variable {args : Upsert}

/-- The row that is inserted has the key. -/
theorem admits_inserted (h : args.KeepsKey) (hkey : args.filter.IsKey) (s : Store)
    (table : String) (now : Instant) :
    args.filter.admits .full (s.inserted (args.insertion.stampCreation table now)) = true := by
  have hdistinct : (Fields.names args.filter.equalities).Nodup :=
    hkey.distinct.sublist args.filter.names_equalities
  refine hkey.admits_of_cells fun column v hv hmem => ?_
  have hcolumn : column ∈ Fields.names args.filter.fields :=
    args.filter.names_equalities.subset (List.mem_map.2 ⟨_, hmem, rfl⟩)
  have hcreate : Fields.get? column args.create = none :=
    Fields.get?_eq_none_iff.2 (h.create column hcolumn)
  have hvalue : Fields.get? column args.insertion = some v := by
    rw [insertion, Fields.get?_insertAll_of_none hcreate, Record.ofPairs,
      Fields.get?_sorted hdistinct]
    exact (Fields.get?_eq_some_iff hdistinct).2 hmem
  refine Store.get?_withId ?_ _
  rw [Record.get?_toMembers, Record.get?_stampCreation hvalue hv.not_null]
  rfl

/-- A row that is changed has the key if it had it. -/
theorem admits_putAll (h : args.KeepsKey) (hkey : args.filter.IsKey) (now : Instant)
    (row : Row) :
    args.filter.admits .full (Fields.putAll (args.update.stampChange now).toMembers row) =
      args.filter.admits .full row := by
  refine hkey.admits_congr fun column hcolumn => ?_
  have hstamp : column ≠ "updated_at" := by
    rintro rfl
    exact hkey.unstamped hcolumn
  have hvalues : Fields.get? column (args.update.stampChange now).toMembers = none := by
    rw [Record.get?_toMembers, Record.stampChange, Fields.get?_insert, if_neg hstamp,
      Fields.get?_eq_none_iff.2 (h.update column hcolumn)]
    rfl
  exact Fields.get?_putAll_of_none hvalues row

end Upsert.KeepsKey

/-- What upserts with a key do to a table: one row has the key afterwards, a row was
added if none had it before, and the rows without the key are as they were. -/
structure Store.Settled (table : String) (w : Where) (s t : Store) : Prop where
  denied : t.denied = s.denied
  one : (t.rows table).countP (w.admits .full) = 1
  length : (t.rows table).length =
    (s.rows table).length + if (s.rows table).countP (w.admits .full) = 0 then 1 else 0
  untouched : ∀ (i : Nat) (row : Row), (s.rows table)[i]? = some row →
    w.admits .full row = false → (t.rows table)[i]? = some row

namespace Store.Settled

variable {table : String} {w : Where} {s t u : Store}

/-- What is settled stays so. -/
theorem trans (h : Settled table w s t) (h' : Settled table w t u) : Settled table w s u where
  denied := h'.denied.trans h.denied
  one := h'.one
  length := by
    have hlength := h'.length
    rw [h.one, h.length] at hlength
    exact hlength
  untouched i row hrow hother := h'.untouched i row (h.untouched i row hrow hother) hother

/-- A row with the key at the end of a table that has none. -/
theorem of_append {row : Row} (hdenied : t.denied = s.denied)
    (hnone : (s.rows table).countP (w.admits .full) = 0) (hrow : w.admits .full row = true)
    (hrows : t.rows table = s.rows table ++ [row]) : Settled table w s t where
  denied := hdenied
  one := by
    rw [hrows, List.countP_append, hnone, List.countP_singleton, hrow]
    rfl
  length := by
    rw [hrows, List.length_append, hnone]
    rfl
  untouched i other hother _ := by
    obtain ⟨hi, -⟩ := List.getElem?_eq_some_iff.1 hother
    rw [hrows, List.getElem?_append_left hi, hother]

/-- Values in the row with the key that leave it the key. -/
theorem of_changed {values : Row} (hdenied : t.denied = s.denied)
    (hone : (s.rows table).countP (w.admits .full) = 1)
    (hkeeps : ∀ row, w.admits .full (Fields.putAll values row) = w.admits .full row)
    (hrows : t.rows table = s.changed table w values) : Settled table w s t where
  denied := hdenied
  one := by
    have hsame (row : Row) :
        w.admits .full (if w.admits .full row then Fields.putAll values row else row) =
          w.admits .full row := by
      split
      · exact hkeeps row
      · rfl
    rw [hrows, changed, List.countP_map, ← hone]
    exact List.countP_congr fun row _ => by rw [Function.comp_apply, hsame]
  length := by
    rw [hrows, changed, List.length_map, hone]
    rfl
  untouched i row hrow hother := by
    rw [hrows, changed, List.getElem?_map, hrow, Option.map_some, hother]
    rfl

end Store.Settled

namespace Backend

variable {s : Store} {table : String} {w : Where}

/-- One upsert with a key that at most one row has. -/
theorem upsert_settles (now : Instant) (args : Upsert) (ht : table ∉ s.denied)
    (hkey : args.filter.IsKey) (hkeeps : args.KeepsKey)
    (hone : (s.rows table).countP (args.filter.admits .full) ≤ 1) :
    ∃ r t, (Store.backend.upsert now table args).Ends s (.ok r) t ∧
      Store.Settled table args.filter s t := by
  rcases Nat.le_one_iff_eq_zero_or_eq_one.1 hone with hnone | hone
  · obtain ⟨r, t, hends, hdenied, hrows⟩ := ends_upsert_other now args ht (by omega)
    have hrow := hkeeps.admits_inserted hkey s table now
    exact ⟨r, t, hends, .of_append hdenied hnone hrow hrows⟩
  · obtain ⟨row, hrow⟩ := exists_filter_eq_singleton hone
    obtain ⟨r, t, hends, hdenied, hrows⟩ := ends_upsert_one now args ht hrow
    exact ⟨r, t, hends, .of_changed hdenied hone (hkeeps.admits_putAll hkey now) hrows⟩

/-- **Upserts converge.**  Of upserts with one key, run one after the other on a table
where at most one row has the key, none fails; and after each of them one row has the
key, one row was added to those at the start if none had the key there, and the rows
without the key are as they were. -/
theorem upserts_converge (ht : table ∉ s.denied) (hkey : w.IsKey)
    (hone : (s.rows table).countP (w.admits .full) ≤ 1) {upserts : List (Instant × Upsert)}
    (hupserts : ∀ u ∈ upserts, u.2.filter = w ∧ u.2.KeepsKey) :
    ∀ o ∈ Session.outcomes (upserts.map fun u => Store.backend.upsert u.1 table u.2) s,
      (∃ r, o.result = .ok r) ∧ Store.Settled table w s o.state := by
  induction upserts generalizing s with
  | nil => simp
  | cons u rest ih =>
    obtain ⟨⟨hfilter, hkeeps⟩, hrest⟩ := List.forall_mem_cons.1 hupserts
    obtain ⟨r, t, hends, hsettled⟩ := upsert_settles (s := s) u.1 u.2 ht (hfilter ▸ hkey)
      hkeeps (hfilter ▸ hone)
    rw [hfilter] at hsettled
    rw [List.map_cons, hends.outcomes_cons, List.forall_mem_cons]
    refine ⟨⟨⟨r, hends.result_eq⟩, hends.state_eq ▸ hsettled⟩, fun o ho => ?_⟩
    have htail := ih (hsettled.denied ▸ ht) hsettled.one.le hrest o ho
    exact ⟨htail.1, hsettled.trans htail.2⟩

/-- The first of two upserts inserts a row beside one of another kind, the second changes
it. -/
theorem upserts_converge_by_kind :
    let other : Row := [("id", .text "1"), ("kind", .text "b")]
    let s : Store := { tables := [("items", [other])], ids := fun _ => "new" }
    let w := Where.empty.eq "kind" (.text "a")
    let args : Upsert :=
      { filter := w, create := [("size", .int 1)], update := [("size", .int 2)] }
    let upserts : List (Instant × Upsert) := [(⟨0, 0⟩, args), (⟨60, 0⟩, args)]
    "items" ∉ s.denied ∧ w.IsKey ∧ (s.rows "items").countP (w.admits .full) ≤ 1 ∧
      (∀ u ∈ upserts, u.2.filter = w ∧ u.2.KeepsKey) ∧
      ∀ o ∈ Session.outcomes (upserts.map fun u => Store.backend.upsert u.1 "items" u.2) s,
        (o.state.rows "items").length = 2 ∧ (o.state.rows "items")[0]? = some other := by
  intro other s w args upserts
  have hkey : w.IsKey :=
    { noBranches := rfl
      equality := by simp [w, Where.eq, Where.field, Where.empty, Value.IsKey]
      distinct := by decide
      unstamped := by decide }
  have hnone : (s.rows "items").countP (w.admits .full) = 0 := by
    rfl
  have hkeeps : ∀ u ∈ upserts, u.2.filter = w ∧ u.2.KeepsKey := by
    have hargs : args.KeepsKey := ⟨by decide, by decide⟩
    simp [upserts, hargs, args]
  refine ⟨List.not_mem_nil, hkey, by omega, hkeeps, fun o ho => ?_⟩
  obtain ⟨-, hsettled⟩ := upserts_converge List.not_mem_nil hkey (by omega) hkeeps o ho
  refine ⟨?_, hsettled.untouched 0 other rfl rfl⟩
  rw [hsettled.length, hnone]
  rfl

end Backend

end TabularQuery
