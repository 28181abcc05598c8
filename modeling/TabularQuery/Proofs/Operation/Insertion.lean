import TabularQuery.Proofs.Operation.Write
import TabularQuery.Proofs.Store.Rows

/-!
# Inserting rows one by one and together

Rows that are inserted together stand in their table as if they had been inserted one after
the other at the same instant: in the same sequence and with the same ids.  One stamp is an
exception.  In a table whose rows are never changed, a row that is inserted on its own has
no instant of a last change, and rows that are inserted together have one.

## Main definitions

* `Store.Grown.trans` — insertions one after the other.
* `Backend.grown_creates`, `Backend.grown_createMany` — what the two ways leave.
* `Record.stampBoth_eq_stampCreation_iff` — the records that they stamp alike.
* `Backend.createMany_eq_creates_iff` — when they leave the same rows.
-/

namespace TabularQuery

namespace Store

/-! ## Ids -/

/-- Ids are taken from the supply row by row. -/
theorem withIds_append (ids : Nat → String) (next : Nat) (rows more : List Row) :
    withIds ids next (rows ++ more) =
      ((withIds ids next rows).1 ++ (withIds ids (withIds ids next rows).2 more).1,
        (withIds ids (withIds ids next rows).2 more).2) := by
  induction rows generalizing next with
  | nil => rfl
  | cons row rest ih =>
    rw [List.cons_append, withIds_cons, withIds_cons, ih]
    rfl

/-- Rows with the same id are the same if they were before. -/
theorem withId_injective {id : String} {row other : Row}
    (hid : Fields.has "id" row = Fields.has "id" other)
    (h : (withId id row).1 = (withId id other).1) : row = other := by
  rw [withId, withId, ← hid] at h
  split at h
  · exact h
  · rename_i hnone
    have hrow : Fields.has "id" row = false := by simpa using hnone
    rw [Fields.put_of_has_eq_false hrow, Fields.put_of_has_eq_false (hid ▸ hrow)] at h
    exact List.append_cancel_right h

/-- Two ways to make rows take the same ids if they need them for the same rows, and they make
the same rows only if they made the same before. -/
theorem withIds_map_iff {α : Type} {f g : α → Row}
    (hid : ∀ a, Fields.has "id" (f a) = Fields.has "id" (g a)) (ids : Nat → String)
    (next : Nat) (as : List α) :
    (withIds ids next (as.map f)).2 = (withIds ids next (as.map g)).2 ∧
      ((withIds ids next (as.map f)).1 = (withIds ids next (as.map g)).1 ↔
        ∀ a ∈ as, f a = g a) := by
  induction as generalizing next with
  | nil => simp [withIds]
  | cons a rest ih =>
    have hfollowing : following ids next (f a) = following ids next (g a) := by
      rw [following, following, withId, withId, ← hid]
      split <;> rfl
    have hrow : (withId (ids next) (f a)).1 = (withId (ids next) (g a)).1 ↔ f a = g a :=
      ⟨withId_injective (hid a), fun h => by rw [h]⟩
    obtain ⟨hdrawn, hrows⟩ := ih (following ids next (g a))
    rw [List.map_cons, List.map_cons, withIds_cons, withIds_cons, hfollowing,
      List.cons.injEq, hrow, hrows, List.forall_mem_cons]
    exact ⟨hdrawn, Iff.rfl⟩

/-! ## Insertions one after the other -/

namespace Grown

variable {s t u : Store} {table : String} {new more : List Row}

theorem refl (s : Store) (table : String) : Grown table [] s s :=
  ⟨rfl, rfl, rfl, (List.append_nil _).symm, fun _ _ => rfl⟩

theorem trans (h : Grown table new s t) (hmore : Grown table more t u) :
    Grown table (new ++ more) s u where
  denied := hmore.denied.trans h.denied
  ids := hmore.ids.trans h.ids
  drawn := by rw [hmore.drawn, h.ids, h.drawn, withIds_append]
  rows := by rw [hmore.rows, h.rows, h.ids, h.drawn, withIds_append, List.append_assoc]
  others other hother := (hmore.others other hother).trans (h.others other hother)

end Grown

end Store

/-! ## Stamps -/

namespace Record

variable {table : String}

theorem has_toMembers (r : Record) (column : String) :
    Fields.has column r.toMembers = (Fields.get? column r).isSome := by
  rw [Fields.has, get?_toMembers, Option.isSome_map]

/-- Stamps do not bring an id. -/
theorem has_id_stampBoth (r : Record) (now : Instant) :
    Fields.has "id" (r.stampBoth now).toMembers = (Fields.get? "id" r).isSome := by
  rw [has_toMembers, stampBoth, get?_stampIfAbsent_of_ne (by decide),
    get?_stampIfAbsent_of_ne (by decide)]

theorem has_id_stampCreation (r : Record) (table : String) (now : Instant) :
    Fields.has "id" (r.stampCreation table now).toMembers = (Fields.get? "id" r).isSome := by
  rw [stampCreation]
  split
  · rw [has_toMembers, get?_stampIfAbsent_of_ne (by decide)]
  · exact has_id_stampBoth r now

/-- In a table whose rows are never changed, a row on its own has the instant of a last
change that its data have. -/
theorem get?_updated_stampCreation (r : Record) (now : Instant) (h : table ∈ auditTables) :
    Fields.get? "updated_at" (r.stampCreation table now).toMembers =
      (Fields.get? "updated_at" r).map Value.toJson := by
  rw [stampCreation, if_pos (List.contains_iff_mem.2 h), get?_toMembers,
    get?_stampIfAbsent_of_ne (by decide)]

/-- Together with others it always has one. -/
theorem has_updated_stampBoth (r : Record) (now : Instant) :
    Fields.has "updated_at" (r.stampBoth now).toMembers = true := by
  rw [has_toMembers, stampBoth]
  by_cases h : (r.stampIfAbsent "created_at" (.timestamp now)).HasValue "updated_at"
  · rw [stampIfAbsent_of_hasValue h]
    obtain ⟨v, hv, -⟩ := h
    rw [hv]
    rfl
  · rw [get?_stampIfAbsent_of_not_hasValue h]
    rfl

/-- Both ways stamp a record alike, unless the table is such a one and the record has no
instant of a last change. -/
theorem stampBoth_eq_stampCreation_iff (r : Record) (now : Instant) :
    (r.stampBoth now).toMembers = (r.stampCreation table now).toMembers ↔
      (table ∈ auditTables → r.HasValue "updated_at") := by
  have hcreated : (r.stampIfAbsent "created_at" (.timestamp now)).HasValue "updated_at" ↔
      r.HasValue "updated_at" := by
    rw [HasValue, get?_stampIfAbsent_of_ne (by decide), HasValue]
  constructor
  · intro heq htable
    by_contra hnone
    have hboth : Fields.get? "updated_at" (r.stampBoth now).toMembers =
        some (Value.timestamp now).toJson := by
      rw [get?_toMembers, stampBoth, get?_stampIfAbsent_of_not_hasValue (mt hcreated.1 hnone)]
      rfl
    rw [heq, get?_updated_stampCreation r now htable] at hboth
    obtain ⟨v, hv, hjson⟩ := Option.map_eq_some_iff.1 hboth
    -- the value that stands there cannot be null, since it is written as the instant is
    refine hnone ⟨v, hv, ?_⟩
    cases v with
    | null => cases hjson
    | _ => rfl
  · intro h
    by_cases htable : table ∈ auditTables
    · rw [stampCreation, if_pos (List.contains_iff_mem.2 htable), stampBoth,
        stampIfAbsent_of_hasValue (hcreated.2 (h htable))]
    · rw [stampCreation, if_neg (mt List.contains_iff_mem.1 htable)]

end Record

/-! ## Insertions -/

namespace Backend

variable {s : Store} {table : String}

/-- Rows that are inserted one by one stand in the table one after the other. -/
theorem grown_creates (now : Instant) (inserts : List Create) (ht : table ∉ s.denied) :
    (∀ o ∈ Session.outcomes (inserts.map (Store.backend.create now table)) s,
      ∃ r, o.result = .ok r) ∧
    Store.Grown table
      (inserts.map fun args => (args.data.stampCreation table now).toMembers) s
      (Session.after (inserts.map (Store.backend.create now table)) s) := by
  induction inserts generalizing s with
  | nil => exact ⟨by simp, Store.Grown.refl s table⟩
  | cons args rest ih =>
    obtain ⟨r, t, hends, hgrown⟩ := grown_create now args ht
    obtain ⟨hresults, hrest⟩ := ih (hgrown.denied ▸ ht)
    rw [List.map_cons, hends.outcomes_cons, hends.after_cons, List.map_cons]
    refine ⟨?_, hgrown.trans hrest⟩
    intro o ho
    rcases List.mem_cons.1 ho with rfl | ho
    · exact ⟨r, hends.result_eq⟩
    · exact hresults o ho

/-- Rows that are inserted together do too. -/
theorem grown_createMany (now : Instant) (args : CreateMany) (ht : table ∉ s.denied) :
    ∃ t, (Store.backend.createMany now table args).Ends s (.ok args.data.length) t ∧
      Store.Grown table (args.data.map fun r => (r.stampBoth now).toMembers) s t := by
  rw [createMany]
  split
  · rename_i hempty
    have hnil : args.data = [] := List.isEmpty_iff.1 hempty
    rw [hnil]
    exact ⟨s, Session.ends_pure 0 s, Store.Grown.refl s table⟩
  · have hlength : (args.data.map fun r => (r.stampBoth now).toMembers).length =
        args.data.length := List.length_map _
    obtain ⟨t, hexecute, hgrown⟩ := Store.execute_grown
      (q := (Query.ofTable table).insert (args.data.map fun r => (r.stampBoth now).toMembers))
      rfl ht (fun hsingle => by cases hsingle)
    refine ⟨t, ?_, hgrown⟩
    rw [← hlength]
    exact (Store.ends_send_ok .createMany hexecute).bind (Session.ends_pure _ t)

/-- **An insertion of many rows is the insertions of its rows one after the other**, at the
same instant and with the same supply of ids: it has a result if they have, takes the same
ids, and leaves the other tables alike.  It leaves the same rows unless the table is one of
those whose rows are never changed and a record has no instant of a last change: there the
row of such a record has none on its own, and has one together with others. -/
theorem createMany_eq_creates_iff (now : Instant) (inserts : List Create)
    (ht : table ∉ s.denied) :
    let many := (Store.backend.createMany now table { data := inserts.map Create.data }).run s
    let creates := inserts.map (Store.backend.create now table)
    let each := Session.after creates s
    many.result = .ok inserts.length ∧
      (∀ o ∈ Session.outcomes creates s, ∃ r, o.result = .ok r) ∧
      many.state.drawn = each.drawn ∧
      (∀ other, other ≠ table → many.state.rows other = each.rows other) ∧
      (many.state.rows table = each.rows table ↔
        (table ∈ auditTables → ∀ args ∈ inserts, args.data.HasValue "updated_at")) ∧
      (∃ new, many.state.rows table = s.rows table ++ new ∧
        List.Forall₂ (fun row _ => Fields.has "updated_at" row = true) new inserts) ∧
      (table ∈ auditTables → ∃ new, each.rows table = s.rows table ++ new ∧
        List.Forall₂ (fun row args => Fields.get? "updated_at" row =
          (Fields.get? "updated_at" args.data).map Value.toJson) new inserts) := by
  intro many creates each
  obtain ⟨t, hmany, htogether⟩ := grown_createMany now { data := inserts.map Create.data } ht
  obtain ⟨hcreates, hone⟩ := grown_creates now inserts ht
  simp only [List.map_map, Function.comp_def, List.length_map] at hmany htogether
  have hstate : many.state = t := hmany.state_eq
  have hid (args : Create) : Fields.has "id" (args.data.stampBoth now).toMembers =
      Fields.has "id" (args.data.stampCreation table now).toMembers := by
    rw [Record.has_id_stampBoth, Record.has_id_stampCreation]
  obtain ⟨hdrawn, hrows⟩ := Store.withIds_map_iff hid s.ids s.drawn inserts
  rw [hstate]
  refine ⟨hmany.result_eq, hcreates, ?_, ?_, ?_, ?_, ?_⟩
  · rw [htogether.drawn, hone.drawn, hdrawn]
  · intro other hother
    rw [htogether.others other hother, hone.others other hother]
  · rw [htogether.rows, hone.rows, List.append_cancel_left_eq, hrows]
    simp only [Record.stampBoth_eq_stampCreation_iff]
    constructor
    · intro h htable args hargs
      exact h args hargs htable
    · intro h args hargs htable
      exact h htable args hargs
  · refine ⟨_, htogether.rows, Store.forall₂_withIds (fun id args => ?_) s.ids s.drawn inserts⟩
    rw [Fields.has, Store.get?_withId_of_ne (by decide)]
    exact Record.has_updated_stampBoth args.data now
  · intro htable
    refine ⟨_, hone.rows, Store.forall₂_withIds (fun id args => ?_) s.ids s.drawn inserts⟩
    rw [Store.get?_withId_of_ne (by decide), Record.get?_updated_stampCreation _ now htable]

/-- Two records, one without an id, in a table whose rows are changed. -/
theorem createMany_eq_creates_of_items :
    let s : Store := { tables := [("items", [[("id", .text "0")]])], ids := fun _ => "new" }
    let inserts : List Create :=
      [{ data := [("kind", .text "a")] }, { data := [("id", .text "2")] }]
    let now : Instant := ⟨0, 0⟩
    let many := (Store.backend.createMany now "items"
      { data := inserts.map Create.data }).run s
    "items" ∉ s.denied ∧ many.result = .ok 2 ∧
      many.state.rows "items" =
        (Session.after (inserts.map (Store.backend.create now "items")) s).rows "items" := by
  intro s inserts now many
  have ht : "items" ∉ s.denied := List.not_mem_nil
  have hchanging : "items" ∉ auditTables := by decide
  obtain ⟨hresult, -, -, -, hrows, -⟩ := createMany_eq_creates_iff now inserts ht
  exact ⟨ht, hresult, hrows.2 fun htable => absurd htable hchanging⟩

/-- In a table whose rows are never changed, a row that is inserted on its own has no instant
of a last change, and the same row has one if it is inserted as one of many. -/
theorem createMany_ne_create_of_audit_logs :
    let s : Store := { ids := fun _ => "new" }
    let data : Record := [("id", .text "1")]
    let now : Instant := ⟨0, 0⟩
    let many := (Store.backend.createMany now "audit_logs" { data := [data] }).run s
    let one := (Store.backend.create now "audit_logs" { data }).run s
    many.result = .ok 1 ∧
      (many.state.rows "audit_logs").map (Fields.has "updated_at") = [true] ∧
      (one.state.rows "audit_logs").map (Fields.has "updated_at") = [false] := by
  intro s data now many one
  have ht : "audit_logs" ∉ s.denied := List.not_mem_nil
  obtain ⟨_, hmany, htogether⟩ := grown_createMany now { data := [data] } ht
  obtain ⟨_, _, hone, halone⟩ := grown_create now { data } ht
  refine ⟨hmany.result_eq, ?_, ?_⟩
  · have hrows := htogether.rows
    rw [← hmany.state_eq] at hrows
    exact congrArg (List.map (Fields.has "updated_at")) hrows
  · have hrows := halone.rows
    rw [← hone.state_eq] at hrows
    exact congrArg (List.map (Fields.has "updated_at")) hrows

end Backend

end TabularQuery
