import TabularQuery.Proofs.Filter.Meaning

/-!
# Where-clauses and their descriptors

Which constraints a clause gets from the members of its descriptor, and which descriptors
are read at all.  From this, the rows that the calls of a clause accept are those that
satisfy its descriptor.

## Main definitions

* `Where.Reads` — a constraint read from a member of an object.
* `Where.admits_iff_satisfies` — the calls of a clause mean what its descriptor says.
* `Constraint.HoldsTo`, `Where.mem_equalities_iff` — the values to which columns are held.
-/

namespace TabularQuery

namespace Constraint

/-- Only the constraint of null is void. -/
theorem isVoid_eq_isNull {column : String} {v : Json} {c : Constraint}
    (h : ofJson column v = .ok c) : c.isVoid = v.isNull := by
  cases v with
  | object members =>
    rw [ofJson] at h
    split at h
    · obtain rfl := Except.ok.inj h
      rfl
    · rename_i verb _ _
      cases verb with
      | among | notAmong =>
        obtain ⟨vs, _, rfl⟩ := Except.map_eq_ok_iff.1 h
        rfl
      | _ =>
        obtain rfl := Except.ok.inj h
        rfl
  | number n =>
    obtain rfl := Except.ok.inj h
    rw [Value.ofJson]
    cases n with
    | integer i =>
      rw [Value.ofNumber]
      split <;> rfl
    | real x => rfl
  | null | bool _ | text _ =>
    obtain rfl := Except.ok.inj h
    simp [Value.ofJson, isVoid, Json.isNull]
  | array items =>
    obtain rfl := Except.ok.inj h
    simp [Value.ofJson, isVoid, Json.isNull]

end Constraint

namespace Where

/-- A constraint that is read from a member of an object, under the same column. -/
def Reads (m : String × Json) (f : String × Constraint) : Prop :=
  f.1 = m.1 ∧ Constraint.ofJson m.1 m.2 = .ok f.2

theorem Reads.accepts_iff {m : String × Json} {f : String × Constraint} (h : Reads m f)
    (row : Row) : (f.2.call f.1).accepts row = true ↔ row.Meets m.1 m.2 := by
  rw [h.1]
  exact Constraint.accepts_call_iff h.2 row

/-- Only the constraint of null is void. -/
theorem Reads.isVoid_eq {m : String × Json} {f : String × Constraint} (h : Reads m f) :
    f.2.isVoid = m.2.isNull :=
  Constraint.isVoid_eq_isNull h.2

theorem reads_iff_eq {column : String} {v : Json} {c : Constraint}
    (h : Constraint.ofJson column v = .ok c) {f : String × Constraint} :
    Reads (column, v) f ↔ f = (column, c) := by
  refine ⟨fun hf => Prod.ext hf.1 ?_, fun hf => hf ▸ ⟨rfl, h⟩⟩
  exact (Except.ok.inj (h.symm.trans hf.2)).symm

theorem exists_reads_iff {m : String × Json} :
    (∃ f, Reads m f) ↔ ∃ c, Constraint.ofJson m.1 m.2 = .ok c :=
  ⟨fun ⟨f, _, hf⟩ => ⟨f.2, hf⟩, fun ⟨c, hc⟩ => ⟨(m.1, c), rfl, hc⟩⟩

/-! ## Members of an entry -/

theorem mem_constraints_iff {ms : List (String × Json)} {cs : List (String × Constraint)}
    (h : constraints ms = .ok cs) {f : String × Constraint} :
    f ∈ cs ↔ ∃ m ∈ ms, Reads m f := by
  induction ms generalizing cs with
  | nil =>
    obtain rfl := Except.ok.inj h
    simp
  | cons m rest ih =>
    obtain ⟨column, v⟩ := m
    obtain ⟨c, hc, h⟩ := Except.bind_eq_ok_iff.1 h
    obtain ⟨ds, hds, h⟩ := Except.bind_eq_ok_iff.1 h
    obtain rfl := Except.ok.inj h
    simp only [List.mem_cons, ih hds, exists_eq_or_imp, reads_iff_eq hc]

theorem exists_constraints_iff {ms : List (String × Json)} :
    (∃ cs, constraints ms = .ok cs) ↔ ∀ m ∈ ms, ∃ f, Reads m f := by
  induction ms with
  | nil => simp [constraints]
  | cons m rest ih =>
    obtain ⟨column, v⟩ := m
    rw [List.forall_mem_cons, ← ih, exists_reads_iff]
    constructor
    · rintro ⟨cs, h⟩
      obtain ⟨c, hc, h⟩ := Except.bind_eq_ok_iff.1 h
      obtain ⟨ds, hds, -⟩ := Except.bind_eq_ok_iff.1 h
      exact ⟨⟨c, hc⟩, ds, hds⟩
    · rintro ⟨⟨c, hc⟩, ds, hds⟩
      exact ⟨(column, c) :: ds, Except.bind_eq_ok_iff.2
        ⟨c, hc, Except.bind_eq_ok_iff.2 ⟨ds, hds, rfl⟩⟩⟩

/-! ## Entries of a disjunction -/

theorem mem_branches_iff {entries : List Json} {bs : List (String × Constraint)}
    (h : branches entries = .ok bs) {f : String × Constraint} :
    f ∈ bs ↔ ∃ e ∈ entries, ∃ m ∈ e.pairs, Reads m f := by
  induction entries generalizing bs with
  | nil =>
    obtain rfl := Except.ok.inj h
    simp
  | cons e rest ih =>
    cases e with
    | object members =>
      obtain ⟨cs, hcs, h⟩ := Except.bind_eq_ok_iff.1 h
      obtain ⟨ds, hds, h⟩ := Except.bind_eq_ok_iff.1 h
      obtain rfl := Except.ok.inj h
      rw [List.mem_append, mem_constraints_iff hcs, ih hds]
      simp only [List.mem_cons, exists_eq_or_imp, Json.pairs]
    | _ => simp [branches] at h

theorem exists_branches_iff {entries : List Json} :
    (∃ bs, branches entries = .ok bs) ↔
      ∀ e ∈ entries, (∃ members, e = .object members) ∧ ∀ m ∈ e.pairs, ∃ f, Reads m f := by
  induction entries with
  | nil => simp [branches]
  | cons e rest ih =>
    rw [List.forall_mem_cons, ← ih]
    cases e with
    | object members =>
      rw [Json.pairs, ← exists_constraints_iff]
      constructor
      · rintro ⟨bs, h⟩
        obtain ⟨cs, hcs, h⟩ := Except.bind_eq_ok_iff.1 h
        obtain ⟨ds, hds, -⟩ := Except.bind_eq_ok_iff.1 h
        exact ⟨⟨⟨members, rfl⟩, cs, hcs⟩, ds, hds⟩
      · rintro ⟨⟨-, cs, hcs⟩, ds, hds⟩
        exact ⟨cs ++ ds, Except.bind_eq_ok_iff.2
          ⟨cs, hcs, Except.bind_eq_ok_iff.2 ⟨ds, hds, rfl⟩⟩⟩
    | _ => simp [branches]

/-- There are no branches if no entry names a column. -/
theorem branches_eq_nil_iff {entries : List Json} {bs : List (String × Constraint)}
    (h : branches entries = .ok bs) : bs = [] ↔ ∀ e ∈ entries, e.pairs = [] := by
  rw [List.eq_nil_iff_forall_not_mem]
  constructor
  · intro hnone e he
    rw [List.eq_nil_iff_forall_not_mem]
    intro m hm
    obtain ⟨f, hf⟩ := (exists_branches_iff.1 ⟨bs, h⟩ e he).2 m hm
    exact hnone f ((mem_branches_iff h).2 ⟨e, he, m, hm, hf⟩)
  · intro hnone f hf
    obtain ⟨e, he, m, hm, -⟩ := (mem_branches_iff h).1 hf
    rw [hnone e he] at hm
    simp at hm

/-- One of the branches accepts a row if the row meets the disjunction. -/
theorem exists_branch_accepts_iff {entries : List Json} {bs : List (String × Constraint)}
    (h : branches entries = .ok bs) (row : Row) :
    (∃ f ∈ bs, (f.2.call f.1).accepts row = true) ↔
      ∃ e ∈ entries, ∃ m ∈ e.pairs, row.Meets m.1 m.2 := by
  constructor
  · rintro ⟨f, hf, haccepts⟩
    obtain ⟨e, he, m, hm, hreads⟩ := (mem_branches_iff h).1 hf
    exact ⟨e, he, m, hm, (hreads.accepts_iff row).1 haccepts⟩
  · rintro ⟨e, he, m, hm, hmeets⟩
    obtain ⟨f, hreads⟩ := (exists_branches_iff.1 ⟨bs, h⟩ e he).2 m hm
    exact ⟨f, (mem_branches_iff h).2 ⟨e, he, m, hm, hreads⟩,
      (hreads.accepts_iff row).2 hmeets⟩

/-! ## Members of a clause -/

/-- A member of a descriptor that can be read: a disjunction, or a constraint. -/
def Readable (m : String × Json) : Prop :=
  if m.1 = "OR" then ∃ entries bs, m.2 = .array entries ∧ branches entries = .ok bs
  else ∃ f, Reads m f

/-- A descriptor is read if all its members can be. -/
theorem exists_ofMembers_iff {w : Where} {ms : List (String × Json)} :
    (∃ clause, ofMembers w ms = .ok clause) ↔ ∀ m ∈ ms, Readable m := by
  induction ms generalizing w with
  | nil => simp [ofMembers]
  | cons m rest ih =>
    obtain ⟨key, v⟩ := m
    rw [List.forall_mem_cons, Readable]
    by_cases hkey : key = "OR"
    · rw [if_pos hkey]
      cases v with
      | array entries =>
        simp only [ofMembers, if_pos hkey, Except.bind_eq_ok_iff]
        rw [exists_comm]
        simp only [exists_and_left, ih]
        simp
      | _ => simp [ofMembers, hkey]
    · rw [if_neg hkey, exists_reads_iff]
      simp only [ofMembers, if_neg hkey, Except.bind_eq_ok_iff]
      rw [exists_comm]
      simp only [exists_and_left, ih]
      simp

/-- A member that is no disjunction is read as a constraint. -/
theorem reads_of_ne_or {w : Where} {ms : List (String × Json)}
    (h : ∃ clause, ofMembers w ms = .ok clause) {m : String × Json} (hm : m ∈ ms)
    (hkey : m.1 ≠ "OR") : ∃ f, Reads m f := by
  have hread := exists_ofMembers_iff.1 h m hm
  rwa [Readable, if_neg hkey] at hread

/-- The constraints of a clause are those of the members that are no disjunction. -/
theorem mem_fields_iff {w clause : Where} {ms : List (String × Json)}
    (h : ofMembers w ms = .ok clause) {f : String × Constraint} :
    f ∈ clause.fields ↔ f ∈ w.fields ∨ ∃ m ∈ ms, m.1 ≠ "OR" ∧ Reads m f := by
  induction ms generalizing w with
  | nil =>
    obtain rfl := Except.ok.inj h
    simp
  | cons m rest ih =>
    obtain ⟨key, v⟩ := m
    by_cases hkey : key = "OR"
    · cases v with
      | array entries =>
        simp only [ofMembers, if_pos hkey] at h
        obtain ⟨bs, _, h⟩ := Except.bind_eq_ok_iff.1 h
        rw [ih h]
        simp [withAnyOf, hkey]
      | _ => simp [ofMembers, hkey] at h
    · simp only [ofMembers, if_neg hkey] at h
      obtain ⟨c, hc, h⟩ := Except.bind_eq_ok_iff.1 h
      rw [ih h, field]
      simp [hkey, reads_iff_eq hc, or_assoc]

/-- Without a disjunction among the members, the clause keeps the one it has. -/
theorem anyOf_of_none {w clause : Where} {ms : List (String × Json)}
    (h : ofMembers w ms = .ok clause) (hnone : Fields.get? "OR" ms = none) :
    clause.anyOf = w.anyOf := by
  induction ms generalizing w with
  | nil =>
    obtain rfl := Except.ok.inj h
    rfl
  | cons m rest ih =>
    obtain ⟨key, v⟩ := m
    rw [Fields.get?_cons] at hnone
    by_cases hkey : key = "OR"
    · simp [hkey] at hnone
    · rw [if_neg hkey] at hnone
      simp only [ofMembers, if_neg hkey] at h
      obtain ⟨c, _, h⟩ := Except.bind_eq_ok_iff.1 h
      have hrest := ih h hnone
      exact hrest

/-- The disjunction among the members is that of the clause. -/
theorem anyOf_of_some {w clause : Where} {ms : List (String × Json)} {d : Json}
    (h : ofMembers w ms = .ok clause) (hd : (Fields.names ms).Nodup)
    (hsome : Fields.get? "OR" ms = some d) :
    ∃ bs, branches d.items = .ok bs ∧ clause.anyOf = some bs := by
  induction ms generalizing w with
  | nil => simp at hsome
  | cons m rest ih =>
    obtain ⟨key, v⟩ := m
    obtain ⟨hnew, hrest⟩ := List.nodup_cons.1 hd
    rw [Fields.get?_cons] at hsome
    by_cases hkey : key = "OR"
    · rw [if_pos hkey] at hsome
      obtain rfl := Option.some.inj hsome
      cases v with
      | array entries =>
        simp only [ofMembers, if_pos hkey] at h
        obtain ⟨bs, hbs, h⟩ := Except.bind_eq_ok_iff.1 h
        have hnone := Fields.get?_eq_none_iff.2 (hkey ▸ hnew)
        exact ⟨bs, hbs, anyOf_of_none h hnone⟩
      | _ => simp [ofMembers, hkey] at h
    · rw [if_neg hkey] at hsome
      simp only [ofMembers, if_neg hkey] at h
      obtain ⟨c, _, h⟩ := Except.bind_eq_ok_iff.1 h
      exact ih h hrest hsome

/-! ## Calls of a clause -/

/-- What the calls of a clause accept in an operation, one constraint at a time. -/
theorem admits_iff_fieldCall {w : Where} {d : Dispatch} {row : Row} :
    w.admits d row = true ↔
      (∀ bs ∈ w.anyOf, bs = [] ∨ ∃ f ∈ bs, (f.2.call f.1).accepts row = true) ∧
        ∀ f ∈ w.fields, f.2.isVoid = false → (fieldCall d f.1 f.2).accepts row = true := by
  have hdisjunction :
      (∀ call ∈ w.disjunctionCalls, call.accepts row = true) ↔
        ∀ bs ∈ w.anyOf, bs = [] ∨ ∃ f ∈ bs, (f.2.call f.1).accepts row = true := by
    rw [disjunctionCalls]
    rcases w.anyOf with _ | _ | ⟨b, bs⟩
    · simp
    · simp
    · simp only [List.forall_mem_singleton, FilterCall.accepts_anyOf_iff, List.mem_map,
        exists_exists_and_eq_and, Option.mem_some_iff, forall_eq', reduceCtorEq, false_or]
  have hfields :
      (∀ call ∈ w.fieldCalls d, call.accepts row = true) ↔
        ∀ f ∈ w.fields, f.2.isVoid = false → (fieldCall d f.1 f.2).accepts row = true := by
    simp only [fieldCalls, List.forall_mem_map, List.mem_filter, and_imp, Bool.not_eq_true']
  rw [admits, List.all_eq_true, calls, List.forall_mem_append, hdisjunction, hfields]

/-- The same where all verbs are known. -/
theorem admits_iff {w : Where} {row : Row} :
    w.admits .full row = true ↔
      (∀ bs ∈ w.anyOf, bs = [] ∨ ∃ f ∈ bs, (f.2.call f.1).accepts row = true) ∧
        ∀ f ∈ w.fields, f.2.isVoid = false → (f.2.call f.1).accepts row = true := by
  rw [admits_iff_fieldCall]
  simp only [fieldCall, supports_full, if_true]

/-- **The calls of a clause accept the rows that satisfy its descriptor.** -/
theorem admits_iff_satisfies {w : Json} {clause : Where} (hd : w.KeysDistinct)
    (h : ofJson w = .ok clause) (row : Row) :
    clause.admits .full row = true ↔ row.Satisfies w := by
  rw [admits_iff]
  cases w with
  | null =>
    obtain rfl := Except.ok.inj h
    simp [empty, Row.Satisfies]
  | object members =>
    have hnames := (Json.keysDistinct_object.1 hd).1
    refine and_congr ?_ ?_
    · cases hor : Fields.get? "OR" members with
      | none =>
        rw [anyOf_of_none h hor]
        simp [empty]
      | some d =>
        obtain ⟨bs, hbs, hany⟩ := anyOf_of_some h hnames hor
        rw [hany]
        simp only [Option.mem_some_iff, forall_eq', Row.MeetsSome, branches_eq_nil_iff hbs,
          exists_branch_accepts_iff hbs]
    · constructor
      · intro hall m hm hkey hvoid
        obtain ⟨f, hreads⟩ := reads_of_ne_or ⟨clause, h⟩ hm hkey
        have hf := (mem_fields_iff h).2 (.inr ⟨m, hm, hkey, hreads⟩)
        exact (hreads.accepts_iff row).1 (hall f hf (hreads.isVoid_eq ▸ hvoid))
      · intro hall f hf hvoid
        rcases (mem_fields_iff h).1 hf with hempty | ⟨m, hm, hkey, hreads⟩
        · simp [empty] at hempty
        · exact (hreads.accepts_iff row).2 (hall m hm hkey (hreads.isVoid_eq ▸ hvoid))
  | _ => simp [ofJson] at h

end Where

/-! ## Columns that are held to values -/

/-- A constraint holds its column to a value that is not null. -/
def Constraint.HoldsTo (c : Constraint) (v : Value) : Prop :=
  (c = .literal v ∨ c = .equals v) ∧ v.isNull = false

namespace Where

variable {w : Where} {column : String} {v : Value}

theorem mem_equalities_iff :
    (column, v) ∈ w.equalities ↔ ∃ c, (column, c) ∈ w.fields ∧ c.HoldsTo v := by
  rw [equalities, List.mem_filterMap]
  constructor
  · rintro ⟨⟨name, c⟩, hmem, heq⟩
    cases c with
    | literal u | equals u =>
      obtain ⟨hnull, rfl, rfl⟩ : u.isNull = false ∧ name = column ∧ u = v := by simpa using heq
      exact ⟨_, hmem, by simp, hnull⟩
    | _ => cases heq
  · rintro ⟨c, hmem, hc, hnull⟩
    refine ⟨(column, c), hmem, ?_⟩
    rcases hc with rfl | rfl <;> simp [hnull]

/-- Without a constraint that holds the column to a value there is none for it. -/
theorem get?_equalities_eq_none (h : ∀ c v, (column, c) ∈ w.fields → ¬ c.HoldsTo v) :
    Fields.get? column w.equalities = none := by
  refine Fields.get?_eq_none_iff.2 fun hname => ?_
  obtain ⟨⟨name, v⟩, hmem, rfl⟩ := List.mem_map.1 hname
  obtain ⟨c, hc, hholds⟩ := mem_equalities_iff.1 hmem
  exact h c v hc hholds

/-- The last constraint that holds the column to a value gives the value in the map. -/
theorem get?_sorted_equalities {c : Constraint} {before after : List (String × Constraint)}
    (hfields : w.fields = before ++ (column, c) :: after) (hc : c.HoldsTo v)
    (hafter : ∀ c' u, (column, c') ∈ after → ¬ c'.HoldsTo u) :
    Fields.get? column (Fields.sorted w.equalities) = some v := by
  have hsplit : w.equalities =
      equalities { fields := before } ++ (column, v) :: equalities { fields := after } := by
    obtain ⟨hform, hnull⟩ := hc
    rw [equalities, hfields, List.filterMap_append, List.filterMap_cons]
    rcases hform with rfl | rfl <;> simp [equalities, hnull]
  rw [Fields.sorted, hsplit]
  exact Fields.get?_insertAll_last v (get?_equalities_eq_none hafter) []

end Where

end TabularQuery
