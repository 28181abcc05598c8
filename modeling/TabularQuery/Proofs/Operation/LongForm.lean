import TabularQuery.Proofs.Filter.Fallback
import TabularQuery.Proofs.Operation.Agreement

/-!
# The long form of an equality

An equality is written as a bare value or as the verb `equals` with the value.  Operations
that know all verbs do the same with both.  Counts and writes of many rows do not know
`equals`: there the long form asks for the text of an object with the verb, as if the object
had no verb, and no row has both this text and the value.

## Main definitions

* `Where.ShortensTo` — the verb `equals` is left out of some constraints of a clause.
* `Json.shortened` — it is left out of a descriptor.
* `Task.dispatch`, `Task.withFilter` — the verbs that an operation knows, and its filter.
* `Where.spelledOut` — the object with the verb instead of the verb.
* `Task.equals_long_form` — what operations do with the two forms.
-/

namespace TabularQuery

/-! ## Clauses in two forms -/

/-- Whether the value is an object. -/
def Value.isObject : Value → Bool
  | object _ => true
  | _ => false

/-- A constraint stays as it is, or the verb `equals` is left out before a value that is
neither null nor an object. -/
inductive Constraint.ShortensTo : Constraint → Constraint → Prop where
  | same (c : Constraint) : ShortensTo c c
  | bare {v : Value} : v.isNull = false → v.isObject = false →
      ShortensTo (.equals v) (.literal v)

/-- Only the bare null is not asked for. -/
theorem Constraint.isVoid_literal {v : Value} (h : v.isNull = false) :
    (literal v).isVoid = false := by
  cases v with
  | null => cases h
  | _ => rfl

/-- Operations that do not know all verbs do not know `equals`. -/
theorem Dispatch.supports_equals {d : Dispatch} (h : d ≠ full) (v : Value) :
    d.supports (.equals v) = false := by
  cases d with
  | full => exact absurd rfl h
  | count => rfl
  | bulk => rfl

namespace Constraint.ShortensTo

variable {c c' : Constraint}

theorem call_eq (h : c.ShortensTo c') (column : String) : c.call column = c'.call column := by
  cases h <;> rfl

theorem isVoid_eq (h : c.ShortensTo c') : c.isVoid = c'.isVoid := by
  cases h with
  | same => rfl
  | bare hnull _ => exact (isVoid_literal hnull).symm

end Constraint.ShortensTo

/-- The same of a column with a constraint. -/
def Where.FieldShortensTo (f f' : String × Constraint) : Prop :=
  f'.1 = f.1 ∧ f.2.ShortensTo f'.2

/-- The verb `equals` is left out of some constraints of a clause, not of those in its
disjunction. -/
structure Where.ShortensTo (w w' : Where) : Prop where
  anyOf : w'.anyOf = w.anyOf
  fields : List.Forall₂ FieldShortensTo w.fields w'.fields

namespace Where

section Fields

variable {fs fs' : List (String × Constraint)} (h : List.Forall₂ FieldShortensTo fs fs')

include h

theorem fieldCalls_of_shortensTo (anyOf anyOf' : Option (List (String × Constraint))) :
    fieldCalls .full ⟨anyOf, fs⟩ = fieldCalls .full ⟨anyOf', fs'⟩ := by
  simp only [fieldCalls]
  induction h with
  | nil => rfl
  | @cons f f' _ _ hf _ ih =>
    obtain ⟨hcolumn, hc⟩ := hf
    have hcall : fieldCall .full f.1 f.2 = fieldCall .full f'.1 f'.2 := by
      simp only [fieldCall, supports_full, if_true, hcolumn, hc.call_eq]
    rw [List.filter_cons, List.filter_cons, ← hc.isVoid_eq]
    split
    · rw [List.map_cons, List.map_cons, hcall, ih]
    · exact ih

theorem equalities_of_shortensTo (anyOf anyOf' : Option (List (String × Constraint))) :
    equalities ⟨anyOf, fs⟩ = equalities ⟨anyOf', fs'⟩ := by
  simp only [equalities]
  induction h with
  | nil => rfl
  | @cons f f' _ _ hf _ ih =>
    obtain ⟨column, c⟩ := f
    obtain ⟨column', c'⟩ := f'
    obtain ⟨hcolumn, hc⟩ := hf
    obtain rfl : column' = column := hcolumn
    cases hc with
    | same => rw [List.filterMap_cons, List.filterMap_cons, ih]
    | bare => rw [List.filterMap_cons, List.filterMap_cons, ih]

/-- Constraints that are not the same afterwards have lost a verb. -/
theorem exists_bare_of_shortensTo (hne : fs' ≠ fs) :
    ∃ column v, v.isNull = false ∧ (column, Constraint.equals v) ∈ fs ∧
      (column, Constraint.literal v) ∈ fs' := by
  induction h with
  | nil => exact absurd rfl hne
  | @cons f f' rest rest' hf _ ih =>
    obtain ⟨column, c⟩ := f
    obtain ⟨column', c'⟩ := f'
    obtain ⟨hcolumn, hc⟩ := hf
    obtain rfl : column' = column := hcolumn
    cases hc with
    | @bare v hnull _ =>
      exact ⟨column', v, hnull, List.mem_cons_self, List.mem_cons_self⟩
    | same =>
      have hrest : rest' ≠ rest := by
        rintro rfl
        exact hne rfl
      obtain ⟨column, v, hnull, hlong, hshort⟩ := ih hrest
      exact ⟨column, v, hnull, List.mem_cons_of_mem _ hlong, List.mem_cons_of_mem _ hshort⟩

end Fields

namespace ShortensTo

variable {w w' : Where}

/-- Where all verbs are known, both forms have the same calls. -/
theorem calls_eq (h : w.ShortensTo w') : w.calls .full = w'.calls .full := by
  have hdisjunction : w.disjunctionCalls = w'.disjunctionCalls := by
    rw [disjunctionCalls, disjunctionCalls, h.anyOf]
  have hfields : w.fieldCalls .full = w'.fieldCalls .full :=
    fieldCalls_of_shortensTo h.fields w.anyOf w'.anyOf
  rw [calls, calls, hdisjunction, hfields]

/-- They hold the same columns to the same values. -/
theorem equalities_eq (h : w.ShortensTo w') : w.equalities = w'.equalities :=
  equalities_of_shortensTo h.fields w.anyOf w'.anyOf

/-- Where `equals` is not known, no row is admitted in both forms: one asks for the value,
and the other for the text of an object that has it. -/
theorem not_admits (h : w.ShortensTo w') (hne : w' ≠ w) {d : Dispatch} (hd : d ≠ .full)
    {row : Row} (hrow : w.admits d row = true) : w'.admits d row = false := by
  have hfields : w'.fields ≠ w.fields := by
    intro hsame
    apply hne
    cases w
    cases w'
    exact congrArg₂ Where.mk h.anyOf hsame
  obtain ⟨column, v, hnull, hlong, hshort⟩ := exists_bare_of_shortensTo h.fields hfields
  rw [← Bool.not_eq_true]
  intro hrow'
  have hcell := (admits_iff_fieldCall.1 hrow).2 _ hlong rfl
  rw [accepts_fieldCall_iff (Dispatch.supports_equals hd v)] at hcell
  have hvalue := (admits_iff_fieldCall.1 hrow').2 _ hshort (Constraint.isVoid_literal hnull)
  obtain ⟨t, ht, heq⟩ := FilterCall.accepts_compare_iff.1 hvalue
  obtain rfl : t = (Constraint.equals v).toValue.plain :=
    Option.some.inj (ht.symm.trans hcell)
  exact Constraint.compareTexts_verbObject_ne (le_refl _) (beq_iff_eq.1 heq)

end ShortensTo

end Where

/-! ## Descriptors -/

/-- Whether the value is an object. -/
def Json.isObject : Json → Bool
  | object _ => true
  | _ => false

/-- A constraint without the verb `equals`, if it has only this verb, with a value that is
neither null nor an object. -/
def Json.withoutEquals : Json → Json
  | object [(key, v)] =>
    if key = Verb.equals.name ∧ v.isNull = false ∧ v.isObject = false then v
    else object [(key, v)]
  | v => v

/-- A descriptor in whose constraints the verb `equals` is left out, apart from those of its
disjunction. -/
def Json.shortened : Json → Json
  | object members =>
    object (members.map fun m => (m.1, if m.1 = "OR" then m.2 else m.2.withoutEquals))
  | v => v

/-- The value of a JSON value is null or an object if that is. -/
theorem Value.isNull_and_isObject_ofJson (v : Json) :
    (ofJson v).isNull = v.isNull ∧ (ofJson v).isObject = v.isObject := by
  cases v with
  | number n =>
    cases n with
    | integer i =>
      rw [ofJson, ofNumber]
      split <;> exact ⟨rfl, rfl⟩
    | real x => exact ⟨rfl, rfl⟩
  | _ => simp [ofJson, isNull, Json.isNull, isObject, Json.isObject]

theorem Constraint.ofJson_withoutEquals {column : String} {v : Json} {c : Constraint}
    (h : ofJson column v = .ok c) :
    ∃ c', ofJson column v.withoutEquals = .ok c' ∧ c.ShortensTo c' := by
  unfold Json.withoutEquals
  split
  · rename_i key v
    split
    · rename_i hbare
      obtain ⟨rfl, hnull, hobject⟩ := hbare
      obtain rfl : equals (Value.ofJson v) = c := Except.ok.inj h
      obtain ⟨hsameNull, hsameObject⟩ := Value.isNull_and_isObject_ofJson v
      refine ⟨literal (Value.ofJson v), ?_, .bare ?_ ?_⟩
      · cases v with
        | object => cases hobject
        | _ => rfl
      · rw [hsameNull, hnull]
      · rw [hsameObject, hobject]
    · exact ⟨c, h, .same c⟩
  · exact ⟨c, h, .same c⟩

namespace Where

theorem ofMembers_shortened {u u' w : Where} {ms : List (String × Json)}
    (h : ofMembers u ms = .ok w) (hu : u.ShortensTo u') :
    ∃ w', ofMembers u' (ms.map fun m =>
      (m.1, if m.1 = "OR" then m.2 else m.2.withoutEquals)) = .ok w' ∧ w.ShortensTo w' := by
  induction ms generalizing u u' with
  | nil =>
    obtain rfl := Except.ok.inj h
    exact ⟨u', rfl, hu⟩
  | cons m rest ih =>
    obtain ⟨key, v⟩ := m
    rw [List.map_cons]
    by_cases hkey : key = "OR"
    · cases v with
      | array entries =>
        simp only [ofMembers, if_pos hkey] at h ⊢
        obtain ⟨bs, hbs, h⟩ := Except.bind_eq_ok_iff.1 h
        have hdisjunction : (u.withAnyOf bs).ShortensTo (u'.withAnyOf bs) := ⟨rfl, hu.fields⟩
        obtain ⟨w', hw', hshort⟩ := ih h hdisjunction
        exact ⟨w', Except.bind_eq_ok_iff.2 ⟨bs, hbs, hw'⟩, hshort⟩
      | _ => simp [ofMembers, hkey] at h
    · simp only [ofMembers, if_neg hkey] at h ⊢
      obtain ⟨c, hc, h⟩ := Except.bind_eq_ok_iff.1 h
      obtain ⟨c', hc', hbare⟩ := Constraint.ofJson_withoutEquals hc
      have hfield : (u.field key c).ShortensTo (u'.field key c') :=
        ⟨hu.anyOf, List.rel_append hu.fields (.cons ⟨rfl, hbare⟩ .nil)⟩
      obtain ⟨w', hw', hshort⟩ := ih h hfield
      exact ⟨w', Except.bind_eq_ok_iff.2 ⟨c', hc', hw'⟩, hshort⟩

/-- A descriptor that is read is also read without the verb `equals`. -/
theorem ofJson_shortened {j : Json} {w : Where} (h : ofJson j = .ok w) :
    ∃ w', ofJson j.shortened = .ok w' ∧ w.ShortensTo w' := by
  cases j with
  | object members => exact ofMembers_shortened h ⟨rfl, .nil⟩
  | null =>
    obtain rfl := Except.ok.inj h
    exact ⟨empty, rfl, rfl, .nil⟩
  | _ => simp [ofJson] at h

end Where

/-! ## Filters of operations -/

namespace Task

/-- The verbs that an operation knows at the top of its filter. -/
def dispatch : Task → Dispatch
  | count _ => .count
  | updateMany _ | deleteMany _ => .bulk
  | _ => .full

/-- An operation with another filter.  Insertions have none. -/
def withFilter (w : Where) : Task → Task
  | findMany args => findMany { args with filter := w }
  | findUnique args => findUnique { args with filter := w }
  | findFirst args => findFirst { args with filter := w }
  | count args => count { args with filter := w }
  | groupBy args => groupBy { args with filter := w }
  | aggregate args => aggregate { args with filter := w }
  | create args => create args
  | update args => update { args with filter := w }
  | delete args => delete { args with filter := w }
  | createMany args => createMany args
  | updateMany args => updateMany { args with filter := w }
  | deleteMany args => deleteMany { args with filter := w }
  | upsert args => upsert { args with filter := w }

end Task

/-! ## Operations that know all verbs -/

namespace Where.ShortensTo

variable {w w' : Where} {σ : Type} {b : Backend σ} {now : Instant} {table : String}

theorem sendFiltered_eq (h : w.ShortensTo w') (op : Operation) (q : Query) :
    Session.sendFiltered b op .full w q = Session.sendFiltered b op .full w' q := by
  have hnotices (w : Where) : w.fallbackNotices q.table .full = [] := by
    simp [fallbackNotices]
  rw [Session.sendFiltered, Session.sendFiltered, hnotices, hnotices,
    Query.restrict_eq, Query.restrict_eq, h.calls_eq]

theorem findUnique_eq (h : w.ShortensTo w') (args : FindUnique) :
    b.findUnique table { args with filter := w } =
      b.findUnique table { args with filter := w' } :=
  congrArg (Session.orNone .findUnique table) (h.sendFiltered_eq .findUnique _)

theorem update_eq (h : w.ShortensTo w') (args : Update) :
    b.update now table { args with filter := w } =
      b.update now table { args with filter := w' } :=
  congrArg (· >>= Session.writtenRecord .update table) (h.sendFiltered_eq .update _)

/-- The row that is inserted has the same columns too. -/
theorem upsert_eq (h : w.ShortensTo w') (args : Upsert) :
    b.upsert now table { args with filter := w } =
      b.upsert now table { args with filter := w' } := by
  have hinsertion : Upsert.insertion { args with filter := w } =
      Upsert.insertion { args with filter := w' } := by
    simp only [Upsert.insertion, h.equalities_eq]
  have hsearch : b.findUnique table { filter := w } = b.findUnique table { filter := w' } :=
    h.findUnique_eq {}
  have hupdate : b.update now table { filter := w, data := args.update } =
      b.update now table { filter := w', data := args.update } :=
    h.update_eq { data := args.update }
  simp only [Backend.upsert, hinsertion, hsearch, hupdate]

/-- **Operations that know all verbs do the same with both forms**, on every backend. -/
theorem session_eq (h : w.ShortensTo w') {task : Task} (htask : task.dispatch = .full) :
    (task.withFilter w).session b now table = (task.withFilter w').session b now table := by
  cases task with
  | findMany args =>
    have hsearch := h.sendFiltered_eq (b := b) .findMany (Backend.findManyQuery table args)
    exact congrArg (fun p => Task.Result.records <$>
      (p >>= fun a => Session.normalizeAll a.records)) hsearch
  | findUnique args => exact congrArg (Task.Result.found <$> ·) (h.findUnique_eq args)
  | findFirst args =>
    have hsearch := h.sendFiltered_eq (b := b) .findFirst (Backend.findFirstQuery table args)
    exact congrArg (fun p => Task.Result.found <$> Session.orNone .findFirst table p) hsearch
  | groupBy args =>
    have hsearch := h.sendFiltered_eq (b := b) .groupBy
      ((Query.ofTable table).select args.columnList)
    exact congrArg (fun p => Task.Result.records <$>
      (p >>= fun a => pure a.records)) hsearch
  | aggregate args =>
    simp only [Task.withFilter, Task.session, Backend.aggregate, h.sendFiltered_eq]
    rfl
  | create args => rfl
  | createMany args => rfl
  | update args => exact congrArg (Task.Result.written <$> ·) (h.update_eq args)
  | delete args =>
    simp only [Task.withFilter, Task.session, Backend.delete, h.sendFiltered_eq]
  | upsert args => exact congrArg (Task.Result.written <$> ·) (h.upsert_eq args)
  | count args => cases htask
  | updateMany args => cases htask
  | deleteMany args => cases htask

end Where.ShortensTo

/-! ## Operations that know few verbs -/

/-- The verb `equals` as a part of the value: the object with it, which has no verb. -/
def Constraint.spelledOut : Constraint → Constraint
  | equals v => whole (verbObject .equals v)
  | c => c

namespace Where

/-- The same at the top of a clause. -/
def spelledOut (w : Where) : Where :=
  { w with fields := w.fields.map fun f => (f.1, f.2.spelledOut) }

/-- Where `equals` is not known, the object is asked for anyway. -/
theorem calls_spelledOut (w : Where) {d : Dispatch} (hd : d ≠ .full) :
    w.calls d = w.spelledOut.calls d := by
  have hvoid (c : Constraint) : c.spelledOut.isVoid = c.isVoid := by
    cases c <;> rfl
  have hcall (column : String) (c : Constraint) :
      fieldCall d column c.spelledOut = fieldCall d column c := by
    cases c with
    | equals v =>
      have hlong : fieldCall d column (.equals v) =
          .compare .eq column (Constraint.verbObject .equals v) := by
        rw [fieldCall, Dispatch.supports_equals hd]
        rfl
      rw [hlong]
      rfl
    | _ => rfl
  have hfields : w.fieldCalls d = w.spelledOut.fieldCalls d := by
    simp only [fieldCalls, spelledOut, List.filter_map, List.map_map, Function.comp_def, hvoid,
      hcall]
  rw [calls, calls, hfields]
  rfl

theorem endsLike_sendFiltered_spelledOut {σ : Type} (b : Backend σ) (op : Operation)
    {d : Dispatch} (hd : d ≠ .full) (w : Where) (q : Query) :
    (Session.sendFiltered b op d w q).EndsLike
      (Session.sendFiltered b op d w.spelledOut q) := by
  have hquery : q.restrict d w = q.restrict d w.spelledOut := by
    rw [Query.restrict_eq, Query.restrict_eq, calls_spelledOut w hd]
  have hsend := Session.endsLike_sendFiltered b op d w q
  rw [hquery] at hsend
  exact hsend.trans (Session.endsLike_sendFiltered b op d w.spelledOut q).symm

end Where

/-- **Operations that know few verbs ask for the object with the verb.**  They end as with
this object in the filter, and leave the same; they only report the unknown verb. -/
theorem Task.endsLike_spelledOut {task : Task} (htask : task.dispatch ≠ .full) (w : Where)
    {σ : Type} (b : Backend σ) (now : Instant) (table : String) :
    ((task.withFilter w).session b now table).EndsLike
      ((task.withFilter w.spelledOut).session b now table) := by
  cases task with
  | count args =>
    exact ((w.endsLike_sendFiltered_spelledOut b .count (by decide) _).bind _).map _
  | updateMany args =>
    exact ((w.endsLike_sendFiltered_spelledOut b .updateMany (by decide) _).bind _).map _
  | deleteMany args =>
    exact ((w.endsLike_sendFiltered_spelledOut b .deleteMany (by decide) _).bind _).map _
  | _ => exact absurd rfl htask

namespace Task

/-- **The verb `equals` is the long form of a value where all verbs are known.**  A
descriptor can always be written without it.  Then the operations that know all verbs are
the same, on every backend.  The others end as if the filter had the object with the verb
instead, which no row has that has the value. -/
theorem equals_long_form :
    (∀ (j : Json) (w : Where), Where.ofJson j = .ok w →
      ∃ w', Where.ofJson j.shortened = .ok w' ∧ w.ShortensTo w') ∧
    ∀ w w' : Where, w.ShortensTo w' →
      (∀ (σ : Type) (b : Backend σ) (now : Instant) (table : String) (task : Task),
        task.dispatch = .full →
        (task.withFilter w).session b now table = (task.withFilter w').session b now table) ∧
      (∀ (σ : Type) (b : Backend σ) (now : Instant) (table : String) (task : Task),
        task.dispatch ≠ .full →
        ((task.withFilter w).session b now table).EndsLike
          ((task.withFilter w.spelledOut).session b now table)) ∧
      (w' ≠ w → ∀ d, d ≠ .full → ∀ row, w.admits d row = true → w'.admits d row = false) := by
  refine ⟨fun j w h => Where.ofJson_shortened h, fun w w' h => ⟨?_, ?_, ?_⟩⟩
  · intro σ b now table task htask
    exact h.session_eq htask
  · intro σ b now table task htask
    exact endsLike_spelledOut htask w b now table
  · intro hne d hd row hrow
    exact h.not_admits hne hd hrow

/-- The two forms of one equality: a deletion is the same with both, and a count with the
long form is the count with the object. -/
theorem equals_long_form_of_kind :
    let j : Json := .object [("kind", .object [("equals", .text "a")])]
    let w : Where := { fields := [("kind", .equals (.text "a"))] }
    let w' : Where := { fields := [("kind", .literal (.text "a"))] }
    let object : Where := { fields := [("kind", .whole (.object [("equals", .text "a")]))] }
    let now : Instant := ⟨0, 0⟩
    Where.ofJson j = .ok w ∧ (∃ v, Where.ofJson j.shortened = .ok v ∧ w.ShortensTo v) ∧
      w.ShortensTo w' ∧ w' ≠ w ∧
      (delete { filter := w }).session Store.backend now "items" =
        (delete { filter := w' }).session Store.backend now "items" ∧
      ((count { filter := w }).session Store.backend now "items").EndsLike
        ((count { filter := object }).session Store.backend now "items") ∧
      ∀ row, w.admits .bulk row = true → w'.admits .bulk row = false := by
  intro j w w' object now
  have hread : Where.ofJson j = .ok w := rfl
  have hshort : w.ShortensTo w' := ⟨rfl, .cons ⟨rfl, .bare rfl rfl⟩ .nil⟩
  have hne : w' ≠ w := by
    simp [w, w']
  obtain ⟨hdescriptor, hclause⟩ := equals_long_form
  obtain ⟨hfull, hfew, hrows⟩ := hclause w w' hshort
  exact ⟨hread, hdescriptor j w hread, hshort, hne,
    hfull Store Store.backend now "items" (delete {}) rfl,
    hfew Store Store.backend now "items" (count {}) (by decide),
    hrows hne .bulk (by decide)⟩

/-- A count knows no `equals`: it counts no row with the value, and one without the verb. -/
theorem count_equals_ne_literal :
    let s : Store :=
      { tables := [("items", [[("id", .text "1"), ("kind", .text "a")]])]
        ids := fun _ => "new" }
    let w : Where := { fields := [("kind", .equals (.text "a"))] }
    let w' : Where := { fields := [("kind", .literal (.text "a"))] }
    ((Store.backend.count "items" { filter := w }).run s).result = .ok 0 ∧
      ((Store.backend.count "items" { filter := w' }).run s).result = .ok 1 := by
  intro s w w'
  obtain ⟨_, hlong⟩ :=
    Backend.ends_count (s := s) { filter := w } (List.not_mem_nil (a := "items"))
  obtain ⟨_, hshort⟩ :=
    Backend.ends_count (s := s) { filter := w' } (List.not_mem_nil (a := "items"))
  have hnone : (s.rows "items").countP (w.admits .count) = 0 := rfl
  have hone : (s.rows "items").countP (w'.admits .count) = 1 := rfl
  rw [hnone] at hlong
  rw [hone] at hshort
  exact ⟨hlong.result_eq, hshort.result_eq⟩

end Task

end TabularQuery
