import TabularQuery.Proofs.Filter.Meaning
import TabularQuery.Proofs.Value.Rewritten

/-!
# The descriptor form of a constraint

An operation that does not know the verb of a constraint compares the column with the
descriptor form of the constraint.  Read as a descriptor again, the form of a constraint that
was read is that constraint: of several verbs only the one that counts is left, a text stands
in the place of an operand that is searched for, and values are as they are after one
reading.  So a form is read without a complaint, and reading it changes nothing any more.

## Main definitions

* `Value.Settled`, `Constraint.Settled` — values and constraints that a second reading keeps.
* `Constraint.ofJson_toValue_iff` — just these are read from their own forms.
* `Constraint.settled_of_ofJson` — every constraint that was read is of this kind.
* `Constraint.form_is_read_back` — the form of a constraint that was read.
-/

namespace TabularQuery

namespace Value

/-- A value that is read from its JSON form as it is. -/
def Settled (v : Value) : Prop :=
  ofJson v.toJson = v

/-- A value that was read is read as it is from then on. -/
theorem settled_ofJson {v : Json} (h : v.InRange) : (ofJson v).Settled := by
  rw [Settled, ofJson_toJson (wellFormed_ofJson v), wire_ofJson h]

theorem map_ofJson_toJsonItems {vs : List Value} :
    (toJsonItems vs).map ofJson = vs ↔ ∀ v ∈ vs, v.Settled := by
  rw [toJsonItems_eq_map]
  induction vs with
  | nil => simp
  | cons v rest ih =>
    rw [List.map_cons, List.map_cons, List.cons.injEq, ih, List.forall_mem_cons, Settled]

/-- A list is settled if its items are. -/
theorem settled_array_iff {vs : List Value} :
    (array vs).Settled ↔ ∀ v ∈ vs, v.Settled := by
  rw [Settled, toJson, ofJson_array, array.injEq, map_ofJson_toJsonItems]

/-- A value is an object if its JSON form is one. -/
theorem toJson_eq_object_iff {v : Value} {members : List (String × Json)} :
    v.toJson = .object members ↔
      ∃ fields, v = .object fields ∧ toJsonFields fields = members := by
  cases v with
  | float x =>
    rw [toJson, Json.ofBinary64]
    split <;> simp
  | _ => simp [toJson]

end Value

namespace Constraint

/-! ## The verbs of a form -/

theorem verbsIn_eq_nil_iff {members : List (String × Json)} :
    verbsIn members = [] ↔ ∀ verb : Verb, Fields.has verb.name members = false := by
  rw [verbsIn, List.filter_eq_nil_iff]
  constructor
  · intro h verb
    have hverb : verb ∈ Verb.all := by cases verb <;> decide
    exact Bool.eq_false_iff.2 (h verb hverb)
  · intro h verb _
    rw [h verb]
    exact Bool.false_ne_true

/-- The form of a constraint with a verb has this verb and no other. -/
theorem verbsIn_singleton (verb : Verb) (operand : Json) :
    verbsIn [(verb.name, operand)] = [verb] := by
  cases verb <;> rfl

theorem ofJson_verbObject (column : String) (verb : Verb) (operand : Value) :
    ofJson column (verbObject verb operand).toJson = ofVerb column operand.toJson verb := by
  have hoperand : Fields.get? verb.name [(verb.name, operand.toJson)] = some operand.toJson :=
    if_pos rfl
  have hform : (verbObject verb operand).toJson = .object [(verb.name, operand.toJson)] := rfl
  rw [hform, ofJson, verbsIn_singleton]
  simp only [hoperand, Option.getD_some]

/-! ## Settled constraints -/

/-- A constraint whose values are read as they are, where a bare value is no object, and an
object without a verb has none. -/
def Settled : Constraint → Prop
  | literal v => v.Settled ∧ ∀ fields, v ≠ .object fields
  | whole v => v.Settled ∧
      ∃ fields, v = .object fields ∧ ∀ verb : Verb, Fields.has verb.name fields = false
  | among vs | notAmong vs => ∀ v ∈ vs, v.Settled
  | contains _ => True
  | equals v | atLeast v | atMost v | above v | below v | differs v => v.Settled

theorem has_toJsonFields (name : String) (fields : List (String × Value)) :
    Fields.has name (Value.toJsonFields fields) = Fields.has name fields := by
  rw [Fields.has, Fields.has, Value.toJsonFields_eq_map, Fields.get?_map, Option.isSome_map]

/-- A constraint that is read from an object with a verb has this verb. -/
theorem verb?_of_ofVerb {column : String} {operand : Json} {verb : Verb} {c : Constraint}
    (h : ofVerb column operand verb = .ok c) : c.verb? = some verb := by
  cases verb with
  | among | notAmong =>
    obtain ⟨vs, -, rfl⟩ := Except.map_eq_ok_iff.1 h
    rfl
  | _ =>
    obtain rfl := Except.ok.inj h
    rfl

/-- Bare values are read from what is no object. -/
theorem ofJson_eq_literal_iff {column : String} {j : Json} {v : Value} :
    ofJson column j = .ok (literal v) ↔
      Value.ofJson j = v ∧ ∀ members, j ≠ .object members := by
  cases j with
  | object members =>
    rw [ofJson]
    split
    · simp
    · refine iff_of_false (fun h => ?_) (fun h => h.2 members rfl)
      cases verb?_of_ofVerb h
  | _ => simp [ofJson]

/-- Whole objects are read from objects without a verb. -/
theorem ofJson_eq_whole_iff {column : String} {j : Json} {v : Value} :
    ofJson column j = .ok (whole v) ↔
      Value.ofJson j = v ∧ ∃ members, j = .object members ∧ verbsIn members = [] := by
  cases j with
  | object members =>
    rw [ofJson]
    split
    · rename_i hnone
      simp [hnone]
    · rename_i verb more hsome
      refine iff_of_false (fun h => ?_) ?_
      · cases verb?_of_ofVerb h
      · rintro ⟨-, others, heq, hnone⟩
        obtain rfl := Json.object.inj heq
        rw [hsome] at hnone
        cases hnone
  | _ => simp [ofJson]

/-- **The constraints that are read from their own forms** are the settled ones. -/
theorem ofJson_toValue_iff {column : String} {c : Constraint} :
    ofJson column c.toValue.toJson = .ok c ↔ c.Settled := by
  cases c with
  | literal v =>
    rw [toValue, ofJson_eq_literal_iff, Settled, Value.Settled]
    refine and_congr_right fun _ => ⟨fun h fields hv => ?_, fun h members hv => ?_⟩
    · exact h _ (Value.toJson_eq_object_iff.2 ⟨fields, hv, rfl⟩)
    · obtain ⟨fields, hobject, -⟩ := Value.toJson_eq_object_iff.1 hv
      exact h fields hobject
  | whole v =>
    rw [toValue, ofJson_eq_whole_iff, Settled, Value.Settled]
    refine and_congr_right fun _ => ⟨?_, ?_⟩
    · rintro ⟨members, hv, hnone⟩
      obtain ⟨fields, hobject, rfl⟩ := Value.toJson_eq_object_iff.1 hv
      refine ⟨fields, hobject, fun verb => ?_⟩
      rw [← has_toJsonFields]
      exact verbsIn_eq_nil_iff.1 hnone verb
    · rintro ⟨fields, hv, hnone⟩
      refine ⟨_, Value.toJson_eq_object_iff.2 ⟨fields, hv, rfl⟩, ?_⟩
      refine verbsIn_eq_nil_iff.2 fun verb => ?_
      rw [has_toJsonFields, hnone verb]
  | among vs | notAmong vs =>
    rw [toValue, ofJson_verbObject, Settled, ← Value.map_ofJson_toJsonItems]
    simp [ofVerb, listOperand, Value.toJson, Except.map]
  | contains s =>
    rw [toValue, ofJson_verbObject, Settled]
    simp [ofVerb, Value.toJson, Value.ofJson, Value.plain]
  | _ v =>
    rw [toValue, ofJson_verbObject, Settled, Value.Settled]
    simp [ofVerb]

/-! ## Constraints that were read -/

theorem settled_of_ofVerb {column : String} {operand : Json} {verb : Verb} {c : Constraint}
    (hoperand : operand.InRange) (h : ofVerb column operand verb = .ok c) : c.Settled := by
  have hread : (Value.ofJson operand).Settled := Value.settled_ofJson hoperand
  have hlist {verb : Verb} {vs : List Value}
      (hvs : listOperand column verb operand = .ok vs) : ∀ v ∈ vs, v.Settled := by
    cases operand with
    | array items =>
      obtain rfl := Except.ok.inj hvs
      rwa [Value.ofJson_array, Value.settled_array_iff] at hread
    | _ => simp [listOperand] at hvs
  cases verb with
  | among | notAmong =>
    obtain ⟨vs, hvs, rfl⟩ := Except.map_eq_ok_iff.1 h
    exact hlist hvs
  | contains =>
    obtain rfl := Except.ok.inj h
    trivial
  | _ =>
    obtain rfl := Except.ok.inj h
    exact hread

/-- **Every constraint that was read is settled.** -/
theorem settled_of_ofJson {column : String} {j : Json} {c : Constraint} (hj : j.InRange)
    (h : ofJson column j = .ok c) : c.Settled := by
  cases j with
  | object members =>
    rw [ofJson] at h
    split at h
    · rename_i hnone
      obtain rfl := Except.ok.inj h
      refine ⟨Value.settled_ofJson hj, _, Value.ofJson_object members, fun verb => ?_⟩
      have hverb : Fields.get? verb.name members = none :=
        Option.not_isSome_iff_eq_none.1 (Bool.eq_false_iff.1 (verbsIn_eq_nil_iff.1 hnone verb))
      rw [Fields.has, Fields.sorted, Fields.get?_insertAll_of_none, Fields.get?_nil]
      · rfl
      · rw [Fields.get?_map, hverb, Option.map_none]
    · rename_i verb more hsome
      refine settled_of_ofVerb ?_ h
      cases hoperand : Fields.get? verb.name members with
      | none => trivial
      | some operand => exact Json.inRangeMembers_iff.1 hj _ (Fields.mem_of_get? hoperand)
  | _ =>
    obtain rfl := Except.ok.inj h
    refine ⟨Value.settled_ofJson hj, fun fields hv => ?_⟩
    obtain ⟨members, hmembers⟩ := Value.exists_members_of_ofJson hv
    cases hmembers

/-- A form is read without a complaint. -/
theorem notices_toValue (column : String) {c : Constraint} (h : c.Settled) :
    notices column c.toValue.toJson = [] := by
  have hverb (verb : Verb) (operand : Value) :
      notices column (verbObject verb operand).toJson = [] := by
    have hform : (verbObject verb operand).toJson = .object [(verb.name, operand.toJson)] := rfl
    rw [hform, notices, verbsIn_singleton]
  cases c with
  | literal v =>
    rw [toValue, notices]
    intro members hv
    obtain ⟨fields, hv, -⟩ := Value.toJson_eq_object_iff.1 hv
    exact h.2 fields hv
  | whole v =>
    obtain ⟨-, fields, rfl, hnone⟩ := h
    have hverbs : verbsIn (Value.toJsonFields fields) = [] :=
      verbsIn_eq_nil_iff.2 fun verb => (has_toJsonFields verb.name fields).trans (hnone verb)
    rw [toValue, Value.toJson, notices, hverbs]
  | _ => exact hverb _ _

/-- **The descriptor form of a constraint that was read is read as the same constraint**, and
without a complaint about further verbs.  So an operation that does not know the verb compares
the column with an object that denotes the constraint. -/
theorem form_is_read_back {column : String} {j : Json} {c : Constraint} (hj : j.InRange)
    (h : ofJson column j = .ok c) :
    ofJson column c.toValue.toJson = .ok c ∧ notices column c.toValue.toJson = [] ∧
      ∀ d : Dispatch, d.supports c = false →
        ∃ form, Where.fieldCall d column c = .compare .eq column form ∧
          ofJson column form.toJson = .ok c := by
  have hsettled : c.Settled := settled_of_ofJson hj h
  have hback : ofJson column c.toValue.toJson = .ok c := ofJson_toValue_iff.2 hsettled
  refine ⟨hback, notices_toValue column hsettled, fun d hunknown => ⟨c.toValue, ?_, hback⟩⟩
  rw [Where.fieldCall, hunknown, if_neg Bool.false_ne_true]

/-- Of two verbs and a further key, the verb that counts is left in the form, with the keys of
its operand in order and the greatest unsigned integer as a float.  A bulk write compares the
column with this form. -/
theorem form_is_read_back_of_two_verbs :
    let great : Json := .number (.integer 18446744073709551615)
    let float : Json := .number (.real (.ofInt 18446744073709551615))
    let operand : Json := .object [("b", .array [great]), ("a", .null)]
    let j : Json := .object [("note", .null), ("lt", .number (.integer 5)), ("lte", operand)]
    let c : Constraint := atMost (Value.ofJson operand)
    j.InRange ∧ ofJson "qty" j = .ok c ∧ Dispatch.bulk.supports c = false ∧
      c.toValue.toJson = .object [("lte", .object [("a", .null), ("b", .array [float])])] ∧
      ofJson "qty" c.toValue.toJson = .ok c ∧
      ∃ form, Where.fieldCall .bulk "qty" c = .compare .eq "qty" form ∧
        ofJson "qty" form.toJson = .ok c := by
  intro great float operand j c
  have hj : j.InRange :=
    ⟨trivial, .inl rfl, ⟨⟨.inr rfl, trivial⟩, trivial, trivial⟩, trivial⟩
  have hread : ofJson "qty" j = .ok c := rfl
  obtain ⟨hback, -, hfallback⟩ := form_is_read_back hj hread
  exact ⟨hj, hread, rfl, rfl, hback, hfallback .bulk rfl⟩

end Constraint

end TabularQuery
