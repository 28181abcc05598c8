import TabularQuery.Proofs.Fields
import TabularQuery.Value.Basic

/-!
# The order of keys

Two JSON values may differ in the order of the members of their objects, at any depth.
A column value has its fields in the order of their names, so the two are read as the
same value.  A key stands once in an object.

## Main definitions

* `Json.KeysDistinct` — the objects of a value have every key once.
* `Json.Reordered` — two values that differ in the order of keys.
* `Json.Reordered.ofJson_eq` — they are read as the same value.
-/

namespace TabularQuery

namespace Json

/-- Every object of a value, at every depth, has every key once. -/
def KeysDistinct : Json → Prop
  | array items => ∀ v ∈ items, v.KeysDistinct
  | object members => (Fields.names members).Nodup ∧ ∀ m ∈ members, m.2.KeysDistinct
  | _ => True
termination_by v => sizeOf v
decreasing_by
  · have hv := List.sizeOf_lt_of_mem ‹v ∈ items›
    simp only [array.sizeOf_spec]
    omega
  · have hm := List.sizeOf_lt_of_mem ‹m ∈ members›
    obtain ⟨key, v⟩ := m
    simp only [object.sizeOf_spec, Prod.mk.sizeOf_spec] at hm ⊢
    omega

/-- Two values that differ in the order of the keys of their objects. -/
inductive Reordered : Json → Json → Prop where
  | refl (v : Json) : Reordered v v
  | trans {u v w : Json} : Reordered u v → Reordered v w → Reordered u w
  /-- The members of an object in another order. -/
  | members {ms ns : List (String × Json)} :
      ms.Perm ns → Reordered (object ms) (object ns)
  /-- One member of an object, reordered within itself. -/
  | member {before after : List (String × Json)} {key : String} {v w : Json} :
      Reordered v w →
      Reordered (object (before ++ (key, v) :: after)) (object (before ++ (key, w) :: after))
  /-- One item of a list, reordered within itself. -/
  | item {before after : List Json} {v w : Json} :
      Reordered v w →
      Reordered (array (before ++ v :: after)) (array (before ++ w :: after))

end Json

namespace Value

/-- A number is read as an integer or as a float. -/
theorem ofNumber_cases (n : JsonNumber) :
    (∃ i, ofNumber n = .int i) ∨ ∃ x, ofNumber n = .float x := by
  cases n with
  | integer i =>
    by_cases hfits : JsonNumber.fitsSigned i = true
    · exact .inl ⟨i, if_pos hfits⟩
    · exact .inr ⟨.ofInt i, if_neg hfits⟩
  | real x => exact .inr ⟨x, rfl⟩

theorem ofJson_array (items : List Json) :
    ofJson (.array items) = .array (items.map ofJson) := by
  rw [ofJson, ofJsonItems_eq_map]

theorem ofJson_object (members : List (String × Json)) :
    ofJson (.object members) =
      .object (Fields.sorted (members.map fun m => (m.1, ofJson m.2))) := by
  rw [ofJson, ofJsonMembers_eq_map]

/-- Only an object is read as one. -/
theorem exists_members_of_ofJson {v : Json} {fields : List (String × Value)}
    (h : ofJson v = .object fields) : ∃ members, v = .object members := by
  cases v with
  | object members => exact ⟨members, rfl⟩
  | number n =>
    rw [ofJson] at h
    rcases ofNumber_cases n with ⟨i, hi⟩ | ⟨x, hx⟩ <;> simp_all
  | _ => simp [ofJson] at h

/-- Objects that are read as the same value have the same values under every key. -/
theorem get?_ofJson_eq {ms ns : List (String × Json)} (hm : (Fields.names ms).Nodup)
    (hn : (Fields.names ns).Nodup) (h : ofJson (.object ms) = ofJson (.object ns))
    (key : String) :
    (Fields.get? key ms).map ofJson = (Fields.get? key ns).map ofJson := by
  rw [ofJson_object, ofJson_object] at h
  have hsorted := congrArg (Fields.get? key) (Value.object.inj h)
  rwa [Fields.get?_sorted (by rwa [Fields.names_map]),
    Fields.get?_sorted (by rwa [Fields.names_map]),
    Fields.get?_map, Fields.get?_map] at hsorted

end Value

namespace Json

theorem keysDistinct_array {items : List Json} :
    (array items).KeysDistinct ↔ ∀ v ∈ items, v.KeysDistinct := by
  rw [KeysDistinct]

theorem keysDistinct_object {members : List (String × Json)} :
    (object members).KeysDistinct ↔
      (Fields.names members).Nodup ∧ ∀ m ∈ members, m.2.KeysDistinct := by
  rw [KeysDistinct]

/-- **The order of keys does not count**: values that differ in it are read as the same
column value, and keys that stand once in the first do so in the second. -/
theorem Reordered.ofJson_eq {v w : Json} (h : v.Reordered w) (hd : v.KeysDistinct) :
    w.KeysDistinct ∧ Value.ofJson v = Value.ofJson w := by
  induction h with
  | refl v => exact ⟨hd, rfl⟩
  | trans _ _ ih₁ ih₂ =>
    obtain ⟨hd₁, h₁⟩ := ih₁ hd
    obtain ⟨hd₂, h₂⟩ := ih₂ hd₁
    exact ⟨hd₂, h₁.trans h₂⟩
  | @members ms ns hperm =>
    obtain ⟨hnames, hvalues⟩ := keysDistinct_object.1 hd
    have hnames' : (Fields.names ns).Nodup := (hperm.map Prod.fst).nodup_iff.1 hnames
    refine ⟨keysDistinct_object.2 ⟨hnames', fun m hm => hvalues m (hperm.mem_iff.2 hm)⟩, ?_⟩
    rw [Value.ofJson_object, Value.ofJson_object]
    congr 1
    refine Fields.sorted_eq_of_get?_eq (by rwa [Fields.names_map])
      (by rwa [Fields.names_map]) fun key => ?_
    rw [Fields.get?_map, Fields.get?_map, Fields.get?_perm hperm hnames]
  | @member before after key v w _ ih =>
    obtain ⟨hnames, hvalues⟩ := keysDistinct_object.1 hd
    obtain ⟨hw, hvw⟩ := ih (hvalues (key, v) (by simp))
    refine ⟨keysDistinct_object.2 ⟨by simpa [Fields.names] using hnames, fun m hm => ?_⟩, ?_⟩
    · rcases List.mem_append.1 hm with hb | ha
      · exact hvalues m (List.mem_append_left _ hb)
      · rcases List.mem_cons.1 ha with rfl | ha
        · exact hw
        · exact hvalues m (by simp [ha])
    · simp only [Value.ofJson_object, List.map_append, List.map_cons, hvw]
  | @item before after v w _ ih =>
    have hitems := keysDistinct_array.1 hd
    obtain ⟨hw, hvw⟩ := ih (hitems v (by simp))
    refine ⟨keysDistinct_array.2 fun u hu => ?_, ?_⟩
    · rcases List.mem_append.1 hu with hb | ha
      · exact hitems u (List.mem_append_left _ hb)
      · rcases List.mem_cons.1 ha with rfl | ha
        · exact hw
        · exact hitems u (by simp [ha])
    · simp only [Value.ofJson_array, List.map_append, List.map_cons, hvw]

end Json

end TabularQuery
