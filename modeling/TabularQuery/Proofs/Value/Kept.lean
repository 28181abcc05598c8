import TabularQuery.Proofs.Json.Printing
import TabularQuery.Proofs.Value.Wire

/-!
# What of a JSON value its column value keeps

A column value has no integers beyond 64 signed bits and no order of the members of an
object but that of their names.  A JSON value that needs neither is the JSON value of its
column value, at every depth, and no other is; since JSON texts differ where the values do,
these are also the values whose text the column value keeps.

## Main definitions

* `Json.Kept` — the JSON values that a column value keeps.
* `Value.toJson_ofJson_iff` — they are the JSON values of their column values.
* `Value.compact_ofJson_iff` — only they have the text of them.
-/

namespace TabularQuery

namespace Json

mutual

/-- A JSON value that a column value keeps: the integers have 64 signed bits, and the members
of every object are in the order of their names, each once. -/
def Kept : Json → Prop
  | number (.integer i) => JsonNumber.fitsSigned i = true
  | array items => KeptItems items
  | object members => Fields.Ordered members ∧ KeptMembers members
  | _ => True

/-- Items of this kind. -/
def KeptItems : List Json → Prop
  | [] => True
  | v :: rest => Kept v ∧ KeptItems rest

/-- Members of this kind. -/
def KeptMembers : List (String × Json) → Prop
  | [] => True
  | (_, v) :: rest => Kept v ∧ KeptMembers rest

end

end Json

namespace Value

theorem ordered_toJsonFields {fields : List (String × Value)} :
    Fields.Ordered (toJsonFields fields) ↔ Fields.Ordered fields := by
  rw [toJsonFields_eq_map]
  exact List.pairwise_map

theorem ordered_ofJsonMembers {members : List (String × Json)} :
    Fields.Ordered (ofJsonMembers members) ↔ Fields.Ordered members := by
  rw [ofJsonMembers_eq_map]
  exact List.pairwise_map

mutual

/-- **The JSON value of a column value is the one that it was read from, if that is kept**,
and only then. -/
theorem toJson_ofJson_iff : ∀ {v : Json}, v.InRange → ((ofJson v).toJson = v ↔ v.Kept)
  | .null, _ => iff_of_true rfl trivial
  | .bool _, _ => iff_of_true rfl trivial
  | .number (.integer i), _ => by
    rw [ofJson, ofNumber, Json.Kept]
    split
    · rename_i hi
      exact iff_of_true rfl hi
    · rename_i hi
      refine iff_of_false ?_ hi
      rw [toJson, Json.ofBinary64]
      split <;> exact nofun
  | .number (.real (.finite ..)), _ => iff_of_true rfl trivial
  | .text _, _ => iff_of_true rfl trivial
  | .array items, h => by
    rw [ofJson, toJson, Json.Kept, Json.array.injEq, toJsonItems_ofJsonItems_iff h]
  | .object members, h => by
    rw [ofJson, toJson, Json.Kept, Json.object.injEq, ← toJsonFields_ofJsonMembers_iff h]
    constructor
    · intro heq
      have hordered : Fields.Ordered members := by
        rw [← heq, ordered_toJsonFields]
        exact Fields.ordered_sorted _
      rw [(ordered_ofJsonMembers.2 hordered).sorted_eq] at heq
      exact ⟨hordered, heq⟩
    · rintro ⟨hordered, heq⟩
      rw [(ordered_ofJsonMembers.2 hordered).sorted_eq, heq]

/-- The same of items. -/
theorem toJsonItems_ofJsonItems_iff :
    ∀ {items : List Json}, Json.InRangeItems items →
      (toJsonItems (ofJsonItems items) = items ↔ Json.KeptItems items)
  | [], _ => iff_of_true rfl trivial
  | v :: rest, h => by
    rw [ofJsonItems, toJsonItems, Json.KeptItems, List.cons.injEq, toJson_ofJson_iff h.1,
      toJsonItems_ofJsonItems_iff h.2]

/-- The same of members. -/
theorem toJsonFields_ofJsonMembers_iff :
    ∀ {members : List (String × Json)}, Json.InRangeMembers members →
      (toJsonFields (ofJsonMembers members) = members ↔ Json.KeptMembers members)
  | [], _ => iff_of_true rfl trivial
  | (k, v) :: rest, h => by
    rw [ofJsonMembers, toJsonFields, Json.KeptMembers, List.cons.injEq, Prod.mk.injEq,
      eq_self, true_and, toJson_ofJson_iff h.1, toJsonFields_ofJsonMembers_iff h.2]

end

mutual

/-- The JSON value of a column value that was read has numbers of JSON, too. -/
theorem inRange_toJson_ofJson : ∀ {v : Json}, v.InRange → (ofJson v).toJson.InRange
  | .null, _ => trivial
  | .bool _, _ => trivial
  | .number (.integer i), h => by
    rw [ofJson, ofNumber]
    split
    · rename_i hi
      exact .inl hi
    · rw [toJson, Json.ofBinary64]
      split
      · exact Binary64.proper_ofInt h.natAbs_lt
      · trivial
  | .number (.real (.finite ..)), h => h
  | .text _, _ => trivial
  | .array items, h => inRange_toJsonItems_ofJsonItems h
  | .object members, h => by
    rw [ofJson, toJson, Json.InRange, toJsonFields_eq_map, Json.inRangeMembers_iff,
      List.forall_mem_map]
    intro f hf
    exact inRange_of_mem_ofJsonMembers h f (Fields.mem_of_mem_sorted hf)

/-- The same of items. -/
theorem inRange_toJsonItems_ofJsonItems :
    ∀ {items : List Json}, Json.InRangeItems items →
      Json.InRangeItems (toJsonItems (ofJsonItems items))
  | [], _ => trivial
  | _ :: _, h => ⟨inRange_toJson_ofJson h.1, inRange_toJsonItems_ofJsonItems h.2⟩

/-- The same of members. -/
theorem inRange_of_mem_ofJsonMembers :
    ∀ {members : List (String × Json)}, Json.InRangeMembers members →
      ∀ f ∈ ofJsonMembers members, f.2.toJson.InRange
  | [], _ => by simp [ofJsonMembers]
  | (_, _) :: _, h => by
    rw [ofJsonMembers, List.forall_mem_cons]
    exact ⟨inRange_toJson_ofJson h.1, inRange_of_mem_ofJsonMembers h.2⟩

end

/-- **The text of a JSON value is that of its column value, if it is kept**, and only then. -/
theorem compact_ofJson_iff {v : Json} (h : v.InRange) :
    (ofJson v).toJson.compact = v.compact ↔ v.Kept := by
  rw [← toJson_ofJson_iff h]
  exact ⟨Json.compact_injective (inRange_toJson_ofJson h) h, congrArg Json.compact⟩

end Value

end TabularQuery
