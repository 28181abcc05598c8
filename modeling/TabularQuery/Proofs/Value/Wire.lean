import TabularQuery.Proofs.Json.KeyOrder
import TabularQuery.Proofs.Time.Text
import TabularQuery.Value.Record

/-!
# What becomes of a value on the way to the service and back

JSON has neither instants nor floats that are no numbers.  A value that is sent and comes
back has texts and nulls in their places, at every depth, and is as it was elsewhere.  In a
record that comes back, the text of a temporal column that denotes an instant is this
instant.

## Main definitions

* `Value.WellFormed` — integers of 64 bits, and fields in order.
* `Value.wire`, `Value.ofJson_toJson` — a value that comes back.
* `Value.dated`, `Value.readBack` — a column of a record that comes back.
* `Record.get?_normalize` — every column of it.
* `Value.readBack_wire_timestamp` — an instant that comes back in a temporal column.
-/

namespace TabularQuery

namespace Value

/-! ## Well-formed values -/

mutual

/-- A value of the kinds of a column: the integers have 64 signed bits, and the fields of an
object stand in the order of their names, each once. -/
def WellFormed : Value → Prop
  | int i => JsonNumber.fitsSigned i = true
  | array items => WellFormedItems items
  | object fields => Fields.Ordered fields ∧ WellFormedFields fields
  | _ => True

/-- Items of these kinds. -/
def WellFormedItems : List Value → Prop
  | [] => True
  | v :: rest => WellFormed v ∧ WellFormedItems rest

/-- Fields of these kinds. -/
def WellFormedFields : List (String × Value) → Prop
  | [] => True
  | (_, v) :: rest => WellFormed v ∧ WellFormedFields rest

end

theorem wellFormedFields_iff {fields : List (String × Value)} :
    WellFormedFields fields ↔ ∀ f ∈ fields, f.2.WellFormed := by
  induction fields with
  | nil => simp [WellFormedFields]
  | cons f rest ih => rw [WellFormedFields, ih, List.forall_mem_cons]

theorem wellFormed_of_get? {fields : List (String × Value)} {name : String} {v : Value}
    (h : WellFormedFields fields) (hv : Fields.get? name fields = some v) : v.WellFormed :=
  wellFormedFields_iff.1 h _ (Fields.mem_of_get? hv)

/-! ## Values that come back -/

mutual

/-- The value that comes back for one that is sent: the text of an instant, null for a float
that is no number, at every depth. -/
def wire : Value → Value
  | float x => if x.isFinite then .float x else .null
  | timestamp t => .text (String.ofList t.text)
  | array items => .array (wireItems items)
  | object fields => .object (wireFields fields)
  | v => v

/-- The items that come back. -/
def wireItems : List Value → List Value
  | [] => []
  | v :: rest => wire v :: wireItems rest

/-- The fields that come back, under their names. -/
def wireFields : List (String × Value) → List (String × Value)
  | [] => []
  | (k, v) :: rest => (k, wire v) :: wireFields rest

end

theorem wireFields_eq_map (fields : List (String × Value)) :
    wireFields fields = fields.map fun f => (f.1, f.2.wire) := by
  induction fields with
  | nil => rfl
  | cons f rest ih => obtain ⟨k, v⟩ := f; simp [wireFields, ih]

theorem ordered_wireFields {fields : List (String × Value)} (h : Fields.Ordered fields) :
    Fields.Ordered (wireFields fields) := by
  rw [wireFields_eq_map]
  exact List.pairwise_map.2 h

mutual

/-- **A value that is sent comes back as it is**, but for instants and floats that are no
numbers. -/
theorem ofJson_toJson : ∀ {v : Value}, v.WellFormed → ofJson v.toJson = v.wire
  | null, _ => rfl
  | bool _, _ => rfl
  | int i, h => if_pos h
  | float x, _ => by
    rw [toJson, Json.ofBinary64, wire]
    split <;> rfl
  | text _, _ => rfl
  | timestamp _, _ => rfl
  | array items, h => by
    rw [toJson, ofJson, wire, ofJsonItems_toJsonItems h]
  | object fields, h => by
    obtain ⟨hordered, hfields⟩ := h
    rw [toJson, ofJson, wire, ofJsonMembers_toJsonFields hfields,
      (ordered_wireFields hordered).sorted_eq]

theorem ofJsonItems_toJsonItems :
    ∀ {items : List Value}, WellFormedItems items →
      ofJsonItems (toJsonItems items) = wireItems items
  | [], _ => rfl
  | v :: rest, h => by
    rw [toJsonItems, ofJsonItems, wireItems, ofJson_toJson h.1, ofJsonItems_toJsonItems h.2]

theorem ofJsonMembers_toJsonFields :
    ∀ {fields : List (String × Value)}, WellFormedFields fields →
      ofJsonMembers (toJsonFields fields) = wireFields fields
  | [], _ => rfl
  | (k, v) :: rest, h => by
    rw [toJsonFields, ofJsonMembers, wireFields, ofJson_toJson h.1,
      ofJsonMembers_toJsonFields h.2]

end

/-! ## Temporal columns -/

/-- The value of a temporal column that comes back: a text that denotes an instant is this
instant. -/
def dated : Value → Value
  | text s =>
    match Instant.read? s.toList with
    | some t => timestamp t
    | none => text s
  | v => v

theorem dated_dated (v : Value) : v.dated.dated = v.dated := by
  cases v with
  | text s =>
    cases h : Instant.read? s.toList with
    | some t => simp only [dated, h]
    | none => simp only [dated, h]
  | _ => rfl

/-- The value of a column of a record that comes back. -/
def readBack (column : String) (v : Value) : Value :=
  if column ∈ Record.temporalColumns then v.dated else v

/-- A value that is no text is read back as it is. -/
theorem readBack_of_asText?_eq_none {v : Value} (h : v.asText? = none) (column : String) :
    v.readBack column = v := by
  rw [readBack]
  split
  · cases v with
    | text s => cases h
    | _ => rfl
  · rfl

/-- A regular instant comes back in a temporal column, cut down to milliseconds. -/
theorem readBack_wire_timestamp {column : String} {t : Instant}
    (hcolumn : column ∈ Record.temporalColumns) (ht : t.Regular) :
    readBack column (timestamp t).wire = timestamp t.toMillis := by
  simp only [wire, readBack, if_pos hcolumn, dated, String.toList_ofList, Instant.read?_text ht]

end Value

namespace Record

variable {r : Record} {column : String}

/-- One column is turned into an instant, if it is one, and the others stay. -/
theorem get?_normalizeColumn (r : Record) (column other : String) :
    Fields.get? other (normalizeColumn r column) =
      if other = column then (Fields.get? other r).map Value.dated else Fields.get? other r := by
  by_cases hother : other = column
  · subst hother
    rw [if_pos rfl, normalizeColumn]
    split
    · rename_i s hs
      cases hread : Instant.read? s.toList with
      | some t => simp only [Fields.get?_insert, if_true, hs, Option.map_some, Value.dated, hread]
      | none => simp only [hs, Option.map_some, Value.dated, hread]
    · rename_i hnone
      cases hv : Fields.get? other r with
      | none => rfl
      | some v =>
        cases v with
        | text s => exact absurd hv (hnone s)
        | _ => rfl
  · rw [if_neg hother, normalizeColumn]
    split
    · split
      · rw [Fields.get?_insert, if_neg hother]
      · rfl
    · rfl

/-- Several columns are turned into instants one after the other. -/
theorem get?_normalizeColumns (columns : List String) (r : Record) (column : String) :
    Fields.get? column (columns.foldl normalizeColumn r) =
      if column ∈ columns then (Fields.get? column r).map Value.dated
      else Fields.get? column r := by
  induction columns generalizing r with
  | nil => rw [if_neg List.not_mem_nil, List.foldl_nil]
  | cons first rest ih =>
    rw [List.foldl_cons, ih, get?_normalizeColumn]
    by_cases hfirst : column = first
    · simp [hfirst, Function.comp_def, Value.dated_dated]
    · simp [hfirst]

/-- **Every column of a record that comes back is read back.** -/
theorem get?_normalize (r : Record) (column : String) :
    Fields.get? column r.normalize = (Fields.get? column r).map (Value.readBack column) := by
  rw [normalize, get?_normalizeColumns]
  split
  · rename_i h
    exact congrFun (congrArg Option.map (funext fun v => (if_pos h).symm)) _
  · rename_i h
    have hsame : Value.readBack column = id := funext fun v => if_neg h
    rw [hsame, Option.map_id_fun, id]

theorem ordered_normalizeColumn (h : Fields.Ordered r) (column : String) :
    Fields.Ordered (normalizeColumn r column) := by
  rw [normalizeColumn]
  split
  · split
    · exact h.insert column _
    · exact h
  · exact h

/-- Its columns stay in order. -/
theorem ordered_normalize (h : Fields.Ordered r) : Fields.Ordered r.normalize := by
  have hfold (columns : List String) {r : Record} (hr : Fields.Ordered r) :
      Fields.Ordered (columns.foldl normalizeColumn r) := by
    induction columns generalizing r with
    | nil => exact hr
    | cons first rest ih => exact ih (ordered_normalizeColumn hr first)
  exact hfold temporalColumns h

end Record

end TabularQuery
