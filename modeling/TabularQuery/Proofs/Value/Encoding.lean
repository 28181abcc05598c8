import TabularQuery.Proofs.Value.Rewritten

/-!
# The two encodings of a value

A value is encoded in two ways: as a JSON value, which is sent, and straight as a JSON text,
which is shown.  The text is that of the JSON value.  Read again, a value has lost what JSON
cannot hold and nothing else: an instant has become its text, and a float that is not finite
null, at every depth.  So a value without them comes back as it is, no other value does, and
what came back once comes back as it is from then on.

## Main definitions

* `Value.Portable` — values with neither instants nor floats that are not finite.
* `Value.written_eq_compact` — the text of a value is that of its JSON value.
* `Value.wire_eq_self_iff` — which values come back as they are.
* `Value.encodings_agree` — the two encodings and the value that is read again.
-/

namespace TabularQuery.Value

/-! ## The text of a value -/

theorem json_eq_compact (x : Binary64) : x.json = (Json.ofBinary64 x).compact := by
  cases x <;> rfl

mutual

/-- **The text of a value is that of its JSON value.** -/
theorem written_eq_compact : ∀ v : Value, v.written = v.toJson.compact
  | null => rfl
  | bool b => by cases b <;> rfl
  | int _ => rfl
  | float x => json_eq_compact x
  | text _ => rfl
  | timestamp _ => rfl
  | array [] => rfl
  | array (v :: rest) => by
    have hfirst := written_eq_compact v
    have hrest := writtenItems_eq_compactItems rest
    simp [written, writtenItems, toJson, toJsonItems, Json.compact, hfirst, hrest]
  | object [] => rfl
  | object ((k, v) :: rest) => by
    have hfirst := written_eq_compact v
    have hrest := writtenFields_eq_compactMembers rest
    simp [written, writtenFields, toJson, toJsonFields, Json.compact, hfirst, hrest]

/-- The same of the items after the first. -/
theorem writtenItems_eq_compactItems : ∀ items : List Value,
    writtenItems false items ++ [']'] = Json.compactItems (toJsonItems items)
  | [] => rfl
  | v :: rest => by
    have hfirst := written_eq_compact v
    have hrest := writtenItems_eq_compactItems rest
    simp [writtenItems, toJsonItems, Json.compactItems, hfirst, hrest]

/-- The same of the fields after the first. -/
theorem writtenFields_eq_compactMembers : ∀ fields : List (String × Value),
    writtenFields false fields ++ ['\x7d'] = Json.compactMembers (toJsonFields fields)
  | [] => rfl
  | (k, v) :: rest => by
    have hfirst := written_eq_compact v
    have hrest := writtenFields_eq_compactMembers rest
    simp [writtenFields, toJsonFields, Json.compactMembers, hfirst, hrest]

end

/-! ## Values that come back as they are -/

mutual

/-- A value that JSON can hold: no instant and no float that is not finite, at any depth. -/
def Portable : Value → Prop
  | float x => x.isFinite = true
  | timestamp _ => False
  | array items => PortableItems items
  | object fields => PortableFields fields
  | _ => True

/-- Items of this kind. -/
def PortableItems : List Value → Prop
  | [] => True
  | v :: rest => Portable v ∧ PortableItems rest

/-- Fields of this kind. -/
def PortableFields : List (String × Value) → Prop
  | [] => True
  | (_, v) :: rest => Portable v ∧ PortableFields rest

end

mutual

/-- What comes back is a value that JSON can hold. -/
theorem portable_wire : ∀ v : Value, v.wire.Portable
  | null => trivial
  | bool _ => trivial
  | int _ => trivial
  | float x => by
    rw [wire]
    split
    · assumption
    · trivial
  | text _ => trivial
  | timestamp _ => trivial
  | array items => portableItems_wireItems items
  | object fields => portableFields_wireFields fields

theorem portableItems_wireItems : ∀ items : List Value, PortableItems (wireItems items)
  | [] => trivial
  | v :: rest => ⟨portable_wire v, portableItems_wireItems rest⟩

theorem portableFields_wireFields : ∀ fields : List (String × Value),
    PortableFields (wireFields fields)
  | [] => trivial
  | (_, v) :: rest => ⟨portable_wire v, portableFields_wireFields rest⟩

end

mutual

/-- **The values that JSON can hold come back as they are**, and no others do. -/
theorem wire_eq_self_iff : ∀ v : Value, v.wire = v ↔ v.Portable
  | null => iff_of_true rfl trivial
  | bool _ => iff_of_true rfl trivial
  | int _ => iff_of_true rfl trivial
  | float x => by
    rw [wire, Portable]
    by_cases hfinite : x.isFinite = true
    · simp [hfinite]
    · simp [hfinite]
  | text _ => iff_of_true rfl trivial
  | timestamp _ => iff_of_false nofun id
  | array items => by
    rw [wire, Portable, array.injEq, wireItems_eq_self_iff items]
  | object fields => by
    rw [wire, Portable, object.injEq, wireFields_eq_self_iff fields]

theorem wireItems_eq_self_iff : ∀ items : List Value,
    wireItems items = items ↔ PortableItems items
  | [] => iff_of_true rfl trivial
  | v :: rest => by
    rw [wireItems, PortableItems, List.cons.injEq, wire_eq_self_iff v,
      wireItems_eq_self_iff rest]

theorem wireFields_eq_self_iff : ∀ fields : List (String × Value),
    wireFields fields = fields ↔ PortableFields fields
  | [] => iff_of_true rfl trivial
  | (k, v) :: rest => by
    rw [wireFields, PortableFields, List.cons.injEq, Prod.mk.injEq, eq_self, true_and,
      wire_eq_self_iff v, wireFields_eq_self_iff rest]

end

/-- What came back once comes back as it is. -/
@[simp] theorem wire_wire (v : Value) : v.wire.wire = v.wire :=
  (wire_eq_self_iff v.wire).2 (portable_wire v)

/-- **The two encodings of a value agree, and it loses only what JSON cannot hold.**  Its text
is that of its JSON value.  The value that is read from the JSON value has the text of every
instant in its place and null in the place of every float that is not finite, at every depth;
so it is the same value exactly if there are none, and it is read as it is from then on. -/
theorem encodings_agree (v : Value) (h : v.WellFormed) :
    v.written = v.toJson.compact ∧ ofJson v.toJson = v.wire ∧
      (ofJson v.toJson = v ↔ v.Portable) ∧
      ofJson (ofJson v.toJson).toJson = ofJson v.toJson := by
  have hread : ofJson v.toJson = v.wire := ofJson_toJson h
  have hformed : v.wire.WellFormed := by
    rw [← hread]
    exact wellFormed_ofJson v.toJson
  refine ⟨written_eq_compact v, hread, ?_, ?_⟩
  · rw [hread]
    exact wire_eq_self_iff v
  · rw [hread, ofJson_toJson hformed, wire_wire]

/-- An instant and a float that is no number in a list within an object, with the least
integer and a quotation mark beside them. -/
theorem encodings_agree_nested :
    let v : Value := .object
      [("at", .timestamp ⟨0, 1500000⟩),
        ("rest", .array [.int (-9223372036854775808), .float .nan, .text "a\"b"])]
    v.WellFormed ∧
      v.written = ("\x7b\"at\":\"1970-01-01T00:00:00.001Z\"," ++
        "\"rest\":[-9223372036854775808,null,\"a\\\"b\"]\x7d").toList ∧
      v.toJson.compact = v.written ∧
      ofJson v.toJson = .object
        [("at", .text "1970-01-01T00:00:00.001Z"),
          ("rest", .array [.int (-9223372036854775808), .null, .text "a\"b"])] ∧
      ¬ v.Portable ∧ (ofJson v.toJson).Portable := by
  intro v
  have hordered : Fields.Ordered
      [("at", timestamp ⟨0, 1500000⟩),
        ("rest", array [int (-9223372036854775808), float .nan, text "a\"b"])] := by
    refine List.pairwise_pair.2 ?_
    decide +kernel
  have hformed : v.WellFormed :=
    ⟨hordered, trivial, ⟨rfl, trivial, trivial, trivial⟩, trivial⟩
  have htext : (Instant.mk 0 1500000).text = "1970-01-01T00:00:00.001Z".toList := by
    decide +kernel
  obtain ⟨hwritten, hread, hsame, -⟩ := encodings_agree v hformed
  have hlost : ¬ v.Portable := fun h => h.1
  refine ⟨hformed, ?_, hwritten.symm, ?_, hlost, ?_⟩
  · decide +kernel
  · rw [hread]
    simp only [v, wire, wireFields, wireItems, htext, String.ofList_toList]
    rfl
  · rw [hread]
    exact portable_wire v

end TabularQuery.Value
