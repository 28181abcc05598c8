import TabularQuery.Proofs.Value.Kept

/-!
# JSON values that are read and written back

A JSON value that is read as a column value and written back differs in two things only.  Its
keys stand in the order of their names, and an integer beyond 64 signed bits has become the
float nearest to it; every other number, text and flag is the same, at every depth.  So but
for the order of keys a row comes back as it is exactly if it has no such integer.

## Main definitions

* `Json.narrowed` — a value with floats in the place of its larger integers.
* `Json.Narrow` — the values without such integers.
* `Json.Reordered.narrow_iff` — the order of keys does not matter for it.
* `Value.narrowed_reordered` — what comes back for a value.
* `Record.written_back_reordered` — what comes back for a row.
-/

namespace TabularQuery

namespace Json

/-! ## Values without larger integers -/

mutual

/-- A value with the nearest float in the place of every integer beyond 64 signed bits, at
every depth. -/
def narrowed : Json → Json
  | number (.integer i) =>
    if JsonNumber.fitsSigned i then number (.integer i) else number (.real (.ofInt i))
  | array items => array (narrowedItems items)
  | object members => object (narrowedMembers members)
  | v => v

/-- The same of items. -/
def narrowedItems : List Json → List Json
  | [] => []
  | v :: rest => narrowed v :: narrowedItems rest

/-- The same of members. -/
def narrowedMembers : List (String × Json) → List (String × Json)
  | [] => []
  | (k, v) :: rest => (k, narrowed v) :: narrowedMembers rest

end

mutual

/-- A value whose integers have 64 signed bits, at every depth. -/
def Narrow : Json → Prop
  | number (.integer i) => JsonNumber.fitsSigned i = true
  | array items => NarrowItems items
  | object members => NarrowMembers members
  | _ => True

/-- Items of this kind. -/
def NarrowItems : List Json → Prop
  | [] => True
  | v :: rest => Narrow v ∧ NarrowItems rest

/-- Members of this kind. -/
def NarrowMembers : List (String × Json) → Prop
  | [] => True
  | (_, v) :: rest => Narrow v ∧ NarrowMembers rest

end

theorem narrowItems_iff {items : List Json} : NarrowItems items ↔ ∀ v ∈ items, v.Narrow := by
  induction items with
  | nil => simp [NarrowItems]
  | cons v rest ih => simp [NarrowItems, ih]

theorem narrowMembers_iff {members : List (String × Json)} :
    NarrowMembers members ↔ ∀ m ∈ members, m.2.Narrow := by
  induction members with
  | nil => simp [NarrowMembers]
  | cons m rest ih => simp [NarrowMembers, ih]

mutual

/-- A value is its narrowed one if it has no larger integer, and only then. -/
theorem narrowed_eq_self_iff : ∀ v : Json, v.narrowed = v ↔ v.Narrow
  | null => iff_of_true rfl trivial
  | bool _ => iff_of_true rfl trivial
  | number (.integer i) => by
    rw [narrowed, Narrow]
    by_cases hi : JsonNumber.fitsSigned i = true
    · simp [hi]
    · simp [hi]
  | number (.real _) => iff_of_true rfl trivial
  | text _ => iff_of_true rfl trivial
  | array items => by
    rw [narrowed, Narrow, array.injEq, narrowedItems_eq_self_iff items]
  | object members => by
    rw [narrowed, Narrow, object.injEq, narrowedMembers_eq_self_iff members]

theorem narrowedItems_eq_self_iff : ∀ items : List Json,
    narrowedItems items = items ↔ NarrowItems items
  | [] => iff_of_true rfl trivial
  | v :: rest => by
    rw [narrowedItems, NarrowItems, List.cons.injEq, narrowed_eq_self_iff v,
      narrowedItems_eq_self_iff rest]

theorem narrowedMembers_eq_self_iff : ∀ members : List (String × Json),
    narrowedMembers members = members ↔ NarrowMembers members
  | [] => iff_of_true rfl trivial
  | (k, v) :: rest => by
    rw [narrowedMembers, NarrowMembers, List.cons.injEq, Prod.mk.injEq, eq_self, true_and,
      narrowed_eq_self_iff v, narrowedMembers_eq_self_iff rest]

end

mutual

/-- A narrowed value has no larger integer. -/
theorem narrow_narrowed : ∀ v : Json, v.narrowed.Narrow
  | null => trivial
  | bool _ => trivial
  | number (.integer i) => by
    rw [narrowed]
    split
    · assumption
    · trivial
  | number (.real _) => trivial
  | text _ => trivial
  | array items => narrowItems_narrowedItems items
  | object members => narrowMembers_narrowedMembers members

theorem narrowItems_narrowedItems : ∀ items : List Json, NarrowItems (narrowedItems items)
  | [] => trivial
  | v :: rest => ⟨narrow_narrowed v, narrowItems_narrowedItems rest⟩

theorem narrowMembers_narrowedMembers : ∀ members : List (String × Json),
    NarrowMembers (narrowedMembers members)
  | [] => trivial
  | (_, v) :: rest => ⟨narrow_narrowed v, narrowMembers_narrowedMembers rest⟩

end

/-! ## The order of keys -/

namespace Reordered

/-- Values that differ in the order of keys have the same integers. -/
theorem narrow_iff {v w : Json} (h : v.Reordered w) : v.Narrow ↔ w.Narrow := by
  induction h with
  | refl v => exact Iff.rfl
  | trans _ _ ih₁ ih₂ => exact ih₁.trans ih₂
  | members hperm =>
    rw [Narrow, Narrow, narrowMembers_iff, narrowMembers_iff]
    simp only [hperm.mem_iff]
  | member _ ih =>
    rw [Narrow, Narrow, narrowMembers_iff, narrowMembers_iff]
    simp [or_imp, forall_and, ih]
  | item _ ih =>
    rw [Narrow, Narrow, narrowItems_iff, narrowItems_iff]
    simp [or_imp, forall_and, ih]

/-- Lists whose items differ in the order of keys do so themselves. -/
theorem ofItems {vs ws : List Json} (h : List.Forall₂ Reordered vs ws) :
    (array vs).Reordered (array ws) := by
  -- the items before the one that comes next are those of the second list already
  have hprefix (before : List Json) :
      (array (before ++ vs)).Reordered (array (before ++ ws)) := by
    induction h generalizing before with
    | nil => exact .refl _
    | @cons v w _ _ hfirst _ ih =>
      have hrest := ih (before ++ [w])
      rw [List.append_assoc, List.append_assoc] at hrest
      exact (Reordered.item hfirst).trans hrest
  exact hprefix []

/-- So do objects whose members have the same keys and values that differ in the order of
keys. -/
theorem ofMembers {ms ns : List (String × Json)}
    (h : List.Forall₂ (fun m n => m.1 = n.1 ∧ m.2.Reordered n.2) ms ns) :
    (object ms).Reordered (object ns) := by
  have hprefix (before : List (String × Json)) :
      (object (before ++ ms)).Reordered (object (before ++ ns)) := by
    induction h generalizing before with
    | nil => exact .refl _
    | @cons m n _ _ hfirst _ ih =>
      obtain ⟨key, v⟩ := m
      obtain ⟨_, w⟩ := n
      obtain ⟨rfl, hvalue⟩ := hfirst
      have hrest := ih (before ++ [(key, w)])
      rw [List.append_assoc, List.append_assoc] at hrest
      exact (Reordered.member hvalue).trans hrest
  exact hprefix []

end Reordered

end Json

namespace Value

/-! ## Values that are written back -/

mutual

/-- **What comes back for a value is the narrowed value**, but for the order of keys. -/
theorem narrowed_reordered : ∀ {v : Json}, v.InRange → v.KeysDistinct →
    v.narrowed.Reordered (ofJson v).toJson
  | .null, _, _ => .refl _
  | .bool _, _, _ => .refl _
  | .number (.integer i), h, _ => by
    rw [ofJson, ofNumber, Json.narrowed]
    by_cases hi : JsonNumber.fitsSigned i = true
    · rw [if_pos hi, if_pos hi]
      exact .refl _
    · obtain ⟨m, e, -, hfinite⟩ := Binary64.exists_canonical_ofInt h.natAbs_lt
      rw [if_neg hi, if_neg hi, hfinite]
      exact .refl _
  | .number (.real (.finite ..)), _, _ => .refl _
  | .text _, _, _ => .refl _
  | .array items, h, hd => .ofItems (narrowedItems_reordered h (Json.keysDistinct_array.1 hd))
  | .object members, h, hd => by
    obtain ⟨hkeys, hvalues⟩ := Json.keysDistinct_object.1 hd
    have hnames : (Fields.names (ofJsonMembers members)).Nodup := by
      rwa [ofJsonMembers_eq_map, Fields.names_map]
    have hsorted : (toJsonFields (ofJsonMembers members)).Perm
        (toJsonFields (Fields.sorted (ofJsonMembers members))) := by
      rw [toJsonFields_eq_map, toJsonFields_eq_map]
      exact (Fields.perm_sorted hnames).map _
    exact (Json.Reordered.ofMembers (narrowedMembers_reordered h hvalues)).trans
      (.members hsorted)

/-- The same of items, one by one. -/
theorem narrowedItems_reordered : ∀ {items : List Json}, Json.InRangeItems items →
    (∀ v ∈ items, v.KeysDistinct) →
      List.Forall₂ Json.Reordered (Json.narrowedItems items) (toJsonItems (ofJsonItems items))
  | [], _, _ => .nil
  | _ :: _, h, hd => by
    obtain ⟨hfirst, hrest⟩ := List.forall_mem_cons.1 hd
    exact .cons (narrowed_reordered h.1 hfirst) (narrowedItems_reordered h.2 hrest)

/-- The same of members, one by one. -/
theorem narrowedMembers_reordered : ∀ {members : List (String × Json)},
    Json.InRangeMembers members → (∀ m ∈ members, m.2.KeysDistinct) →
      List.Forall₂ (fun m n => m.1 = n.1 ∧ m.2.Reordered n.2) (Json.narrowedMembers members)
        (toJsonFields (ofJsonMembers members))
  | [], _, _ => .nil
  | (_, _) :: _, h, hd => by
    obtain ⟨hfirst, hrest⟩ := List.forall_mem_cons.1 hd
    exact .cons ⟨rfl, narrowed_reordered h.1 hfirst⟩ (narrowedMembers_reordered h.2 hrest)

end

/-- **A value comes back as it is**, but for the order of keys, if it has no larger integer,
and only then. -/
theorem reordered_iff_narrow {v : Json} (h : v.InRange) (hd : v.KeysDistinct) :
    v.Reordered (ofJson v).toJson ↔ v.Narrow := by
  have hback : v.narrowed.Reordered (ofJson v).toJson := narrowed_reordered h hd
  constructor
  · intro hsame
    exact hsame.narrow_iff.2 (hback.narrow_iff.1 (Json.narrow_narrowed v))
  · intro hnarrow
    rwa [(Json.narrowed_eq_self_iff v).2 hnarrow] at hback

end Value

namespace Record

/-- **A row that is read and written back loses nothing but its larger integers.**  Every JSON
object is a record, and what is written for the record is the object with the nearest float in
the place of every integer beyond 64 signed bits, at every depth, and with its keys in another
order.  So it is the object itself, but for the order of keys, exactly if the object has no
such integer. -/
theorem written_back_reordered (members : List (String × Json))
    (h : (Json.object members).InRange) (hd : (Json.object members).KeysDistinct) :
    ∃ r : Record, ofJson? (.object members) = some r ∧
      (Json.object members).narrowed.Reordered r.toJson ∧
      ((Json.object members).Reordered r.toJson ↔ (Json.object members).Narrow) :=
  ⟨_, rfl, Value.narrowed_reordered h hd, Value.reordered_iff_narrow h hd⟩

/-- The greatest unsigned integer beside a list with an object: the integer comes back as a
float, and the list as it was but for the order of keys, with the least signed integer and
minus zero in it. -/
theorem written_back_large_integer :
    let size : Json := .number (.integer 18446744073709551615)
    let low : Json := .number (.integer (-9223372036854775808))
    let zero : Json := .number (.real (.finite true 0 Binary64.leastExponent))
    let parts : Json := .array [.object [("b", low), ("a", zero)]]
    let row : Json := .object [("size", size), ("parts", parts)]
    row.InRange ∧ row.KeysDistinct ∧
      (∃ r : Record, ofJson? row = some r ∧
        r.toJson = .object
          [("parts", .array [.object [("a", zero), ("b", low)]]),
            ("size", .number (.real (.ofInt 18446744073709551615)))] ∧
        row.narrowed.Reordered r.toJson ∧ ¬ row.Reordered r.toJson) ∧
      ∃ r : Record, ofJson? (.object [("parts", parts)]) = some r ∧
        (Json.object [("parts", parts)]).Reordered r.toJson := by
  intro size low zero parts row
  have hparts : (Json.object [("parts", parts)]).InRange :=
    ⟨⟨⟨.inl rfl, ⟨by decide, .inr rfl, le_refl _, by decide⟩, trivial⟩, trivial⟩, trivial⟩
  have hpartsKeys : (Json.object [("parts", parts)]).KeysDistinct := by
    simp [parts, low, zero, Json.keysDistinct_object, Json.keysDistinct_array,
      Json.KeysDistinct, Fields.names]
  have hrow : row.InRange := ⟨.inr rfl, hparts⟩
  have hrowKeys : row.KeysDistinct := by
    simp [row, size, parts, low, zero, Json.keysDistinct_object, Json.keysDistinct_array,
      Json.KeysDistinct, Fields.names]
  obtain ⟨r, hr, hback, hsame⟩ := written_back_reordered _ hrow hrowKeys
  obtain ⟨t, ht, -, hkept⟩ := written_back_reordered _ hparts hpartsKeys
  refine ⟨hrow, hrowKeys, ⟨r, hr, ?_, hback, fun h => ?_⟩, t, ht, hkept.2 ?_⟩
  · obtain rfl := Option.some.inj hr
    rfl
  · have hsize : JsonNumber.fitsSigned 18446744073709551615 = true := (hsame.1 h).1
    exact absurd hsize (by decide)
  · exact ⟨⟨⟨rfl, trivial, trivial⟩, trivial⟩, trivial⟩

/-- The integer after the greatest signed one comes back as a float. -/
theorem written_back_loses_integer :
    let row : Json := .object [("n", .number (.integer 9223372036854775808))]
    row.InRange ∧ row.KeysDistinct ∧
      ∃ r : Record, ofJson? row = some r ∧
        r.toJson = .object [("n", .number (.real (.finite false 4503599627370496 11)))] ∧
        ¬ row.Reordered r.toJson := by
  intro row
  have hrow : row.InRange := ⟨.inr rfl, trivial⟩
  have hkeys : row.KeysDistinct := by
    simp [row, Json.keysDistinct_object, Json.KeysDistinct, Fields.names]
  have hfloat : Binary64.ofInt 9223372036854775808 = .finite false 4503599627370496 11 := by
    decide +kernel
  refine ⟨hrow, hkeys, _, rfl, ?_, fun h => ?_⟩
  · rw [← hfloat]
    rfl
  · have hnarrow : JsonNumber.fitsSigned 9223372036854775808 = true :=
      ((Value.reordered_iff_narrow hrow hkeys).1 h).1
    exact absurd hnarrow (by decide)

end Record

end TabularQuery
