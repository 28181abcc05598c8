import TabularQuery.Proofs.Json.Scanning

/-!
# The limits of the reader

Not every JSON text is read.  The reader refuses lists and objects that are too deep within
each other, numbers beyond the range of the format, and surrogates that are not paired; it
refuses nothing else.

## Main definitions

* `Json.Source.levels`, `Json.Source.Sound`, `Json.Source.Readable` — the limits.
* `Json.exists_read_iff` — a JSON text is read exactly within these limits.
* `Json.exists_read_nested_iff` — how many lists within each other are read.
-/

namespace TabularQuery.Json

namespace Source

/-! ## Trees with a value -/

mutual

/-- The number of lists and objects within each other. -/
def levels : Source → Nat
  | list items _ => levelsItems items + 1
  | object members _ => levelsMembers members + 1
  | _ => 0

/-- The same of items. -/
def levelsItems : List Source → Nat
  | [] => 0
  | v :: rest => max (levels v) (levelsItems rest)

/-- The same of members. -/
def levelsMembers : List (QuotedText × Source) → Nat
  | [] => 0
  | (_, v) :: rest => max (levels v) (levelsMembers rest)

end

mutual

/-- Every number is in range, and in every quoted text the surrogates are paired. -/
def Sound : Source → Prop
  | number n => ∃ x, n.value = .ok x
  | text t => t.fault = none
  | list items _ => SoundItems items
  | object members _ => SoundMembers members
  | _ => True

/-- The same of items. -/
def SoundItems : List Source → Prop
  | [] => True
  | v :: rest => Sound v ∧ SoundItems rest

/-- The same of members. -/
def SoundMembers : List (QuotedText × Source) → Prop
  | [] => True
  | (key, v) :: rest => key.fault = none ∧ Sound v ∧ SoundMembers rest

end

theorem exists_readText_iff (t : QuotedText) : (∃ s, readText t = .ok s) ↔ t.fault = none := by
  rw [readText]
  cases t.fault <;> simp

theorem exists_map_iff {α β : Type} {f : α → β} {x : Except TextFault α} :
    (∃ b, x.map f = .ok b) ↔ ∃ a, x = .ok a := by
  cases x <;> simp [Except.map]

/-- A list or an object has a value if its parts have, one level deeper. -/
theorem exists_value_iff {α : Type} {depth levels : Nat} {sound : Prop} {f : α → Json}
    {parts : Nat → Except TextFault α}
    (h : ∀ depth, 0 < depth → ((∃ a, parts depth = .ok a) ↔ levels < depth ∧ sound)) :
    (∃ w, (if depth ≤ 1 then .error .tooDeep
      else do
        let a ← parts (depth - 1)
        .ok (f a) : Except TextFault Json) = .ok w) ↔ levels + 1 < depth ∧ sound := by
  by_cases hdepth : depth ≤ 1
  · simp only [if_pos hdepth, reduceCtorEq, exists_false, false_iff]
    omega
  · have hparts := h (depth - 1) (by omega)
    have hlevels : levels < depth - 1 ↔ levels + 1 < depth := by omega
    rw [if_neg hdepth, ← hlevels, ← hparts]
    constructor
    · rintro ⟨w, hw⟩
      obtain ⟨a, ha, -⟩ := Except.bind_eq_ok_iff.1 hw
      exact ⟨a, ha⟩
    · rintro ⟨a, ha⟩
      exact ⟨f a, by rw [ha]; rfl⟩

mutual

/-- The tree of a text has a value if it is sound and not too deep. -/
theorem exists_toJson_iff {v : Source} {s : List Char} (h : v.Writes s) (depth : Nat)
    (hdepth : 0 < depth) : (∃ w, v.toJson depth = .ok w) ↔ v.levels < depth ∧ v.Sound := by
  cases v with
  | null | bool b => simp [toJson, levels, Sound, hdepth]
  | number n => simp only [toJson, levels, Sound, hdepth, exists_map_iff, true_and]
  | text t => simp only [toJson, levels, Sound, hdepth, exists_map_iff, exists_readText_iff, true_and]
  | list items ending =>
    cases ending with
    | closed =>
      obtain ⟨u, -, hitems⟩ := h
      exact exists_value_iff fun depth hdepth => exists_toJsonItems_iff hitems depth hdepth
    | broken b => exact h.elim
  | object members ending =>
    cases ending with
    | closed =>
      obtain ⟨u, -, hmembers⟩ := h
      exact exists_value_iff fun depth hdepth =>
        exists_toJsonMembers_iff hmembers [] depth hdepth
    | broken b => exact h.elim
  | value w => exact h.elim
  | broken b => exact h.elim

theorem exists_toJsonItems_iff {items : List Source} {first : Bool} {s : List Char}
    (h : WritesItems first items s) (depth : Nat) (hdepth : 0 < depth) :
    (∃ vs, toJsonItems depth items = .ok vs) ↔
      levelsItems items < depth ∧ SoundItems items := by
  cases items with
  | nil => simp [toJsonItems, levelsItems, SoundItems, hdepth]
  | cons v rest =>
    obtain ⟨mark, ws, t, u, -, -, ht, hu, -⟩ := h
    have hv := exists_toJson_iff ht depth hdepth
    have hrest := exists_toJsonItems_iff hu depth hdepth
    rw [levelsItems, SoundItems, Nat.max_lt, and_and_and_comm, ← hv, ← hrest]
    constructor
    · rintro ⟨vs, hvs⟩
      obtain ⟨w, hw, hvs⟩ := Except.bind_eq_ok_iff.1 hvs
      obtain ⟨ws, hws, -⟩ := Except.bind_eq_ok_iff.1 hvs
      exact ⟨⟨w, hw⟩, ws, hws⟩
    · rintro ⟨⟨w, hw⟩, ws, hws⟩
      exact ⟨w :: ws, by rw [toJsonItems, hw, hws]; rfl⟩

theorem exists_toJsonMembers_iff {members : List (QuotedText × Source)} {first : Bool}
    {s : List Char} (h : WritesMembers first members s) (done : List (String × Json))
    (depth : Nat) (hdepth : 0 < depth) :
    (∃ ms, toJsonMembers depth done members = .ok ms) ↔
      levelsMembers members < depth ∧ SoundMembers members := by
  cases members with
  | nil => simp [toJsonMembers, levelsMembers, SoundMembers, hdepth]
  | cons m rest =>
    obtain ⟨key, v⟩ := m
    obtain ⟨mark, ws, k, gap, ws', t, u, -, -, -, -, -, ht, hu, -⟩ := h
    have hv := exists_toJson_iff ht depth hdepth
    rw [levelsMembers, SoundMembers, Nat.max_lt, ← exists_readText_iff]
    constructor
    · rintro ⟨ms, hms⟩
      obtain ⟨k, hk, hms⟩ := Except.bind_eq_ok_iff.1 hms
      obtain ⟨w, hw, hms⟩ := Except.bind_eq_ok_iff.1 hms
      obtain ⟨hlevels, hsound⟩ := hv.1 ⟨w, hw⟩
      obtain ⟨hlevels', hsound'⟩ := (exists_toJsonMembers_iff hu _ depth hdepth).1 ⟨ms, hms⟩
      exact ⟨⟨hlevels, hlevels'⟩, ⟨k, hk⟩, hsound, hsound'⟩
    · rintro ⟨⟨hlevels, hlevels'⟩, ⟨k, hk⟩, hsound, hsound'⟩
      obtain ⟨w, hw⟩ := hv.2 ⟨hlevels, hsound⟩
      obtain ⟨ms, hms⟩ :=
        (exists_toJsonMembers_iff hu (Fields.put k w done) depth hdepth).2 ⟨hlevels', hsound'⟩
      exact ⟨ms, by rw [toJsonMembers, hk]; simp only [hw]; exact hms⟩

end

/-- A tree within the limits of the reader: not too deep, and sound. -/
def Readable (v : Source) : Prop :=
  v.levels < depthLimit ∧ v.Sound

end Source

theorem IsText.unique {s : List Char} {v w : Source} (hv : IsText s v) (hw : IsText s w) :
    v = w := by
  have h : (v, false) = (w, false) := by
    rw [← Source.scan_of_isText hv, ← Source.scan_of_isText hw]
  exact (Prod.mk.inj h).1

/-- **A JSON text is read exactly if it is within the limits.** -/
theorem exists_read_iff {s : String} :
    (∃ w, read s = .ok w) ↔ ∃ v, IsText s.toList v ∧ v.Readable := by
  simp only [read_eq_ok_iff]
  constructor
  · rintro ⟨w, v, hs, hv⟩
    refine ⟨v, hs, ?_⟩
    obtain ⟨before, t, after, -, ht, -⟩ := hs
    exact (Source.exists_toJson_iff ht depthLimit (by decide)).1 ⟨w, hv⟩
  · rintro ⟨v, hs, hv⟩
    obtain ⟨before, t, after, -, ht, -⟩ := id hs
    obtain ⟨w, hw⟩ := (Source.exists_toJson_iff ht depthLimit (by decide)).2 hv
    exact ⟨w, v, hs, hw⟩

/-! ## Lists within each other -/

/-- Lists within each other, one more than a number. -/
def Source.nested : Nat → Source
  | 0 => .list [] .closed
  | n + 1 => .list [nested n] .closed

/-- Their text. -/
def nestedText (n : Nat) : List Char :=
  List.replicate (n + 1) '[' ++ List.replicate (n + 1) ']'

namespace Source

theorem writes_nested (n : Nat) : (nested n).Writes (nestedText n) := by
  induction n with
  | zero => exact ⟨[']'], rfl, [], space_nil, rfl⟩
  | succ n ih =>
    refine ⟨nestedText n ++ [']'], ?_, [], [], nestedText n, [']'], rfl, space_nil, ih,
      ⟨[], space_nil, rfl⟩, rfl⟩
    rw [nestedText, nestedText, List.replicate_succ, List.cons_append, List.append_assoc,
      ← List.replicate_succ']

theorem levels_nested (n : Nat) : (nested n).levels = n + 1 := by
  induction n with
  | zero => rfl
  | succ n ih => simp [nested, levels, levelsItems, ih]

theorem sound_nested (n : Nat) : (nested n).Sound := by
  induction n with
  | zero => trivial
  | succ n ih => exact ⟨ih, trivial⟩

theorem readable_nested_iff (n : Nat) : (nested n).Readable ↔ n + 1 < depthLimit := by
  rw [Readable, levels_nested]
  exact and_iff_left (sound_nested n)

end Source

/-- Lists within each other are read as long as there are fewer than the limit. -/
theorem exists_read_nested_iff (n : Nat) :
    (∃ w, read (String.ofList (nestedText n)) = .ok w) ↔ n + 1 < depthLimit := by
  have htext : IsText (String.ofList (nestedText n)).toList (.nested n) :=
    ⟨[], _, [], space_nil, Source.writes_nested n, space_nil, by simp⟩
  rw [exists_read_iff, ← Source.readable_nested_iff]
  constructor
  · rintro ⟨v, hv, hreadable⟩
    rwa [htext.unique hv]
  · exact fun h => ⟨_, htext, h⟩

end TabularQuery.Json
