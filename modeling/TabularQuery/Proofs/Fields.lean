import Mathlib.Data.List.Nodup
import Mathlib.Data.String.Basic
import TabularQuery.Fields

/-!
# Fields as maps

A list of named fields is a map from names to values.  A list in the order of its names
is determined by that map, so that ordering a list forgets the sequence in which its
names came and nothing else.

## Main definitions

* `Fields.Ordered` — the names stand in their order, each once.
-/

namespace TabularQuery.Fields

variable {α β : Type}

/-- The names stand in their order, each once. -/
def Ordered (fields : List (String × α)) : Prop :=
  fields.Pairwise fun f g => f.1 < g.1

/-! ## Looking up -/

@[simp] theorem names_cons (f : String × α) (rest : List (String × α)) :
    names (f :: rest) = f.1 :: names rest := rfl

theorem mem_of_get? {name : String} {v : α} {fields : List (String × α)}
    (h : get? name fields = some v) : (name, v) ∈ fields := by
  induction fields with
  | nil => simp at h
  | cons f rest ih =>
    obtain ⟨n, w⟩ := f
    rw [get?_cons] at h
    split at h
    · rename_i hn
      obtain rfl := Option.some.inj h
      rw [hn]
      exact List.mem_cons_self
    · exact List.mem_cons_of_mem _ (ih h)

/-- Where names stand once, every field is found under its name. -/
theorem get?_eq_some_iff {fields : List (String × α)} (hd : (names fields).Nodup)
    {name : String} {v : α} : get? name fields = some v ↔ (name, v) ∈ fields := by
  refine ⟨mem_of_get?, fun h => ?_⟩
  induction fields with
  | nil => simp at h
  | cons f rest ih =>
    obtain ⟨n, w⟩ := f
    obtain ⟨hn, hrest⟩ := List.nodup_cons.1 hd
    rcases List.mem_cons.1 h with heq | hmem
    · obtain ⟨rfl, rfl⟩ := Prod.mk.inj heq
      rw [get?_cons, if_pos rfl]
    · have hname : name ∈ names rest := List.mem_map.2 ⟨_, hmem, rfl⟩
      have hne : n ≠ name := fun heq => hn (heq ▸ hname)
      rw [get?_cons, if_neg hne]
      exact ih hrest hmem

theorem get?_eq_none_iff {name : String} {fields : List (String × α)} :
    get? name fields = none ↔ name ∉ names fields := by
  induction fields with
  | nil => simp [names]
  | cons f rest ih =>
    obtain ⟨n, v⟩ := f
    by_cases hn : n = name
    · simp [get?_cons, hn]
    · simp [get?_cons, hn, ih, Ne.symm hn]

/-- Looking up in fields whose values were mapped. -/
theorem get?_map (f : α → β) (name : String) (fields : List (String × α)) :
    get? name (fields.map fun g => (g.1, f g.2)) = (get? name fields).map f := by
  induction fields with
  | nil => rfl
  | cons g rest ih =>
    obtain ⟨n, v⟩ := g
    rw [List.map_cons, get?_cons, get?_cons, ih]
    split <;> rfl

theorem names_map (f : α → β) (fields : List (String × α)) :
    names (fields.map fun g => (g.1, f g.2)) = names fields := by
  simp [names]

/-- The sequence of the fields does not matter where names stand once. -/
theorem get?_perm {fields other : List (String × α)} (h : fields.Perm other)
    (hd : (names fields).Nodup) (name : String) : get? name fields = get? name other := by
  have hother : (names other).Nodup := (h.map Prod.fst).nodup_iff.1 hd
  refine Option.ext fun v => ?_
  rw [get?_eq_some_iff hd, get?_eq_some_iff hother, h.mem_iff]

/-! ## Setting a value -/

theorem mem_put {name : String} {value : α} {fields : List (String × α)} {f : String × α}
    (h : f ∈ put name value fields) : f = (name, value) ∨ f ∈ fields := by
  induction fields with
  | nil =>
    rw [put, List.mem_singleton] at h
    exact .inl h
  | cons g rest ih =>
    obtain ⟨n, v⟩ := g
    rw [put] at h
    split at h
    · rename_i hn
      rcases List.mem_cons.1 h with rfl | hmem
      · exact .inl (by rw [hn])
      · exact .inr (List.mem_cons_of_mem _ hmem)
    · rcases List.mem_cons.1 h with rfl | hmem
      · exact .inr List.mem_cons_self
      · exact (ih hmem).imp_right (List.mem_cons_of_mem _)

/-- A new name comes last. -/
theorem put_of_has_eq_false {name : String} {fields : List (String × α)}
    (h : has name fields = false) (value : α) :
    put name value fields = fields ++ [(name, value)] := by
  induction fields with
  | nil => rfl
  | cons f rest ih =>
    obtain ⟨n, v⟩ := f
    rw [has, get?_cons] at h
    split at h
    · cases h
    · rename_i hn
      rw [put, if_neg hn, ih h]
      rfl

/-- Setting a value does not bring a name in twice. -/
theorem nodup_put {name : String} {value : α} {fields : List (String × α)}
    (h : (names fields).Nodup) : (names (put name value fields)).Nodup := by
  induction fields with
  | nil => simp [put, names]
  | cons g rest ih =>
    obtain ⟨n, v⟩ := g
    obtain ⟨hn, hrest⟩ := List.nodup_cons.1 h
    rw [put]
    split
    · exact List.nodup_cons.2 ⟨hn, hrest⟩
    · rename_i hne
      refine List.nodup_cons.2 ⟨fun hmem => ?_, ih hrest⟩
      obtain ⟨f, hf, hname⟩ := List.mem_map.1 hmem
      rcases mem_put hf with rfl | hf
      · exact hne hname.symm
      · exact hn (List.mem_map.2 ⟨f, hf, hname⟩)

/-! ## Several fields -/

/-- Names without a new value keep the one they have. -/
theorem get?_putAll_of_none {values : List (String × α)} {name : String}
    (h : get? name values = none) (fields : List (String × α)) :
    get? name (putAll values fields) = get? name fields := by
  induction values generalizing fields with
  | nil => rfl
  | cons f rest ih =>
    obtain ⟨n, v⟩ := f
    rw [get?_cons] at h
    split at h
    · simp at h
    · rename_i hn
      rw [putAll, List.foldl_cons, ← putAll, ih h, get?_put, if_neg (Ne.symm hn)]

/-- The same for a list ordered by name. -/
theorem get?_insertAll_of_none {values : List (String × α)} {name : String}
    (h : get? name values = none) (fields : List (String × α)) :
    get? name (insertAll values fields) = get? name fields := by
  induction values generalizing fields with
  | nil => rfl
  | cons f rest ih =>
    obtain ⟨n, v⟩ := f
    rw [get?_cons] at h
    split at h
    · simp at h
    · rename_i hn
      rw [insertAll, List.foldl_cons, ← insertAll, ih h, get?_insert, if_neg (Ne.symm hn)]

/-- Of several values for a name the last one counts. -/
theorem get?_insertAll_last {before after : List (String × α)} {name : String} (v : α)
    (h : get? name after = none) (fields : List (String × α)) :
    get? name (insertAll (before ++ (name, v) :: after) fields) = some v := by
  rw [insertAll, List.foldl_append, List.foldl_cons, ← insertAll, get?_insertAll_of_none h,
    get?_insert, if_pos rfl]

/-- Of several values with different names each is found. -/
theorem get?_putAll_of_some {values : List (String × α)} (hd : (names values).Nodup)
    {name : String} {v : α} (h : get? name values = some v) (fields : List (String × α)) :
    get? name (putAll values fields) = some v := by
  induction values generalizing fields with
  | nil => simp at h
  | cons f rest ih =>
    obtain ⟨n, w⟩ := f
    obtain ⟨hn, hrest⟩ := List.nodup_cons.1 hd
    rw [putAll, List.foldl_cons, ← putAll]
    rw [get?_cons] at h
    split at h
    · rename_i heq
      subst heq
      rw [get?_putAll_of_none (get?_eq_none_iff.2 hn), get?_put, if_pos rfl]
      exact h
    · exact ih hrest h _

/-- The same for a list ordered by name. -/
theorem get?_insertAll_of_some {values : List (String × α)} (hd : (names values).Nodup)
    {name : String} {v : α} (h : get? name values = some v) (fields : List (String × α)) :
    get? name (insertAll values fields) = some v := by
  induction values generalizing fields with
  | nil => simp at h
  | cons f rest ih =>
    obtain ⟨n, w⟩ := f
    obtain ⟨hn, hrest⟩ := List.nodup_cons.1 hd
    rw [insertAll, List.foldl_cons, ← insertAll]
    rw [get?_cons] at h
    split at h
    · rename_i heq
      subst heq
      rw [get?_insertAll_of_none (get?_eq_none_iff.2 hn), get?_insert, if_pos rfl]
      exact h
    · exact ih hrest h _

/-- Ordering a list whose names stand once keeps the map. -/
theorem get?_sorted {values : List (String × α)} (hd : (names values).Nodup)
    (name : String) : get? name (sorted values) = get? name values := by
  rw [sorted]
  cases h : get? name values with
  | none => rw [get?_insertAll_of_none h, get?_nil]
  | some v => exact get?_insertAll_of_some hd h _

/-! ## Lists in the order of their names -/

theorem mem_insert {name : String} {value : α} {fields : List (String × α)}
    {f : String × α} (h : f ∈ insert name value fields) : f = (name, value) ∨ f ∈ fields := by
  induction fields with
  | nil => exact .inl (List.mem_singleton.1 h)
  | cons g rest ih =>
    obtain ⟨n, v⟩ := g
    simp only [insert] at h
    split at h
    · rename_i hn
      subst hn
      rcases List.mem_cons.1 h with rfl | hmem
      · exact .inl rfl
      · exact .inr (List.mem_cons_of_mem _ hmem)
    · split at h
      · rcases List.mem_cons.1 h with rfl | hmem
        · exact .inl rfl
        · exact .inr hmem
      · rcases List.mem_cons.1 h with rfl | hmem
        · exact .inr List.mem_cons_self
        · exact (ih hmem).imp_right (List.mem_cons_of_mem _)

/-- Sorting brings no fields. -/
theorem mem_of_mem_sorted {values : List (String × α)} {f : String × α}
    (h : f ∈ sorted values) : f ∈ values := by
  have hfold (values fields : List (String × α)) (h : f ∈ Fields.insertAll values fields) :
      f ∈ values ∨ f ∈ fields := by
    induction values generalizing fields with
    | nil => exact .inr h
    | cons g rest ih =>
      rcases ih _ h with hrest | hinsert
      · exact .inl (List.mem_cons_of_mem _ hrest)
      · rcases mem_insert hinsert with rfl | hmem
        · exact .inl List.mem_cons_self
        · exact .inr hmem
  exact (hfold values [] h).resolve_right List.not_mem_nil

theorem Ordered.insert {fields : List (String × α)} (h : Ordered fields) (name : String)
    (value : α) : Ordered (insert name value fields) := by
  induction fields with
  | nil => exact List.pairwise_singleton _ _
  | cons f rest ih =>
    obtain ⟨n, v⟩ := f
    obtain ⟨hfirst, hrest⟩ := List.pairwise_cons.1 h
    simp only [Fields.insert]
    split
    · exact List.pairwise_cons.2 ⟨hfirst, hrest⟩
    · rename_i hne
      split
      · rename_i hlt
        refine List.pairwise_cons.2 ⟨fun g hg => ?_, h⟩
        rcases List.mem_cons.1 hg with rfl | hmem
        · exact hlt
        · exact lt_trans hlt (hfirst g hmem)
      · rename_i hlt
        have hn : n < name := lt_of_le_of_ne (not_lt.1 hlt) hne
        refine List.pairwise_cons.2 ⟨fun g hg => ?_, ih hrest⟩
        rcases mem_insert hg with rfl | hmem
        · exact hn
        · exact hfirst g hmem

theorem Ordered.insertAll {fields : List (String × α)} (h : Ordered fields)
    (values : List (String × α)) : Ordered (insertAll values fields) := by
  induction values generalizing fields with
  | nil => exact h
  | cons f rest ih => exact ih (h.insert f.1 f.2)

theorem ordered_sorted (values : List (String × α)) : Ordered (sorted values) :=
  Ordered.insertAll List.Pairwise.nil values

theorem Ordered.nodup {fields : List (String × α)} (h : Ordered fields) :
    (names fields).Nodup := by
  rw [names, List.Nodup, List.pairwise_map]
  exact h.imp ne_of_lt

/-- The first name of a list in order is in no list of greater names. -/
theorem Ordered.get?_head {n : String} {v : α} {rest : List (String × α)}
    (h : Ordered ((n, v) :: rest)) : get? n rest = none :=
  get?_eq_none_iff.2 (List.nodup_cons.1 h.nodup).1

/-- **Ordered lists with the same map are the same.** -/
theorem Ordered.ext {fields other : List (String × α)} (hf : Ordered fields)
    (ho : Ordered other) (h : ∀ name, get? name fields = get? name other) :
    fields = other := by
  induction fields generalizing other with
  | nil =>
    cases other with
    | nil => rfl
    | cons g more =>
      obtain ⟨m, w⟩ := g
      simpa [get?_cons] using h m
  | cons f rest ih =>
    obtain ⟨n, v⟩ := f
    cases other with
    | nil => simpa [get?_cons] using h n
    | cons g more =>
      obtain ⟨m, w⟩ := g
      obtain ⟨hn, hrest⟩ := List.pairwise_cons.1 hf
      obtain ⟨hm, hmore⟩ := List.pairwise_cons.1 ho
      -- each first name is found in the other list, and there it is the least
      have hnm : n = m := by
        by_contra hne
        have h₁ : (n, v) ∈ more := mem_of_get? (by
          have := h n
          rwa [get?_cons, get?_cons, if_pos rfl, if_neg (Ne.symm hne), eq_comm] at this)
        have h₂ : (m, w) ∈ rest := mem_of_get? (by
          have := h m
          rwa [get?_cons, get?_cons, if_pos rfl, if_neg hne] at this)
        exact lt_asymm (hm _ h₁) (hn _ h₂)
      subst hnm
      have hvw : v = w := by
        have := h n
        rw [get?_cons, get?_cons, if_pos rfl, if_pos rfl] at this
        exact Option.some.inj this
      have htail : rest = more := by
        refine ih hrest hmore fun name => ?_
        by_cases hname : n = name
        · subst hname
          rw [hf.get?_head, ho.get?_head]
        · have := h name
          rwa [get?_cons, get?_cons, if_neg hname, if_neg hname] at this
      rw [hvw, htail]

/-- Two lists with the same map are the same in order. -/
theorem sorted_eq_of_get?_eq {values other : List (String × α)}
    (hv : (names values).Nodup) (ho : (names other).Nodup)
    (h : ∀ name, get? name values = get? name other) : sorted values = sorted other := by
  refine Ordered.ext (ordered_sorted _) (ordered_sorted _) fun name => ?_
  rw [get?_sorted hv, get?_sorted ho, h]

/-- A list in order stays as it is when it is ordered. -/
theorem Ordered.sorted_eq {fields : List (String × α)} (h : Ordered fields) :
    sorted fields = fields :=
  Ordered.ext (ordered_sorted fields) h (get?_sorted h.nodup)

/-- Ordering a list whose names stand once keeps its fields. -/
theorem perm_sorted {values : List (String × α)} (hd : (names values).Nodup) :
    values.Perm (sorted values) := by
  have hsorted := (ordered_sorted values).nodup
  have hvalues : values.Nodup := List.Nodup.of_map _ hd
  have hfields : (sorted values).Nodup := List.Nodup.of_map _ hsorted
  refine (List.perm_ext_iff_of_nodup hvalues hfields).2 fun f => ?_
  obtain ⟨name, v⟩ := f
  rw [← get?_eq_some_iff hd, ← get?_eq_some_iff hsorted, get?_sorted hd]

/-! ## Some of the fields -/

/-- Looking up in the fields with some of the names. -/
theorem get?_filter (p : String → Bool) (name : String) (fields : List (String × α)) :
    get? name (fields.filter fun f => p f.1) = if p name then get? name fields else none := by
  induction fields with
  | nil => simp
  | cons f rest ih =>
    obtain ⟨n, v⟩ := f
    by_cases hn : n = name
    · subst hn
      by_cases hp : p n = true
      · simp [hp, get?_cons]
      · simp [hp, ih]
    · by_cases hp : p n = true
      · simp [hp, get?_cons, hn, ih]
      · simp [hp, get?_cons, hn, ih]

/-- Among several values, those with other names do not count for a name, -/
theorem get?_insertAll_filter (p : String → Bool) {name : String} (hp : p name = true)
    (values : List (String × α)) {fields other : List (String × α)}
    (h : get? name fields = get? name other) :
    get? name (insertAll (values.filter fun f => p f.1) fields) =
      get? name (insertAll values other) := by
  induction values generalizing fields other with
  | nil => exact h
  | cons f rest ih =>
    obtain ⟨n, v⟩ := f
    by_cases hn : p n = true
    · simp only [List.filter_cons, hn, if_true]
      refine ih ?_
      rw [get?_insert, get?_insert, h]
    · simp only [List.filter_cons, hn, Bool.false_eq_true, if_false]
      refine ih ?_
      have hne : name ≠ n := fun heq => hn (heq ▸ hp)
      rw [get?_insert, if_neg hne, h]

/-- so ordering some of the fields gives the same as taking them out of the ordered list. -/
theorem sorted_filter (p : String → Bool) (values : List (String × α)) :
    sorted (values.filter fun f => p f.1) = (sorted values).filter fun f => p f.1 := by
  have hordered : Ordered ((sorted values).filter fun f => p f.1) :=
    List.Pairwise.filter _ (ordered_sorted values)
  refine Ordered.ext (ordered_sorted _) hordered fun name => ?_
  rw [get?_filter]
  by_cases hp : p name = true
  · rw [if_pos hp]
    exact get?_insertAll_filter p hp values rfl
  · have hnone : get? name (values.filter fun f => p f.1) = none := by
      rw [get?_filter, if_neg hp]
    rw [if_neg hp, sorted, get?_insertAll_of_none hnone, get?_nil]

end TabularQuery.Fields
