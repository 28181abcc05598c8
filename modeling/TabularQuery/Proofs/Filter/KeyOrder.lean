import TabularQuery.Proofs.Filter.Clause

/-!
# Where-clauses and the order of keys

A descriptor whose keys are reordered is read again, and the calls of the new clause
accept the same rows.  The calls themselves may come in another order.

## Main definitions

* `Json.Alike` — two descriptors that are read as the same column value.
* `Where.ofJson_reordered` — reordered descriptors have clauses with the same meaning.
-/

namespace TabularQuery

namespace Json

/-- Two values that are read as the same column value. -/
structure Alike (v w : Json) : Prop where
  left : v.KeysDistinct
  right : w.KeysDistinct
  value : Value.ofJson v = Value.ofJson w

namespace Alike

theorem symm {v w : Json} (h : Alike v w) : Alike w v :=
  ⟨h.right, h.left, h.value.symm⟩

/-- Only an object is read as one. -/
theorem exists_object {ms : List (String × Json)} {w : Json} (h : Alike (object ms) w) :
    ∃ ns, w = object ns :=
  Value.exists_members_of_ofJson (h.value.symm.trans (Value.ofJson_object ms))

/-- Only a list is read as one. -/
theorem exists_array {items : List Json} {w : Json} (h : Alike (array items) w) :
    ∃ others, w = array others := by
  have hvalue := h.value
  rw [Value.ofJson] at hvalue
  cases w with
  | array others => exact ⟨others, rfl⟩
  | number n =>
    rw [Value.ofJson] at hvalue
    rcases Value.ofNumber_cases n with ⟨i, hi⟩ | ⟨x, hx⟩ <;> simp_all
  | _ => simp [Value.ofJson] at hvalue

/-- Alike objects have alike values under every key. -/
theorem get?_some {ms ns : List (String × Json)} (h : Alike (object ms) (object ns))
    {key : String} {v : Json} (hv : Fields.get? key ms = some v) :
    ∃ w, Fields.get? key ns = some w ∧ Alike v w := by
  obtain ⟨hms, hleft⟩ := keysDistinct_object.1 h.left
  obtain ⟨hns, hright⟩ := keysDistinct_object.1 h.right
  have hkey := Value.get?_ofJson_eq hms hns h.value key
  rw [hv, Option.map_some, eq_comm, Option.map_eq_some_iff] at hkey
  obtain ⟨w, hw, hvalue⟩ := hkey
  exact ⟨w, hw, hleft _ (Fields.mem_of_get? hv), hright _ (Fields.mem_of_get? hw),
    hvalue.symm⟩

theorem get?_none {ms ns : List (String × Json)} (h : Alike (object ms) (object ns))
    {key : String} (hnone : Fields.get? key ms = none) : Fields.get? key ns = none := by
  cases hns : Fields.get? key ns with
  | none => rfl
  | some w =>
    obtain ⟨v, hv, -⟩ := h.symm.get?_some hns
    simp [hnone] at hv

theorem has_eq {ms ns : List (String × Json)} (h : Alike (object ms) (object ns))
    (key : String) : Fields.has key ms = Fields.has key ns := by
  rw [Fields.has, Fields.has]
  cases hms : Fields.get? key ms with
  | none => rw [h.get?_none hms]
  | some v =>
    obtain ⟨w, hw, -⟩ := h.get?_some hms
    rw [hw]
    rfl

/-- Every column of an entry is in the alike entry. -/
theorem pairs {v w : Json} (h : Alike v w) {m : String × Json} (hm : m ∈ v.pairs) :
    ∃ n ∈ w.pairs, n.1 = m.1 ∧ Alike m.2 n.2 := by
  cases v with
  | object ms =>
    obtain ⟨ns, rfl⟩ := h.exists_object
    obtain ⟨key, u⟩ := m
    have hget := (Fields.get?_eq_some_iff (keysDistinct_object.1 h.left).1).2 hm
    obtain ⟨u', hu', halike⟩ := h.get?_some hget
    exact ⟨(key, u'), Fields.mem_of_get? hu', rfl, halike⟩
  | _ => simp [Json.pairs] at hm

/-- Every item of a list has an alike item in the alike list. -/
theorem items {v w : Json} (h : Alike v w) {e : Json} (he : e ∈ v.items) :
    ∃ e' ∈ w.items, Alike e e' := by
  cases v with
  | array es =>
    obtain ⟨others, rfl⟩ := h.exists_array
    have hvalue := h.value
    rw [Value.ofJson_array, Value.ofJson_array, Value.array.injEq] at hvalue
    have hmem : Value.ofJson e ∈ others.map Value.ofJson :=
      hvalue ▸ List.mem_map_of_mem he
    obtain ⟨e', he', heq⟩ := List.mem_map.1 hmem
    exact ⟨e', he', keysDistinct_array.1 h.left e he, keysDistinct_array.1 h.right e' he',
      heq.symm⟩
  | _ => simp [Json.items] at he

end Alike

theorem Reordered.alike {v w : Json} (h : v.Reordered w) (hd : v.KeysDistinct) :
    Alike v w :=
  ⟨hd, (h.ofJson_eq hd).1, (h.ofJson_eq hd).2⟩

end Json

namespace Constraint

/-- A constraint is read from the column values of a descriptor only. -/
theorem ofVerb_alike {column : String} {v w : Json} {verb : Verb} {c : Constraint}
    (h : v.Alike w) (hc : ofVerb column v verb = .ok c) : ofVerb column w verb = .ok c := by
  have hlist {verb : Verb} {vs : List Value} (hvs : listOperand column verb v = .ok vs) :
      listOperand column verb w = .ok vs := by
    cases v with
    | array items =>
      obtain ⟨others, rfl⟩ := h.exists_array
      have hvalue := h.value
      rw [Value.ofJson_array, Value.ofJson_array, Value.array.injEq] at hvalue
      rw [listOperand, ← hvalue]
      exact hvs
    | _ => simp [listOperand] at hvs
  cases verb with
  | among | notAmong =>
    obtain ⟨vs, hvs, rfl⟩ := Except.map_eq_ok_iff.1 hc
    rw [ofVerb, hlist hvs]
    rfl
  | _ =>
    rw [ofVerb, ← h.value]
    exact hc

theorem verbsIn_alike {ms ns : List (String × Json)}
    (h : (Json.object ms).Alike (.object ns)) : verbsIn ms = verbsIn ns := by
  simp only [verbsIn, h.has_eq]

/-- Alike descriptor values put the same constraint on a column. -/
theorem ofJson_alike {column : String} {v w : Json} {c : Constraint} (h : v.Alike w)
    (hc : ofJson column v = .ok c) : ofJson column w = .ok c := by
  cases v with
  | object ms =>
    obtain ⟨ns, rfl⟩ := h.exists_object
    rw [ofJson] at hc ⊢
    rw [← verbsIn_alike h]
    cases hverbs : verbsIn ms with
    | nil =>
      simp only [hverbs] at hc ⊢
      rw [← h.value]
      exact hc
    | cons verb more =>
      simp only [hverbs] at hc ⊢
      have hverb : Fields.has verb.name ms = true := by
        have hmem : verb ∈ verbsIn ms := hverbs ▸ List.mem_cons_self
        exact (List.mem_filter.1 hmem).2
      obtain ⟨u, hu⟩ := Option.isSome_iff_exists.1 hverb
      obtain ⟨u', hu', halike⟩ := h.get?_some hu
      rw [hu, Option.getD_some] at hc
      rw [hu', Option.getD_some]
      exact ofVerb_alike halike hc
  | _ =>
    cases w with
    | object ns =>
      obtain ⟨ms, hms⟩ := h.symm.exists_object
      simp at hms
    | _ =>
      rw [ofJson, ← h.value]
      · exact hc
      · simp

end Constraint

namespace Where

theorem Reads.alike {m n : String × Json} {f : String × Constraint} (h : Reads m f)
    (hkey : n.1 = m.1) (halike : m.2.Alike n.2) : Reads n f := by
  refine ⟨h.1.trans hkey.symm, ?_⟩
  rw [hkey]
  exact Constraint.ofJson_alike halike h.2

/-- Alike disjunctions are both read, and their branches are the same. -/
theorem branches_alike {d e : Json} {bs : List (String × Constraint)} (h : d.Alike e)
    (hbs : branches d.items = .ok bs) :
    ∃ cs, branches e.items = .ok cs ∧ ∀ f, f ∈ cs ↔ f ∈ bs := by
  have hread := exists_branches_iff.1 ⟨bs, hbs⟩
  obtain ⟨cs, hcs⟩ : ∃ cs, branches e.items = .ok cs := by
    rw [exists_branches_iff]
    intro x hx
    obtain ⟨y, hy, hxy⟩ := h.symm.items hx
    obtain ⟨⟨ms, rfl⟩, hms⟩ := hread y hy
    refine ⟨hxy.symm.exists_object, fun n hn => ?_⟩
    obtain ⟨m, hm, hkey, hnm⟩ := hxy.pairs hn
    obtain ⟨f, hf⟩ := hms m hm
    exact ⟨f, hf.alike hkey.symm hnm.symm⟩
  refine ⟨cs, hcs, fun f => ?_⟩
  rw [mem_branches_iff hcs, mem_branches_iff hbs]
  constructor
  · rintro ⟨x, hx, n, hn, hf⟩
    obtain ⟨y, hy, hxy⟩ := h.symm.items hx
    obtain ⟨m, hm, hkey, hnm⟩ := hxy.pairs hn
    exact ⟨y, hy, m, hm, hf.alike hkey hnm⟩
  · rintro ⟨y, hy, m, hm, hf⟩
    obtain ⟨x, hx, hyx⟩ := h.items hy
    obtain ⟨n, hn, hkey, hmn⟩ := hyx.pairs hm
    exact ⟨x, hx, n, hn, hf.alike hkey hmn⟩

theorem Readable.alike {m n : String × Json} (h : Readable m) (hkey : n.1 = m.1)
    (halike : m.2.Alike n.2) : Readable n := by
  unfold Readable at h ⊢
  rw [hkey]
  by_cases hor : m.1 = "OR"
  · rw [if_pos hor] at h ⊢
    obtain ⟨entries, bs, hm, hbs⟩ := h
    rw [hm] at halike
    obtain ⟨others, hn⟩ := halike.exists_array
    rw [hn] at halike
    obtain ⟨cs, hcs, -⟩ := branches_alike halike hbs
    exact ⟨others, cs, hn, hcs⟩
  · rw [if_neg hor] at h ⊢
    obtain ⟨f, hf⟩ := h
    exact ⟨f, hf.alike hkey halike⟩

/-- A row that passes the calls of a clause passes those of an alike clause. -/
theorem admits_of_alike {ms ns : List (String × Json)} {clause other : Where}
    (h : (Json.object ms).Alike (.object ns)) (hclause : ofMembers empty ms = .ok clause)
    (hother : ofMembers empty ns = .ok other) {row : Row}
    (hrow : clause.admits .full row = true) : other.admits .full row = true := by
  obtain ⟨hsome, hall⟩ := admits_iff.1 hrow
  have hms := (Json.keysDistinct_object.1 h.left).1
  have hns := (Json.keysDistinct_object.1 h.right).1
  refine admits_iff.2 ⟨fun cs hcs => ?_, fun f hf hvoid => ?_⟩
  · cases hor : Fields.get? "OR" ms with
    | none =>
      rw [anyOf_of_none hother (h.get?_none hor)] at hcs
      simp [empty] at hcs
    | some d =>
      obtain ⟨e, he, halike⟩ := h.get?_some hor
      obtain ⟨bs, hbs, hany⟩ := anyOf_of_some hclause hms hor
      obtain ⟨cs', hcs', hany'⟩ := anyOf_of_some hother hns he
      obtain ⟨cs'', hcs'', hsame⟩ := branches_alike halike hbs
      obtain rfl := Except.ok.inj (hcs'.symm.trans hcs'')
      obtain rfl := Option.some.inj (hany'.symm.trans hcs)
      rcases hsome bs hany with rfl | ⟨f, hf, haccepts⟩
      · exact .inl (List.eq_nil_iff_forall_not_mem.2 fun f hf => by simpa using (hsame f).1 hf)
      · exact .inr ⟨f, (hsame f).2 hf, haccepts⟩
  · rcases (mem_fields_iff hother).1 hf with hempty | ⟨n, hn, hkey, hreads⟩
    · simp [empty] at hempty
    · obtain ⟨m, hm, hname, hnm⟩ := h.symm.pairs hn
      exact hall f ((mem_fields_iff hclause).2
        (.inr ⟨m, hm, hname ▸ hkey, hreads.alike hname hnm⟩)) hvoid

/-- Alike descriptors are both read, and their clauses admit the same rows. -/
theorem ofJson_alike {v w : Json} {clause : Where} (h : v.Alike w)
    (hv : ofJson v = .ok clause) :
    ∃ other, ofJson w = .ok other ∧
      ∀ row, other.admits .full row = clause.admits .full row := by
  cases v with
  | null =>
    cases w with
    | null => exact ⟨clause, hv, fun _ => rfl⟩
    | number n =>
      have hvalue := h.value
      rw [Value.ofJson, Value.ofJson] at hvalue
      rcases Value.ofNumber_cases n with ⟨i, hi⟩ | ⟨x, hx⟩ <;> simp_all
    | _ => simpa [Value.ofJson] using h.value
  | object ms =>
    obtain ⟨ns, rfl⟩ := h.exists_object
    obtain ⟨other, hother⟩ : ∃ other, ofMembers empty ns = .ok other := by
      refine exists_ofMembers_iff.2 fun n hn => ?_
      obtain ⟨m, hm, hkey, hnm⟩ := h.symm.pairs hn
      exact (exists_ofMembers_iff.1 ⟨clause, hv⟩ m hm).alike hkey.symm hnm.symm
    refine ⟨other, hother, fun row => Bool.eq_iff_iff.2 ⟨fun hrow => ?_, fun hrow => ?_⟩⟩
    · exact admits_of_alike h.symm hother hv hrow
    · exact admits_of_alike h hv hother hrow
  | _ => simp [ofJson] at hv

/-- **The order of the keys of a descriptor does not count**: reordered, it is read
again, and the clause admits the same rows. -/
theorem ofJson_reordered {v w : Json} {clause : Where} (h : v.Reordered w)
    (hd : v.KeysDistinct) (hv : ofJson v = .ok clause) :
    ∃ other, ofJson w = .ok other ∧
      ∀ row, other.admits .full row = clause.admits .full row :=
  ofJson_alike (h.alike hd) hv

end Where

end TabularQuery
