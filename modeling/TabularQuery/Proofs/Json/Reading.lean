import TabularQuery.Json.Source
import TabularQuery.Proofs.Except
import TabularQuery.Proofs.Json.KeyOrder

/-!
# Keys of a value that is read

A key that comes again in the text of an object takes the place of the first, so a value
that is read has every key once.

## Main definitions

* `Json.Source.Distinct` — trees whose finished parts have every key once.
* `Json.keysDistinct_read` — a value that is read has every key once.
-/

namespace TabularQuery

namespace Json

namespace Source

mutual

/-- The parts of a tree that are values already have every key once. -/
def Distinct : Source → Prop
  | list items _ => DistinctItems items
  | object members _ => DistinctMembers members
  | value v => v.KeysDistinct
  | _ => True

/-- The same of items. -/
def DistinctItems : List Source → Prop
  | [] => True
  | s :: rest => Distinct s ∧ DistinctItems rest

/-- The same of members. -/
def DistinctMembers : List (QuotedText × Source) → Prop
  | [] => True
  | (_, s) :: rest => Distinct s ∧ DistinctMembers rest

end

mutual

/-- The value of a tree has every key once. -/
theorem keysDistinct_toJson {depth : Nat} {s : Source} {v : Json} (hs : s.Distinct)
    (h : s.toJson depth = .ok v) : v.KeysDistinct := by
  cases s with
  | null | bool b =>
    obtain rfl := Except.ok.inj h
    simp [KeysDistinct]
  | number n =>
    obtain ⟨x, -, rfl⟩ := Except.map_eq_ok_iff.1 h
    simp [KeysDistinct]
  | text t =>
    obtain ⟨x, -, rfl⟩ := Except.map_eq_ok_iff.1 h
    simp [KeysDistinct]
  | list items ending =>
    rw [toJson] at h
    split at h
    · simp at h
    · obtain ⟨vs, hvs, h⟩ := Except.bind_eq_ok_iff.1 h
      cases ending with
      | closed =>
        obtain rfl := Except.ok.inj h
        exact keysDistinct_array.2 (keysDistinct_toJsonItems hs hvs)
      | broken b => simp at h
  | object members ending =>
    rw [toJson] at h
    split at h
    · simp at h
    · obtain ⟨vs, hvs, h⟩ := Except.bind_eq_ok_iff.1 h
      cases ending with
      | closed =>
        obtain rfl := Except.ok.inj h
        refine keysDistinct_toJsonMembers hs (keysDistinct_object.2 ?_) hvs
        simp [Fields.names]
      | broken b => simp at h
  | value w =>
    obtain rfl := Except.ok.inj h
    exact hs
  | broken b => simp [toJson] at h

/-- The same of items. -/
theorem keysDistinct_toJsonItems {depth : Nat} {items : List Source} {vs : List Json}
    (hs : DistinctItems items) (h : toJsonItems depth items = .ok vs) :
    ∀ v ∈ vs, v.KeysDistinct := by
  cases items with
  | nil =>
    obtain rfl := Except.ok.inj h
    simp
  | cons s rest =>
    obtain ⟨v, hv, h⟩ := Except.bind_eq_ok_iff.1 h
    obtain ⟨ws, hws, h⟩ := Except.bind_eq_ok_iff.1 h
    obtain rfl := Except.ok.inj h
    exact List.forall_mem_cons.2
      ⟨keysDistinct_toJson hs.1 hv, keysDistinct_toJsonItems hs.2 hws⟩

/-- The same of members, put after those that are there. -/
theorem keysDistinct_toJsonMembers {depth : Nat} {members : List (QuotedText × Source)}
    {done ms : List (String × Json)} (hs : DistinctMembers members)
    (hdone : (Json.object done).KeysDistinct) (h : toJsonMembers depth done members = .ok ms) :
    (Json.object ms).KeysDistinct := by
  cases members with
  | nil =>
    obtain rfl := Except.ok.inj h
    exact hdone
  | cons m rest =>
    obtain ⟨key, s⟩ := m
    obtain ⟨k, -, h⟩ := Except.bind_eq_ok_iff.1 h
    obtain ⟨v, hv, h⟩ := Except.bind_eq_ok_iff.1 h
    obtain ⟨hnames, hvalues⟩ := keysDistinct_object.1 hdone
    refine keysDistinct_toJsonMembers hs.2 (keysDistinct_object.2 ⟨?_, fun f hf => ?_⟩) h
    · exact Fields.nodup_put hnames
    · rcases Fields.mem_put hf with rfl | hmem
      · exact keysDistinct_toJson hs.1 hv
      · exact hvalues f hmem

end

/-! ## Trees of texts -/

/-- The trees that are scanned have no finished parts. -/
theorem distinct_scan (fuel : Nat) :
    (∀ s, (scanValue fuel s).1.Distinct) ∧
      (∀ first s, DistinctItems (scanItems fuel first s).1) ∧
      ∀ first s, DistinctMembers (scanMembers fuel first s).1 := by
  induction fuel with
  | zero =>
    exact ⟨fun _ => trivial, fun _ _ => trivial, fun _ _ => trivial⟩
  | succ fuel ih =>
    obtain ⟨ihvalue, ihitems, ihmembers⟩ := ih
    have hvalue {s v r} (h : scanValue fuel s = (v, r)) : v.Distinct := by
      have hv := ihvalue s
      rwa [h] at hv
    refine ⟨fun s => ?_, fun first s => ?_, fun first s => ?_⟩
    · rw [scanValue]
      dsimp only
      repeat' split
      all_goals first
        | trivial
        | exact ihitems _ _
        | exact ihmembers _ _
    · rw [scanItems]
      dsimp only
      repeat' split
      all_goals first
        | trivial
        | exact ⟨hvalue ‹_›, trivial⟩
        | exact ⟨hvalue ‹_›, ihitems _ _⟩
    · rw [scanMembers]
      dsimp only
      repeat' split
      all_goals first
        | trivial
        | exact ⟨trivial, trivial⟩
        | exact ⟨hvalue ‹_›, trivial⟩
        | exact ⟨hvalue ‹_›, ihmembers _ _⟩

theorem distinct_of_scan (s : List Char) : (scan s).1.Distinct := by
  have hvalue := (distinct_scan (2 * s.length + 2)).1 s
  rw [scan]
  split <;> rename_i heq <;> rwa [heq] at hvalue

end Source

/-- **A value that is read from a text has every key once.** -/
theorem keysDistinct_read {s : String} {v : Json} (h : read s = .ok v) : v.KeysDistinct := by
  have hscan := Source.distinct_of_scan s.toList
  generalize hscanned : Source.scan s.toList = scanned at hscan
  obtain ⟨source, more⟩ := scanned
  rw [read, hscanned] at h
  obtain ⟨w, hw, h⟩ := Except.bind_eq_ok_iff.1 h
  cases more with
  | true => simp at h
  | false =>
    obtain rfl := Except.ok.inj h
    exact Source.keysDistinct_toJson hscan hw

end Json

end TabularQuery
