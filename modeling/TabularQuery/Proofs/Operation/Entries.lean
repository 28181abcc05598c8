import TabularQuery.Proofs.Filter.Clause
import TabularQuery.Proofs.Operation.Failure
import TabularQuery.Proofs.Operation.FindMany

/-!
# Entries of a disjunction with several columns

An entry of a disjunction is no conjunction: each of its columns is a branch of its own.  A
search with a disjunction gives the rows that meet one constraint of one entry, also where
they miss the others of that entry.  Only entries with one column are met as a whole.

## Main definitions

* `Json.disjunction` — the descriptor of a disjunction.
* `Row.MeetsEntry` — a row meets all constraints of an entry.
* `Backend.findMany_meets_one_constraint` — the rows that a disjunction gives.
-/

namespace TabularQuery

/-- The descriptor of a disjunction. -/
def Json.disjunction (entries : List Json) : Json :=
  .object [("OR", .array entries)]

/-- A row meets the constraints on all columns of an entry. -/
def Row.MeetsEntry (row : Row) (entry : Json) : Prop :=
  ∀ p ∈ entry.pairs, row.Meets p.1 p.2

/-- A row meets the constraint on one of the columns of one of some entries. -/
def Row.MeetsPart (row : Row) (entries : List Json) : Prop :=
  ∃ e ∈ entries, ∃ p ∈ e.pairs, row.Meets p.1 p.2

instance (row : Row) (entry : Json) : Decidable (row.MeetsEntry entry) :=
  inferInstanceAs (Decidable (∀ p ∈ entry.pairs, row.Meets p.1 p.2))

instance (row : Row) (entries : List Json) : Decidable (row.MeetsPart entries) :=
  inferInstanceAs (Decidable (∃ e ∈ entries, ∃ p ∈ e.pairs, row.Meets p.1 p.2))

/-- With one column in each entry, a part of an entry is the whole of it. -/
theorem Row.MeetsPart.exists_entry {row : Row} {entries : List Json} (h : row.MeetsPart entries)
    (hone : ∀ e ∈ entries, e.pairs.length = 1) : ∃ e ∈ entries, row.MeetsEntry e := by
  obtain ⟨e, he, p, hp, hmeets⟩ := h
  obtain ⟨q, hq⟩ := List.length_eq_one_iff.1 (hone e he)
  refine ⟨e, he, ?_⟩
  rw [hq, List.mem_singleton] at hp
  rw [Row.MeetsEntry, hq, List.forall_mem_singleton, ← hp]
  exact hmeets

/-- A clause that is a disjunction only admits the rows that meet a part of it. -/
theorem Where.admits_disjunction_iff {entries : List Json} {w : Where}
    (hw : Where.ofJson (.disjunction entries) = .ok w) (hentries : ∃ e ∈ entries, e.pairs ≠ [])
    (row : Row) : w.admits .full row = true ↔ row.MeetsPart entries := by
  have hmembers : ofMembers empty [("OR", .array entries)] = .ok w := hw
  obtain ⟨bs, hbs, hany⟩ := anyOf_of_some hmembers (by simp [Fields.names]) rfl
  have hfields : ∀ f, f ∉ w.fields := by
    intro f hf
    rcases (mem_fields_iff hmembers).1 hf with hempty | ⟨m, hm, hkey, -⟩
    · simp [empty] at hempty
    · rw [List.mem_singleton.1 hm] at hkey
      exact hkey rfl
  have hne : bs ≠ [] := by
    obtain ⟨e, he, hpairs⟩ := hentries
    intro hnil
    exact hpairs ((branches_eq_nil_iff hbs).1 hnil e he)
  rw [admits_iff, hany]
  simp only [Option.mem_some_iff, forall_eq', hne, false_or, exists_branch_accepts_iff hbs]
  exact and_iff_left fun f hf => absurd hf (hfields f)

theorem Where.admits_disjunction_eq {entries : List Json} {w : Where}
    (hw : Where.ofJson (.disjunction entries) = .ok w)
    (hentries : ∃ e ∈ entries, e.pairs ≠ []) :
    w.admits .full = fun row => decide (row.MeetsPart entries) := by
  funext row
  rw [Bool.eq_iff_iff, decide_eq_true_iff]
  exact admits_disjunction_iff hw hentries row

namespace Backend

variable {s : Store} {table : String}

/-- A search that gives rows has access to its table. -/
theorem allowed_of_findMany {args : FindMany} {records : List Record}
    (h : ((Store.backend.findMany table args).run s).result = .ok records) :
    table ∉ s.denied := by
  have hsends := Store.sends_sendFiltered .findMany .full args.filter (findManyQuery table args)
  obtain ⟨a, hanswered, -⟩ := hsends.bind (fun a => Session.keeps_normalizeAll a.records) h
  have hallowed : (findManyQuery table args).table ∉ s.denied := hanswered.allowed
  rwa [table_findManyQuery] at hallowed

/-- **A search with a disjunction gives the rows that meet one constraint of one entry.**
These rows meet the entry as a whole if the entries have one column each.  Without access to
the table the search fails. -/
theorem findMany_meets_one_constraint {entries : List Json} (args : FindMany)
    (hw : Where.ofJson (.disjunction entries) = .ok args.filter)
    (hentries : ∃ e ∈ entries, e.pairs ≠ []) (htake : args.page.take = some 0) :
    let result := ((Store.backend.findMany table args).run s).result
    (table ∈ s.denied → ∃ f, result = .error f) ∧
      (table ∉ s.denied → ∃ rows : List Row,
        result = .ok (rows.map fun row =>
          (row.selected args.select args.relations).record.normalize) ∧
        rows.Perm ((s.rows table).filter fun row => decide (row.MeetsPart entries)) ∧
        ((∀ e ∈ entries, e.pairs.length = 1) →
          ∀ row ∈ rows, ∃ e ∈ entries, row.MeetsEntry e)) := by
  intro result
  constructor
  · intro ht
    cases hresult : result with
    | error f => exact ⟨f, rfl⟩
    | ok records => exact absurd ht (allowed_of_findMany hresult)
  · intro ht
    obtain ⟨_, hends, -⟩ := ends_findMany_whole (s := s) args ht htake
    have hperm : (s.found table .full args.filter args.order.terms).Perm
        ((s.rows table).filter fun row => decide (row.MeetsPart entries)) := by
      rw [Store.found, Where.admits_disjunction_eq hw hentries]
      exact sortBy_perm _ _
    refine ⟨_, hends.result_eq, hperm, fun hone row hrow => ?_⟩
    have hpart := (List.mem_filter.1 (hperm.subset hrow)).2
    exact (of_decide_eq_true hpart).exists_entry hone

/-- The first row meets one of the two constraints of an entry, the last row an entry with one
constraint. -/
theorem findMany_meets_first_and_last :
    let first : Row := [("kind", .text "a"), ("size", .number (.integer 1))]
    let last : Row := [("kind", .text "c"), ("size", .number (.integer 3))]
    let other : Row := [("kind", .text "b"), ("size", .number (.integer 2))]
    let s : Store := { tables := [("items", [first, other, last])], ids := fun _ => "new" }
    let entries : List Json :=
      [.object [("kind", .text "a"), ("size", .number (.integer 9))],
        .object [("size", .object [("gte", .number (.integer 3))])]]
    ∃ w, Where.ofJson (.disjunction entries) = .ok w ∧ (∃ e ∈ entries, e.pairs ≠ []) ∧
      ∃ rows : List Row, rows.Perm [first, last] ∧
        ((Store.backend.findMany "items" { filter := w, page := { take := some 0 } }).run
          s).result = .ok (rows.map fun row => (row.selected none none).record.normalize) := by
  intro first last other s entries
  obtain ⟨w, hw⟩ : ∃ w, Where.ofJson (.disjunction entries) = .ok w := ⟨_, rfl⟩
  have hentries : ∃ e ∈ entries, e.pairs ≠ [] := ⟨_, List.mem_cons_self, by simp [Json.pairs]⟩
  have hfilter : (s.rows "items").filter (fun row => decide (row.MeetsPart entries)) =
      [first, last] := by rfl
  refine ⟨w, hw, hentries, ?_⟩
  have ht : "items" ∉ s.denied := List.not_mem_nil
  obtain ⟨rows, hresult, hperm, -⟩ :=
    (findMany_meets_one_constraint { filter := w, page := { take := some 0 } } hw hentries
      rfl).2 ht
  rw [hfilter] at hperm
  exact ⟨rows, hperm, hresult⟩

/-- An entry with two columns gives a row that meets only one of the two constraints. -/
theorem findMany_gives_part_of_entry :
    let row : Row := [("kind", .text "a"), ("size", .number (.integer 2))]
    let s : Store := { tables := [("items", [row])], ids := fun _ => "new" }
    let entry : Json := .object [("kind", .text "a"), ("size", .number (.integer 1))]
    ∃ w, Where.ofJson (.disjunction [entry]) = .ok w ∧
      ((Store.backend.findMany "items" { filter := w, page := { take := some 0 } }).run
        s).result = .ok [row.record.normalize] ∧
      ¬ row.MeetsEntry entry := by
  intro row s entry
  obtain ⟨w, hw⟩ : ∃ w, Where.ofJson (.disjunction [entry]) = .ok w := ⟨_, rfl⟩
  have hfilter : (s.rows "items").filter (w.admits .full) = [row] := by
    rw [Where.admits_disjunction_eq hw ⟨_, List.mem_cons_self, by simp [entry, Json.pairs]⟩]
    rfl
  have hall (row : Row) : row.selected none none = row := Row.selected_all row none (by simp)
  have hallowed : "items" ∉ s.denied := List.not_mem_nil
  obtain ⟨_, hends⟩ := ends_findMany { filter := w, page := { take := some 0 } } hallowed rfl rfl
  simp only [hfilter, List.map_singleton, hall] at hends
  refine ⟨w, hw, hends.result_eq, ?_⟩
  decide +kernel

end Backend

end TabularQuery
