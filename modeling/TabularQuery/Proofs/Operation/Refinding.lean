import TabularQuery.Proofs.Filter.Fallback
import TabularQuery.Proofs.Operation.Convergence
import TabularQuery.Proofs.Operation.Creation
import TabularQuery.Proofs.Operation.FindMany
import TabularQuery.Proofs.Store.Chronology
import TabularQuery.Proofs.Value.Kept

/-!
# Rows that are found by the values that were read

A value that was read goes back into a filter as a text, and there the text of its cell is
compared with it.  Both texts of a number denote the number, also of an integer beyond 64
signed bits, which is read as a float.  Other texts are compared by their characters: that of
an instant is the text in its stored form, and those of lists and objects are JSON texts.
So a row is found by the values of its columns unless a temporal text has another form, or a
list or an object has something that a column value does not keep.

## Main definitions

* `Json.FoundAgain` — the cells that are found by the value that is read from them.
* `Json.compareTexts_readBack_iff` — these and no others.
* `Backend.findMany_finds_again` — searches for the values of the rows of a search.
-/

namespace TabularQuery

/-! ## Texts -/

/-- Two texts of one number are equal. -/
theorem compareTexts_of_read? {a b : List Char} {x : Binary64} (ha : Binary64.read? a = some x)
    (hb : Binary64.read? b = some x) : compareTexts a b = .eq := by
  have hself := compareTexts_self a
  rw [compareTexts, ha] at hself
  rw [compareTexts, ha, hb]
  exact hself

namespace Json

/-- The text of a list has a bracket, -/
theorem read?_compact_array (items : List Json) :
    Binary64.read? (compact (array items)) = none := by
  have hbracket : '[' ∈ compact (array items) := by
    cases items <;> exact List.mem_cons_self
  exact Binary64.read?_eq_none hbracket rfl

/-- and that of an object a brace. -/
theorem read?_compact_object (members : List (String × Json)) :
    Binary64.read? (compact (object members)) = none := by
  have hbrace : '\x7b' ∈ compact (object members) := by
    cases members <;> exact List.mem_cons_self
  exact Binary64.read?_eq_none hbrace rfl

/-! ## Cells -/

/-- The cells that are found by the value that is read from them in a column: an instant in
its stored form, a list or an object that a column value keeps, and everything else. -/
def FoundAgain (column : String) : Json → Prop
  | text s => column ∈ Record.temporalColumns →
      ∀ t, Instant.read? s.toList = some t → s.toList = t.text
  | array items => Kept (array items)
  | object members => Kept (object members)
  | _ => True

end Json

namespace Json

variable {column : String} {cell : Json}

/-- A number is equal to itself in the text of a cell and in that of a filter. -/
theorem compareTexts_ofNumber {x : JsonNumber} (h : x.InRange) :
    compareTexts (numberText x) (Value.ofNumber x).plain = .eq := by
  cases x with
  | integer i =>
    rw [Value.ofNumber]
    split
    · exact compareTexts_self _
    · exact compareTexts_of_read? (Binary64.read?_integer h.natAbs_lt)
        (Binary64.read?_plain (Binary64.proper_ofInt h.natAbs_lt))
  | real x => exact compareTexts_of_read? (Binary64.read?_json h) (Binary64.read?_plain h)

/-- A text is equal to the value that is read from it unless that is an instant in another
form. -/
theorem compareTexts_ofText_iff (s : String) :
    compareTexts s.toList ((Value.text s).readBack column).plain = .eq ↔
      (text s).FoundAgain column := by
  by_cases hcolumn : column ∈ Record.temporalColumns
  · simp only [Value.readBack, hcolumn, if_true, FoundAgain, true_implies]
    cases hread : Instant.read? s.toList with
    | some t =>
      simp only [Value.dated, hread, Value.plain, Option.some.injEq, forall_eq']
      exact compareTexts_eq_iff (.inr t.read?_text_eq_none)
    | none =>
      simp only [Value.dated, hread, Value.plain, reduceCtorEq, false_implies, implies_true,
        iff_true]
      exact compareTexts_self _
  · simp only [Value.readBack, hcolumn, if_false, FoundAgain, false_implies, iff_true]
    exact compareTexts_self _

/-- **A cell is equal to the value that is read from it** if it is found again, and only
then. -/
theorem compareTexts_readBack_iff (h : cell.InRange) {t : List Char}
    (ht : Cell.text? cell = some t) :
    compareTexts t ((Value.ofJson cell).readBack column).plain = .eq ↔
      cell.FoundAgain column := by
  cases cell with
  | null => cases ht
  | bool b =>
    obtain rfl := Option.some.inj ht
    rw [Value.ofJson, Value.readBack_of_asText?_eq_none rfl]
    refine iff_of_true ?_ trivial
    cases b <;> exact compareTexts_self _
  | number x =>
    obtain rfl := Option.some.inj ht
    have hvalue : (Value.ofNumber x).asText? = none := by
      rcases Value.ofNumber_cases x with ⟨i, hi⟩ | ⟨y, hy⟩
      · rw [hi]
        rfl
      · rw [hy]
        rfl
    rw [Value.ofJson, Value.readBack_of_asText?_eq_none hvalue]
    exact iff_of_true (compareTexts_ofNumber h) trivial
  | text s =>
    obtain rfl := Option.some.inj ht
    exact compareTexts_ofText_iff s
  | array items =>
    obtain rfl := Option.some.inj ht
    rw [Value.readBack_of_asText?_eq_none rfl, FoundAgain, ← Value.compact_ofJson_iff h,
      compareTexts_eq_iff (.inl (read?_compact_array items))]
    exact eq_comm
  | object members =>
    obtain rfl := Option.some.inj ht
    rw [Value.readBack_of_asText?_eq_none rfl, FoundAgain, ← Value.compact_ofJson_iff h,
      compareTexts_eq_iff (.inl (read?_compact_object members))]
    exact eq_comm

end Json

/-! ## Rows -/

/-- A row of a table: no column twice, and the numbers in its cells are numbers of JSON. -/
structure Row.Proper (row : Row) : Prop where
  columns : (Fields.names row).Nodup
  cells : ∀ f ∈ row, f.2.InRange

/-- The equality of a column with a value asks for the text of its cell. -/
theorem Where.admits_eq_iff {row : Row} {column : String} {v : Value} (hnull : v.isNull = false) :
    (Where.empty.eq column v).admits .full row = true ↔
      ∃ t ∈ row.cell? column, compareTexts t v.plain = .eq := by
  have hvoid : (Constraint.literal v).isVoid = false := by
    cases v with
    | null => cases hnull
    | _ => rfl
  have hfields : (Where.empty.eq column v).fields = [(column, .literal v)] := rfl
  have hbranches : (Where.empty.eq column v).anyOf = none := rfl
  have hcall : (Constraint.literal v).call column = .compare .eq column v := rfl
  rw [admits_iff, hfields, hbranches, List.forall_mem_singleton, hcall,
    FilterCall.accepts_compare_iff]
  simp [hvoid, Comparison.holds]

/-- The columns of a row are read back from its cells. -/
theorem Row.get?_normalize_record {row : Row} (h : (Fields.names row).Nodup) (column : String) :
    Fields.get? column row.record.normalize =
      (Fields.get? column row).map fun cell => (Value.ofJson cell).readBack column := by
  rw [Record.get?_normalize, Row.get?_record h, Option.map_map]
  rfl

/-- A row passes the search for a value that was read from it if its cell is found again. -/
theorem Row.Proper.admits_eq_iff {row : Row} (h : row.Proper) {column : String} {v : Value}
    (hv : Fields.get? column row.record.normalize = some v) (hnull : v.isNull = false) :
    (Where.empty.eq column v).admits .full row = true ↔
      ∃ cell ∈ Fields.get? column row, cell.FoundAgain column := by
  rw [Row.get?_normalize_record h.columns, Option.map_eq_some_iff] at hv
  obtain ⟨cell, hcell, rfl⟩ := hv
  obtain ⟨t, ht⟩ : ∃ t, Cell.text? cell = some t := by
    cases cell with
    | null =>
      rw [Value.readBack_of_asText?_eq_none rfl] at hnull
      cases hnull
    | _ => exact ⟨_, rfl⟩
  have htext : row.cell? column = some t := by
    rw [Row.cell?, hcell, Option.bind_some, ht]
  have hcompare : compareTexts t ((Value.ofJson cell).readBack column).plain = .eq ↔
      cell.FoundAgain column :=
    Json.compareTexts_readBack_iff (h.cells _ (Fields.mem_of_get? hcell)) ht
  rw [Where.admits_eq_iff hnull, htext, hcell]
  simpa using hcompare

namespace Backend

variable {s : Store} {table : String}

/-- A search without a window and without a selection gives the records of rows of the table. -/
theorem result_findMany (args : FindMany) (ht : table ∉ s.denied)
    (htake : args.page.take = some 0) (hall : ∀ columns ∈ args.select, columns.isEmpty = true) :
    ((Store.backend.findMany table args).run s).result =
      .ok ((s.found table .full args.filter args.order.terms).map fun row =>
        row.record.normalize) := by
  obtain ⟨t, hends, -⟩ := ends_findMany_whole (s := s) args ht htake
  rw [hends.result_eq]
  simp only [Row.selected_all _ _ hall]

/-- A search for a value after it gives the rows of the table that have the value. -/
theorem result_findMany_later (args : FindMany) (ht : table ∉ s.denied)
    (htake : args.page.take = some 0) (column : String) (v : Value) :
    ((Store.backend.findMany table
      { filter := Where.empty.eq column v, page := { take := some 0 } }).run
        ((Store.backend.findMany table args).run s).state).result =
      .ok (((s.rows table).filter ((Where.empty.eq column v).admits .full)).map fun row =>
        row.record.normalize) := by
  obtain ⟨t, hends, hdenied, hsame⟩ := ends_findMany_whole (s := s) args ht htake
  have hlater := result_findMany (s := t)
    { filter := Where.empty.eq column v, page := { take := some 0 } } (hdenied ▸ ht) rfl (by simp)
  rw [hends.state_eq, hlater, Store.found_nil, hsame]

/-- **A value that was read finds its row again, if its cell keeps its form.**  For each row
that a search gives and each column of it with a value, the search for this value gives rows
of the table in their order; the row is among them exactly if its cell is found again. -/
theorem findMany_finds_again (args : FindMany) (ht : table ∉ s.denied)
    (htake : args.page.take = some 0) (hall : ∀ columns ∈ args.select, columns.isEmpty = true)
    (hrows : ∀ row ∈ s.rows table, row.Proper) :
    let first := (Store.backend.findMany table args).run s
    ∃ rows : List Row, rows ⊆ s.rows table ∧
      first.result = .ok (rows.map fun row => row.record.normalize) ∧
      ∀ row ∈ rows, ∀ column v, Fields.get? column row.record.normalize = some v →
        v.isNull = false →
        ∃ found : List Row, found.Sublist (s.rows table) ∧
          ((Store.backend.findMany table
            { filter := Where.empty.eq column v, page := { take := some 0 } }).run
              first.state).result = .ok (found.map fun row => row.record.normalize) ∧
          (row ∈ found ↔ ∃ cell ∈ Fields.get? column row, cell.FoundAgain column) := by
  intro first
  have hsubset : s.found table .full args.filter args.order.terms ⊆ s.rows table := by
    intro row hrow
    have hmem := (sortBy_perm _ _).subset hrow
    exact (List.mem_filter.1 hmem).1
  refine ⟨_, hsubset, result_findMany args ht htake hall, fun row hrow column v hv hnull => ?_⟩
  refine ⟨(s.rows table).filter ((Where.empty.eq column v).admits .full), List.filter_sublist,
    result_findMany_later args ht htake column v, ?_⟩
  rw [List.mem_filter, and_iff_right (hsubset hrow)]
  exact (hrows row (hsubset hrow)).admits_eq_iff hv hnull

/-- An integer beyond 64 signed bits, which comes back as a float, finds its row, and a date
without a clock reading does not. -/
theorem findMany_finds_large_integer :
    let row : Row := [("id", .text "1"), ("due_date", .text "2024-05-01"),
      ("size", .number (.integer 18446744073709551615))]
    let s : Store := { tables := [("items", [row])], ids := fun _ => "new" }
    let args : FindMany := { page := { take := some 0 } }
    let first := (Store.backend.findMany "items" args).run s
    let search (column : String) (v : Value) := ((Store.backend.findMany "items"
      { filter := Where.empty.eq column v, page := { take := some 0 } }).run first.state).result
    "items" ∉ s.denied ∧ args.page.take = some 0 ∧
      (∀ columns ∈ args.select, columns.isEmpty = true) ∧
      (∀ row ∈ s.rows "items", row.Proper) ∧
      (∃ found : List Row, row ∈ found ∧
        search "size" (.float (.ofInt 18446744073709551615)) =
          .ok (found.map fun row => row.record.normalize)) ∧
      ∃ found : List Row, row ∉ found ∧
        search "due_date" (.timestamp ⟨1714521600, 0⟩) =
          .ok (found.map fun row => row.record.normalize) := by
  intro row s args first search
  have ht : "items" ∉ s.denied := List.not_mem_nil
  have hall : ∀ columns ∈ args.select, columns.isEmpty = true := by simp [args]
  have hproper : ∀ row ∈ s.rows "items", row.Proper := by
    refine List.forall_mem_singleton.2 ⟨by decide, ?_⟩
    simp [row, Json.InRange, JsonNumber.InRange, JsonNumber.fitsUnsigned]
  obtain ⟨rows, hsubset, hfirst, hfinds⟩ :=
    findMany_finds_again args ht rfl hall hproper
  have hrow : row ∈ rows := by
    have hresult := result_findMany args ht rfl hall
    have hadmitted : s.found "items" .full args.filter args.order.terms = [row] := rfl
    have hlength : rows.length = 1 := by
      simpa [hadmitted] using congrArg List.length (Except.ok.inj (hfirst.symm.trans hresult))
    obtain ⟨other, rfl⟩ := List.length_eq_one_iff.1 hlength
    rw [List.mem_singleton.1 (hsubset List.mem_cons_self)]
    exact List.mem_cons_self
  have hdate : Instant.read? "2024-05-01".toList = some ⟨1714521600, 0⟩ := by decide +kernel
  have hother : "2024-05-01".toList ≠ (Instant.mk 1714521600 0).text := by decide +kernel
  have hcolumns : (Fields.names row).Nodup := by decide
  refine ⟨ht, rfl, hall, hproper, ?_, ?_⟩
  · have hsize : Fields.get? "size" row.record.normalize =
        some (.float (.ofInt 18446744073709551615)) :=
      Row.get?_normalize_record hcolumns "size"
    obtain ⟨found, -, hfound, hiff⟩ := hfinds row hrow "size" _ hsize rfl
    exact ⟨found, hiff.2 ⟨_, rfl, trivial⟩, hfound⟩
  · have hread : (Value.text "2024-05-01").readBack "due_date" = .timestamp ⟨1714521600, 0⟩ := by
      simp only [Value.readBack, Value.dated, hdate]
      exact if_pos (by decide)
    have hdue : Fields.get? "due_date" row.record.normalize =
        some (.timestamp ⟨1714521600, 0⟩) := by
      rw [Row.get?_normalize_record hcolumns, ← hread]
      rfl
    obtain ⟨found, -, hfound, hiff⟩ := hfinds row hrow "due_date" _ hdue rfl
    refine ⟨found, fun hmem => ?_, hfound⟩
    obtain ⟨cell, hcell, hagain⟩ := hiff.1 hmem
    obtain rfl := Option.some.inj hcell
    exact hother (hagain (by decide) _ hdate)

/-- An object in a list comes back with its members in the order of their names, and is not
found by it when they were stored in another order. -/
theorem findMany_misses_reordered :
    let cell : Json :=
      .array [.object [("b", .number (.integer 1)), ("a", .number (.integer 2))]]
    let row : Row := [("id", .text "1"), ("meta", cell)]
    let s : Store := { tables := [("items", [row])], ids := fun _ => "new" }
    let v : Value := .array [.object [("a", .int 2), ("b", .int 1)]]
    let first := (Store.backend.findMany "items" { page := { take := some 0 } }).run s
    first.result = .ok [row.record.normalize] ∧
      Fields.get? "meta" row.record.normalize = some v ∧ v.isNull = false ∧
      ((Store.backend.findMany "items"
        { filter := Where.empty.eq "meta" v, page := { take := some 0 } }).run
          first.state).result = .ok [] := by
  intro cell row s v first
  let args : FindMany := { page := { take := some 0 } }
  have ht : "items" ∉ s.denied := List.not_mem_nil
  have hadmitted : s.found "items" .full args.filter args.order.terms = [row] := rfl
  have hrejected : ¬ (Where.empty.eq "meta" v).admits .full row = true := by decide +kernel
  have hrows : s.rows "items" = [row] := rfl
  have hread : Fields.get? "meta" row.record.normalize = some v :=
    Row.get?_normalize_record (by decide) "meta"
  refine ⟨?_, hread, rfl, ?_⟩
  · have hresult := result_findMany args ht rfl (by simp [args])
    rwa [hadmitted] at hresult
  · have hlater := result_findMany_later args ht rfl "meta" v
    rwa [hrows, List.filter_cons_of_neg hrejected] at hlater

end Backend

end TabularQuery
