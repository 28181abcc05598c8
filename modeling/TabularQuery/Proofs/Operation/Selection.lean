import TabularQuery.Proofs.Operation.Creation
import TabularQuery.Proofs.Operation.FindMany
import TabularQuery.Proofs.Text.Pieces

/-!
# Selected columns

The selected columns and the related rows are sent as one text with commas, which a store
takes apart again.  It finds the names that were put in, if each of them stands for itself
there, and passes over the related rows by their brackets.  The columns are left out of the
rows at the end, after the filter, the order and the window.  So a search with a selection
gives the records of the search without one, each with the selected columns only.

## Main definitions

* `Text.mem_trim` — what stays when the ends of a text are cut off.
* `Selection.Plain`, `Selection.Separable` — names that a store tells apart.
* `Row.selected_eq_filter` — the columns of a row that are selected.
* `Record.restrict` — a record with some of its columns.
* `Backend.findMany_restricts` — a search with a selection and the one without.
-/

namespace TabularQuery

/-! ## The ends of a text -/

namespace Text

variable {c : Char} {s : List Char}

theorem mem_dropWhile {p : Char → Bool} (h : c ∈ s) (hc : p c = false) :
    c ∈ s.dropWhile p := by
  rw [← List.takeWhile_append_dropWhile (p := p) (l := s)] at h
  refine (List.mem_append.1 h).resolve_left fun htake => ?_
  rw [List.mem_takeWhile_imp htake] at hc
  cases hc

/-- Only blanks are cut off at the ends of a text. -/
theorem mem_trim (h : c ∈ s) (hc : isBlank c = false) : c ∈ trim s := by
  have hleft : c ∈ trimLeft s := mem_dropWhile h hc
  exact List.mem_reverse.2 (mem_dropWhile (List.mem_reverse.2 hleft) hc)

end Text

/-! ## Lists of columns -/

/-- The names in pieces without commas that were put together with commas. -/
theorem columnNames_join {pieces : List (List Char)} (hne : pieces ≠ [])
    (h : ∀ piece ∈ pieces, ',' ∉ piece) :
    columnNames (String.ofList (Text.join [','] pieces)) =
      (pieces.map Text.trim).filter fun c => !c.contains '(' := by
  rw [columnNames, String.toList_ofList, Text.splitOn_join hne h]

namespace Selection

/-- A name that stands for itself in a list of columns: it is not taken for several names, for
related rows or for all columns, and it has no blanks at its ends. -/
structure Plain (name : String) : Prop where
  comma : ',' ∉ name.toList
  bracket : '(' ∉ name.toList
  blanks : Text.trim name.toList = name.toList
  star : name ≠ "*"

/-- Columns and related rows that are told apart in one list: columns that stand for
themselves, at least one, and related rows without commas in their names. -/
structure Separable (columns : Selection) (relations : Option Selection) : Prop where
  filled : columns.isEmpty = false
  names : ∀ name ∈ columns.names, Plain name
  related : ∀ related ∈ relations, ∀ name ∈ related.names, ',' ∉ name.toList

/-- The names of columns pass as they are, -/
theorem filter_trim_columns {names : List String} (h : ∀ name ∈ names, Plain name) :
    (((names.map String.toList).map Text.trim).filter fun c => !c.contains '(') =
      names.map String.toList := by
  have hkept : (names.map String.toList).map Text.trim = names.map String.toList := by
    rw [List.map_map]
    exact List.map_congr_left fun name hname => (h name hname).blanks
  rw [hkept, List.filter_eq_self]
  intro piece hpiece
  obtain ⟨name, hname, rfl⟩ := List.mem_map.1 hpiece
  simpa using (h name hname).bracket

/-- and those of related rows are passed over for their brackets. -/
theorem filter_trim_related (relations : List String) :
    ((((relations.map (· ++ "(*)")).map String.toList).map Text.trim).filter fun c =>
      !c.contains '(') = [] := by
  rw [List.filter_eq_nil_iff, List.map_map, List.map_map]
  intro piece hpiece
  obtain ⟨relation, -, rfl⟩ := List.mem_map.1 hpiece
  have hbracket : '(' ∈ Text.trim (relation ++ "(*)").toList := by
    rw [String.toList_append]
    exact Text.mem_trim (List.mem_append_right _ (by decide)) (by decide)
  simpa using hbracket

variable {columns : Selection} {relations : Option Selection}

theorem Separable.comma (h : columns.Separable relations) :
    ∀ piece ∈ (columns.names ++ (relations.getD {}).names.map (· ++ "(*)")).map String.toList,
      ',' ∉ piece := by
  intro piece hpiece
  obtain ⟨name, hname, rfl⟩ := List.mem_map.1 hpiece
  rcases List.mem_append.1 hname with hname | hname
  · exact (h.names name hname).comma
  · obtain ⟨relation, hrelation, rfl⟩ := List.mem_map.1 hname
    have hfree : ',' ∉ relation.toList := by
      cases relations with
      | none => cases hrelation
      | some related => exact h.related related rfl relation hrelation
    rw [String.toList_append, List.mem_append, not_or]
    exact ⟨hfree, by decide⟩

/-- **A store finds the selected columns again**, and no related rows among them. -/
theorem columnNames_columnList (h : columns.Separable relations) :
    columnNames (columnList (some columns) relations) = columns.names.map String.toList := by
  have hfilled : columns.names ≠ [] := by
    intro hnil
    have hfilled := h.filled
    rw [isEmpty, hnil] at hfilled
    cases hfilled
  have hpieces : (columns.names ++ (relations.getD {}).names.map (· ++ "(*)")).map
      String.toList ≠ [] := by
    simp [hfilled]
  rw [columnList]
  simp only [h.filled, Bool.false_eq_true, if_false]
  rw [columnNames_join hpieces h.comma, List.map_append, List.map_append, List.filter_append,
    filter_trim_columns h.names, filter_trim_related, List.append_nil]

end Selection

/-! ## Rows and records -/

/-- A record with those of its columns that are in a list of names. -/
def Record.restrict (names : List String) (r : Record) : Record :=
  r.filter fun f => names.contains f.1

/-- Its temporal columns are read as they are in the whole record. -/
theorem Record.normalize_restrict {r : Record} (h : Fields.Ordered r) (names : List String) :
    (r.restrict names).normalize = r.normalize.restrict names := by
  refine Fields.Ordered.ext (ordered_normalize (List.Pairwise.filter _ h))
    (List.Pairwise.filter _ (ordered_normalize h)) fun column => ?_
  rw [get?_normalize, restrict, restrict, Fields.get?_filter, Fields.get?_filter, get?_normalize]
  split <;> rfl

namespace Row

variable {columns : Selection} {relations : Option Selection}

/-- The columns of a row that are selected, in the sequence of the row. -/
theorem selected_eq_filter (row : Row) (h : columns.Separable relations) :
    row.selected (some columns) relations = row.filter fun f => columns.names.contains f.1 := by
  have hmem (name : String) : (columns.names.map String.toList).contains name.toList =
      columns.names.contains name := by
    rw [Bool.eq_iff_iff, List.contains_iff_mem, List.contains_iff_mem, List.mem_map]
    simp only [String.toList_inj, exists_eq_right]
  have hstar : (columns.names.map String.toList).contains ['*'] = false := by
    have hnone : "*" ∉ columns.names := fun hmem => (h.names "*" hmem).star rfl
    rw [← Bool.not_eq_true, List.contains_iff_mem, show ['*'] = "*".toList from rfl,
      List.mem_map]
    simpa only [String.toList_inj, exists_eq_right] using hnone
  rw [selected, project]
  simp only [Selection.columnNames_columnList h, hstar, hmem, Bool.false_eq_true, if_false]

/-- Taking columns out of a row takes them out of its record. -/
theorem record_filter (row : Row) (names : List String) :
    Row.record (row.filter fun f => names.contains f.1) = row.record.restrict names := by
  have hmembers : Value.ofJsonMembers (row.filter fun f => names.contains f.1) =
      (Value.ofJsonMembers row).filter fun f => names.contains f.1 := by
    rw [Value.ofJsonMembers_eq_map, Value.ofJsonMembers_eq_map, List.filter_map]
    rfl
  rw [record, hmembers, Fields.sorted_filter]
  rfl

/-- The record of the selected columns that is read. -/
theorem normalize_record_selected (row : Row) (h : columns.Separable relations) :
    (row.selected (some columns) relations).record.normalize =
      row.record.normalize.restrict columns.names := by
  rw [selected_eq_filter row h, record_filter, Record.normalize_restrict (ordered_record row)]

end Row

/-! ## Searches -/

namespace Backend

variable {s : Store} {table : String}

/-- **A selection only leaves columns out.**  A search with selected columns and related rows
gives the records of the same search without them, one for one and in their order, each with
the selected columns only, whatever the columns of its filter and of its order are.  Without
selected columns, related rows change nothing. -/
theorem findMany_restricts (args : FindMany) (ht : table ∉ s.denied)
    {columns : Selection} {relations : Option Selection}
    (hcolumns : columns.Separable relations) :
    let search (select relations : Option Selection) :=
      ((Store.backend.findMany table { args with select, relations }).run s).result
    ∃ records : List Record, search none none = .ok records ∧
      search (some columns) relations = .ok (records.map (Record.restrict columns.names)) ∧
      ∀ select : Option Selection, (∀ columns ∈ select, columns.isEmpty = true) →
        ∀ others : Option Selection, search select others = .ok records := by
  intro search
  let rows := (findManyQuery table args).cut
    (s.found table .full args.filter args.order.terms)
  have hsearch (select relations : Option Selection) : search select relations =
      .ok (rows.map fun row => (row.selected select relations).record.normalize) := by
    have hends := ends_findMany_cut (s := s) { args with select, relations } ht
    have hcut : (findManyQuery table { args with select, relations }).cut (α := Row) =
        (findManyQuery table args).cut := by
      rw [findManyQuery_eq, findManyQuery_eq]
      rfl
    rw [hcut] at hends
    exact hends.result_eq
  have hall (select others : Option Selection)
      (h : ∀ columns ∈ select, columns.isEmpty = true) :
      search select others = .ok (rows.map fun row => row.record.normalize) := by
    rw [hsearch]
    simp only [Row.selected_all _ _ h]
  refine ⟨_, hall none none (by simp), ?_, fun select h others => hall select others h⟩
  rw [hsearch, List.map_map]
  simp only [Row.normalize_record_selected _ hcolumns, Function.comp_def]

/-- The second of the two rows of a kind by their sizes, with its id alone and with everything
but its owner. -/
theorem findMany_restricts_to_id :
    let row (id kind : String) (size : Int) : Row :=
      [("size", .number (.integer size)), ("kind", .text kind), ("id", .text id)]
    let s : Store :=
      { tables := [("items", [row "1" "a" 5, row "2" "b" 4, row "3" "a" 2])]
        ids := fun _ => "new" }
    let args : FindMany :=
      { filter := Where.empty.eq "kind" (.text "a"), order := SortOrder.single "size" .desc
        page := { take := some 1, skip := some 1 } }
    let columns : Selection := ⟨["id"]⟩
    let owner : Option Selection := some ⟨["owner"]⟩
    let search (select relations : Option Selection) :=
      ((Store.backend.findMany "items" { args with select, relations }).run s).result
    "items" ∉ s.denied ∧ columns.Separable owner ∧
      search (some columns) owner = .ok [[("id", .text "3")]] ∧
      search none owner = .ok [[("id", .text "3"), ("kind", .text "a"), ("size", .int 2)]] := by
  intro row s args columns owner search
  have ht : "items" ∉ s.denied := List.not_mem_nil
  have hcolumns : columns.Separable owner := by
    refine ⟨rfl, List.forall_mem_singleton.2 ⟨by decide, by decide, by decide, by decide⟩, ?_⟩
    intro related hrelated
    obtain rfl := Option.some.inj hrelated
    exact List.forall_mem_singleton.2 (by decide)
  have hkept : (s.rows "items").filter (args.filter.admits .full) =
      [row "1" "a" 5, row "3" "a" 2] := rfl
  have hlast : (Row.compareBy args.order.terms (row "3" "a" 2) (row "1" "a" 5) == .lt) =
      false := by
    decide +kernel
  have hfound : s.found "items" .full args.filter args.order.terms =
      [row "1" "a" 5, row "3" "a" 2] := by
    rw [Store.found, hkept, sortRows, sortBy, List.foldl_cons, List.foldl_cons, List.foldl_nil,
      insertFromEnd, insertFromEnd, hlast]
    rfl
  have hcut : (findManyQuery "items" { args with select := none, relations := none }).cut
      [row "1" "a" 5, row "3" "a" 2] = [row "3" "a" 2] := rfl
  have hrecord : (row "3" "a" 2).record.normalize =
      [("id", .text "3"), ("kind", .text "a"), ("size", .int 2)] := rfl
  have hwhole : search none none =
      .ok [[("id", .text "3"), ("kind", .text "a"), ("size", .int 2)]] := by
    have hends := ends_findMany_cut (s := s) { args with select := none, relations := none } ht
    rw [hfound, hcut, List.map_singleton, Row.selected_all _ none (by simp), hrecord] at hends
    exact hends.result_eq
  obtain ⟨records, hrecords, hselected, hall⟩ := findMany_restricts (s := s) args ht hcolumns
  obtain rfl := Except.ok.inj (hrecords.symm.trans hwhole)
  exact ⟨ht, hcolumns, hselected, hall none (by simp) owner⟩

end Backend

end TabularQuery
