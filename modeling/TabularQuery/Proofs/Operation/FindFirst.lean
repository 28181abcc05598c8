import TabularQuery.Operation.Read
import TabularQuery.Proofs.Operation.FindMany
import TabularQuery.Proofs.Store.Sorter

/-!
# The first row of an order

A search for the first row cuts the rows of its filter off after one of them and expects one.
So it gives the first of all rows that it is about, and none if there are none: that the only
row is missing is no fault.  A search for many rows that asks for a page of one row cuts them
off by its window instead, and expects nothing; the two find the same.  They hand the same rows
to the sort, so this needs no law of the order: either both return or neither does.

## Main definitions

* `Backend.ends_findFirst` — what a search for the first row ends with.
* `FindFirst.onPage` — the search for many rows with the same arguments.
* `Backend.findFirst_eq_page_of_one` — the two searches find the same, for every sort.
-/

namespace TabularQuery

/-- The search for a page of the rows of which a search wants the first. -/
def FindFirst.onPage (args : FindFirst) (page : Pagination) : FindMany :=
  { filter := args.filter, order := args.order, select := args.select
    relations := args.relations, page }

namespace Sorter

variable (sorter : Sorter) {s : Store} {q : Query} {d : Dispatch} {w : Where}

/-- A search is about the rows that its clause admits, as the sort returns them. -/
theorem searches_restrict (haction : q.action = .select false) (hfilters : q.filters = [])
    (ht : q.table ∉ s.denied) {rows : List Row}
    (hsort : sorter.sort q.order ((s.rows q.table).filter (w.admits d)) = some rows) :
    Store.Searches sorter.backend (q.restrict d w) rows (some s)
      (some (s.remember (q.restrict d w))) := by
  rw [← Query.accepts_restrict_eq hfilters] at hsort
  exact sorter.searches_backend haction ht hsort

/-- A search whose sort does not return leaves no store. -/
theorem ends_lost (op : Operation) (haction : q.action = .select false)
    (hfilters : q.filters = []) (ht : q.table ∉ s.denied)
    (hsort : sorter.sort q.order ((s.rows q.table).filter (w.admits d)) = none) :
    (Session.sendFiltered sorter.backend op d w q).Ends (some s)
      (.error (.backend op q.table {})) none := by
  rw [← Query.accepts_restrict_eq hfilters] at hsort
  have hsend := Session.ends_send sorter.backend op (q.restrict d w) (some s)
  rw [sorter.execute_of_sort_eq_none (q := q.restrict d w) haction ht hsort] at hsend
  exact Session.ends_sendFiltered hsend

end Sorter

namespace Backend

variable {s : Store} {table : String} (args : FindFirst)

/-- The window of a search for the first row. -/
theorem cut_findFirstQuery {α : Type} (rows : List α) :
    ((findFirstQuery table args).restrict .full args.filter).cut rows = rows.take 1 := rfl

/-- A search for the first row gives the first of the rows that the backend has found, or
none. -/
theorem ends_findFirst_of_searches {σ : Type} {b : Backend σ} {rows : List Row} {s t : σ}
    (h : Store.Searches b ((findFirstQuery table args).restrict .full args.filter) rows s t) :
    (b.findFirst table args).Ends s
      (.ok (rows.head?.map fun row =>
        (row.selected args.select args.relations).record.normalize)) t := by
  have hcut : ((findFirstQuery table args).restrict .full args.filter).cut rows = rows.take 1 :=
    cut_findFirstQuery args rows
  cases rows with
  | nil =>
    have hsearch := Session.ends_sendFiltered
      (h.ends_send_error .findFirst rfl (by rw [hcut]; decide))
    exact Session.ends_orNone_notFound .findFirst table hsearch
      (Store.isNotFound_cardinalityFault _ _ _)
  | cons row rest =>
    have hsearch := Session.ends_sendFiltered
      (h.ends_send .findFirst fun _ => by rw [hcut]; rfl)
    have hfirst := Session.ends_orNone_ok .findFirst table hsearch
    rw [Store.records_answer_single rfl rfl hcut] at hfirst
    exact hfirst

/-- **A search for the first row gives the first of the rows that its filter admits**, in its
order, or none. -/
theorem ends_findFirst (ht : table ∉ s.denied) :
    (Store.backend.findFirst table args).Ends s
      (.ok ((s.found table .full args.filter args.order.terms).head?.map fun row =>
        (row.selected args.select args.relations).record.normalize))
      (s.remember ((findFirstQuery table args).restrict .full args.filter)) :=
  ends_findFirst_of_searches args (Store.searches_restrict rfl rfl ht)

/-! ## The page of one row -/

variable {page : Pagination}

/-- The window of the first page of one row cuts the rows off as well. -/
theorem cut_findManyQuery_onPage {α : Type} (hpage : page.resolve = ⟨0, 1⟩) (rows : List α) :
    (findManyQuery table (args.onPage page)).cut rows = rows.take 1 := by
  have hrange : (args.onPage page).page.resolve.range = some (0, 0) :=
    congrArg PageWindow.range hpage
  rw [findManyQuery_eq, hrange]
  rfl

section

variable (sorter : Sorter)

/-- Where the sort returns the rows of the filter, both searches return. -/
theorem ends_of_sort_eq_some (ht : table ∉ s.denied) (hpage : page.resolve = ⟨0, 1⟩)
    {rows : List Row} (hsort : sorter.sort args.order.terms
      ((s.rows table).filter (args.filter.admits .full)) = some rows) :
    ∃ found t u, (found = none ↔ rows = []) ∧
      (sorter.backend.findFirst table args).Ends (some s) (.ok found) (some t) ∧
      (sorter.backend.findMany table (args.onPage page)).Ends (some s) (.ok found.toList)
        (some u) := by
  let record (row : Row) := (row.selected args.select args.relations).record.normalize
  have hlist : (rows.take 1).map record = (rows.head?.map record).toList := by
    cases rows <;> rfl
  have hfirst := ends_findFirst_of_searches args
    (sorter.searches_restrict (q := findFirstQuery table args) rfl rfl ht hsort)
  have hsearches (q : Query) (hq : findManyQuery table (args.onPage page) = q) :
      Store.Searches sorter.backend (q.restrict .full args.filter) rows (some s)
        (some (s.remember (q.restrict .full args.filter))) := by
    rw [← hq, findManyQuery_eq]
    exact sorter.searches_restrict rfl rfl ht hsort
  have hone := ends_findMany_of_searches (args.onPage page) (hsearches _ rfl)
  rw [cut_findManyQuery_onPage args hpage] at hone
  exact ⟨rows.head?.map record, _, _, by simp, hfirst, hlist ▸ hone⟩

/-- Where it does not return, neither of them does. -/
theorem ends_of_sort_eq_none (ht : table ∉ s.denied) (hsort : sorter.sort args.order.terms
      ((s.rows table).filter (args.filter.admits .full)) = none) (page : Pagination) :
    (∃ r, (sorter.backend.findFirst table args).Ends (some s) r none) ∧
      ∃ r, (sorter.backend.findMany table (args.onPage page)).Ends (some s) r none := by
  have hfirst := Session.ends_orNone_error .findFirst table
    (sorter.ends_lost .findFirst (q := findFirstQuery table args) rfl rfl ht hsort) rfl
  have hmany : (findManyQuery table (args.onPage page)).action = .select false ∧
      (findManyQuery table (args.onPage page)).filters = [] ∧
      (findManyQuery table (args.onPage page)).table = table ∧
      (findManyQuery table (args.onPage page)).order = args.order.terms := by
    rw [findManyQuery_eq]
    exact ⟨rfl, rfl, rfl, rfl⟩
  obtain ⟨haction, hfilters, htable, horder⟩ := hmany
  rw [← htable] at ht
  rw [← htable, ← horder] at hsort
  have hone := sorter.ends_lost .findMany haction hfilters ht hsort
  exact ⟨⟨_, hfirst⟩, ⟨_, hone.bind_error _⟩⟩

/-- **A search for the first row is a search for the first page of one row**, whatever the
cells are that it is ordered by, and whatever sort the store has.  Neither of them fails: the
one gives a row where the other gives a list of it, and none where the other gives the empty
list, which is where the filter admits no row.  Either both return or neither does, and both do
if the order is transitive on the rows that the filter admits. -/
theorem findFirst_eq_page_of_one (ht : table ∉ s.denied) (hpage : page.resolve = ⟨0, 1⟩) :
    let first := sorter.backend.findFirst table args
    let one := sorter.backend.findMany table (args.onPage page)
    (∀ r, first.Returns s (.ok (some r)) ↔ one.Returns s (.ok [r])) ∧
      (first.Returns s (.ok none) ↔ one.Returns s (.ok [])) ∧
      (one.Returns s (.ok []) ↔ ∀ row ∈ s.rows table, args.filter.admits .full row = false) ∧
      (∀ f, ¬ first.Returns s (.error f) ∧ ¬ one.Returns s (.error f)) ∧
      ((∃ r, first.Returns s r) ↔ ∃ r, one.Returns s r) ∧
      (TransitiveOn (Row.compareBy args.order.terms)
          ((s.rows table).filter (args.filter.admits .full)) →
        ∃ found, first.Returns s (.ok found) ∧ one.Returns s (.ok found.toList)) := by
  intro first one
  let rows := (s.rows table).filter (args.filter.admits .full)
  have hempty : rows = [] ↔ ∀ row ∈ s.rows table, args.filter.admits .full row = false := by
    simp only [rows, List.filter_eq_nil_iff, Bool.not_eq_true]
  cases hsort : sorter.sort args.order.terms rows with
  | none =>
    obtain ⟨⟨_, hfirst⟩, ⟨_, hone⟩⟩ := ends_of_sort_eq_none args sorter ht hsort page
    have hne : rows ≠ [] := fun h => by
      rw [h, sorter.sort_nil] at hsort
      cases hsort
    have hfirst := hfirst.not_returns
    have hone := hone.not_returns
    refine ⟨fun r => iff_of_false (hfirst _) (hone _), iff_of_false (hfirst _) (hone _),
      iff_of_false (hone _) (hempty.not.1 hne), fun f => ⟨hfirst _, hone _⟩,
      iff_of_false (not_exists.2 hfirst) (not_exists.2 hone), fun htrans => ?_⟩
    rw [sorter.sort_eq_sortRows htrans] at hsort
    cases hsort
  | some sorted =>
    obtain ⟨found, t, u, hnone, hfirst, hone⟩ := ends_of_sort_eq_some args sorter ht hpage hsort
    have hnil : sorted = [] ↔ rows = [] := by
      have hlength := (sorter.perm hsort).length_eq
      rw [← List.length_eq_zero_iff, hlength, List.length_eq_zero_iff]
    refine ⟨fun r => ?_, ?_, ?_, fun f => ?_, ?_, fun _ => ?_⟩
    · rw [hfirst.returns_iff, hone.returns_iff, Except.ok.injEq, Except.ok.injEq]
      cases found <;> simp
    · rw [hfirst.returns_iff, hone.returns_iff, Except.ok.injEq, Except.ok.injEq, eq_comm,
        eq_comm (a := []), Option.toList_eq_nil_iff]
    · rw [hone.returns_iff, Except.ok.injEq, eq_comm, Option.toList_eq_nil_iff, hnone, hnil,
        hempty]
    · rw [hfirst.returns_iff, hone.returns_iff]
      exact ⟨nofun, nofun⟩
    · exact iff_of_true ⟨_, _, hfirst⟩ ⟨_, _, hone⟩
    · exact ⟨found, ⟨t, hfirst⟩, ⟨u, hone⟩⟩

end

/-- Cells that no order puts into a line: a text between two numbers by its characters.  Both
searches take the row that the sort comes to put first. -/
theorem findFirst_eq_page_of_one_at_mixed_cells :
    let row (id size : String) : Row := [("id", .text id), ("size", .text size)]
    let s : Store :=
      { tables := [("items", [row "a" "10", row "b" "1a", row "c" "2", row "d" "0"])]
        ids := fun _ => "new" }
    let args : FindFirst :=
      { filter := Where.empty.field "id" (.differs (.text "d"))
        order := SortOrder.single "size" .desc }
    let page : Pagination := { take := some 1, skip := some 0, limit := some 5 }
    "items" ∉ s.denied ∧ page.resolve = ⟨0, 1⟩ ∧
      ¬ TransitiveOn (Row.compareBy args.order.terms)
        ((s.rows "items").filter (args.filter.admits .full)) ∧
      (Sorter.insertion.backend.findFirst "items" args).Returns s
        (.ok (some [("id", .text "b"), ("size", .text "1a")])) ∧
      (Sorter.insertion.backend.findMany "items" (args.onPage page)).Returns s
        (.ok [[("id", .text "b"), ("size", .text "1a")]]) := by
  intro row s args page
  have hpage : page.resolve = ⟨0, 1⟩ := by decide
  have hfilter : (s.rows "items").filter (args.filter.admits .full) =
      [row "a" "10", row "b" "1a", row "c" "2"] := rfl
  have hcycle : ¬ TransitiveOn (Row.compareBy args.order.terms)
      [row "a" "10", row "b" "1a", row "c" "2"] := by decide +kernel
  have hsort : Sorter.insertion.sort args.order.terms
      ((s.rows "items").filter (args.filter.admits .full)) =
        some [row "b" "1a", row "a" "10", row "c" "2"] := rfl
  have hfirst : (Sorter.insertion.backend.findFirst "items" args).Returns s
      (.ok (some [("id", .text "b"), ("size", .text "1a")])) := by
    have hends := ends_findFirst_of_searches args (Sorter.insertion.searches_restrict
      (q := findFirstQuery "items" args) rfl rfl (List.not_mem_nil (a := "items")) hsort)
    rw [List.head?_cons, Option.map_some, Row.selected_all _ _ (by simp [args])] at hends
    exact ⟨_, hends⟩
  obtain ⟨hsome, -⟩ := findFirst_eq_page_of_one (s := s) args Sorter.insertion
    (List.not_mem_nil (a := "items")) hpage
  exact ⟨List.not_mem_nil, hpage, hfilter ▸ hcycle, hfirst, (hsome _).1 hfirst⟩

end Backend

end TabularQuery
