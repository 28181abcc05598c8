import TabularQuery.Proofs.Operation.FindMany
import TabularQuery.Proofs.Operation.Requests

/-!
# Pages of a search

A window is computed twice from its first and its last row: by a store, which cuts it out
of the rows, and for the service, as the two numbers of its parameters.  Both mean the same
rows, for all counts up to the greatest: where the last row would lie beyond it, the window
ends there, and no table has rows behind that.  Windows of one limit that follow each other
lose no row and repeat none.

## Main definitions

* `PageWindow.Counts` — the numbers of a window are counts.
* `PageWindow.slice` — the part of a list that a window means.
* `Query.cut_eq_slice` — a store cuts that part out.
* `PageWindow.flatten_slices` — windows that follow each other.
* `Backend.findMany_pages` — pages of a search, and the parameters of their requests.
-/

namespace TabularQuery

namespace PageWindow

variable {w : PageWindow}

/-- The numbers of a window are counts: none is greater than the greatest. -/
structure Counts (w : PageWindow) : Prop where
  offset : w.offset ≤ greatestCount
  limit : w.limit ≤ greatestCount

/-- The part of a list that a window means: what comes after the elements that are passed
over, cut to the limit.  A limit of zero is none. -/
def slice {α : Type} (w : PageWindow) (xs : List α) : List α :=
  if w.limit = 0 then xs else (xs.drop w.offset).take w.limit

theorem map_slice {α β : Type} (f : α → β) (w : PageWindow) (xs : List α) :
    (w.slice xs).map f = w.slice (xs.map f) := by
  simp only [slice]
  split
  · rfl
  · rw [List.map_take, List.map_drop]

/-! ## The numbers of a window -/

theorem range_eq_none_iff : w.range = none ↔ w.limit = 0 := by
  simp [range]

/-- The rows of a window with a limit: none of the numbers on the way to their number is
greater than the greatest count, nothing is taken from a smaller number, and the number of
the rows is the limit unless the greatest count comes before it. -/
theorem range_of_limit (h : w.Counts) (hlimit : 0 < w.limit) :
    ∃ last, w.range = some (w.offset, last) ∧ w.offset ≤ last ∧ last ≤ greatestCount ∧
      last - w.offset + 1 ≤ greatestCount ∧
      windowSize w.offset last = min w.limit (greatestCount + 1 - w.offset) := by
  obtain ⟨hoffset, hmost⟩ := h
  have hrange : w.range = some (w.offset, min (w.offset + (w.limit - 1)) greatestCount) := by
    rw [range, if_neg (by omega)]
  have hsize := windowSize_of_range hoffset hmost hrange
  refine ⟨_, hrange, ?_, ?_, ?_, ?_⟩ <;> omega

/-- The parameters of a window with a limit are its offset and the number of its rows. -/
theorem windowParams_of_range (h : w.Counts) {q : Query} (hrange : q.range = w.range)
    (hnone : q.limit = none) :
    q.windowParams =
      if w.limit = 0 then []
      else [("offset".toList, Text.digits w.offset),
        ("limit".toList, Text.digits (min w.limit (greatestCount + 1 - w.offset)))] := by
  rw [Query.windowParams, hrange, hnone]
  by_cases hzero : w.limit = 0
  · rw [if_pos hzero, range_eq_none_iff.2 hzero]
  · obtain ⟨last, hlast, -, -, -, hsize⟩ := range_of_limit h (by omega)
    rw [if_neg hzero, hlast]
    simp only [hsize]

/-! ## The rows of a window -/

/-- Of a list no longer than the greatest count, a window that ends with the greatest count
has as much as one that goes on. -/
theorem take_windowSize {α : Type} (w : PageWindow) {xs : List α}
    (hxs : xs.length ≤ greatestCount) :
    (xs.drop w.offset).take (min w.limit (greatestCount + 1 - w.offset)) =
      (xs.drop w.offset).take w.limit := by
  rw [List.take_eq_take_iff, List.length_drop]
  omega

end PageWindow

/-- The rows that a store cuts out are those that the window means. -/
theorem Query.cut_eq_slice {α : Type} {w : PageWindow} (h : w.Counts) {q : Query}
    (hrange : q.range = w.range) (hnone : q.limit = none) {xs : List α}
    (hxs : xs.length ≤ greatestCount) : q.cut xs = w.slice xs := by
  rw [Query.cut, hrange, hnone, PageWindow.slice]
  by_cases hzero : w.limit = 0
  · rw [if_pos hzero, PageWindow.range_eq_none_iff.2 hzero]
  · obtain ⟨last, hlast, -, -, -, hsize⟩ := PageWindow.range_of_limit h (by omega)
    rw [if_neg hzero, hlast]
    simp only [hsize]
    exact PageWindow.take_windowSize w hxs

/-- Windows of one limit, each after the rows of those before it, have together the rows
before the next one. -/
theorem PageWindow.flatten_slices {α : Type} {n : Nat} (hn : 0 < n) (xs : List α) (k : Nat) :
    ((List.range k).map fun i => (PageWindow.mk (i * n) n).slice xs).flatten =
      xs.take (k * n) := by
  have hslice (i : Nat) :
      (PageWindow.mk (i * n) n).slice xs = (xs.drop (i * n)).take n := by
    rw [slice, if_neg (Nat.ne_of_gt hn)]
  induction k with
  | zero => simp
  | succ k ih =>
    rw [List.range_succ, List.map_append, List.flatten_append, ih, List.map_singleton,
      List.flatten_singleton, hslice, Nat.succ_mul, List.take_add]

/-- So many windows are enough to come to the end of a list, and each of them begins before
it. -/
theorem PageWindow.exists_covering {n : Nat} (hn : 0 < n) (length : Nat) :
    ∃ k, (∀ i < k, i * n < length) ∧ length ≤ k * n := by
  refine ⟨(length + n - 1) / n, fun i hi => ?_, ?_⟩
  · have hle : (i + 1) * n ≤ (length + n - 1) / n * n := Nat.mul_le_mul_right n hi
    have hdiv := Nat.div_mul_le_self (length + n - 1) n
    rw [Nat.succ_mul] at hle
    omega
  · have hdiv := Nat.lt_div_mul_add (a := length + n - 1) hn
    omega

namespace Backend

variable {s : Store} {table : String}

/-- A search with a window gives that part of the rows, and leaves its table as it is. -/
theorem ends_findMany_page (args : FindMany) (ht : table ∉ s.denied)
    (hrows : (s.rows table).length ≤ greatestCount) (hcounts : args.page.resolve.Counts) :
    ∃ t, (Store.backend.findMany table args).Ends s
        (.ok (args.page.resolve.slice
          ((s.found table .full args.filter args.order.terms).map fun row =>
            (row.selected args.select args.relations).record.normalize))) t ∧
      t.denied = s.denied ∧ t.rows table = s.rows table := by
  have hends := ends_findMany_cut (s := s) args ht
  have hfound : (s.found table .full args.filter args.order.terms).length ≤ greatestCount := by
    rw [Store.length_found]
    exact le_trans List.countP_le_length hrows
  have hcut := Query.cut_eq_slice hcounts (q := findManyQuery table args)
    (by rw [findManyQuery_eq]) (by rw [findManyQuery_eq]) hfound
  rw [hcut, PageWindow.map_slice] at hends
  exact ⟨_, hends, Store.denied_remember s _, Store.rows_remember s _ table⟩

/-- Windows of one limit that follow each other give these parts of the rows, one search
after the other. -/
theorem results_pages (args : FindMany) (ht : table ∉ s.denied)
    (hrows : (s.rows table).length ≤ greatestCount) (hcounts : args.page.resolve.Counts)
    {k : Nat} (hk : ∀ i < k, i * args.page.resolve.limit ≤ greatestCount) :
    let n := args.page.resolve.limit
    (Session.outcomes ((List.range k).map fun i => Store.backend.findMany table
        { args with page := { args.page with skip := some (i * n) } }) s).map Outcome.result =
      (List.range k).map fun i => .ok ((PageWindow.mk (i * n) n).slice
        ((s.found table .full args.filter args.order.terms).map fun row =>
          (row.selected args.select args.relations).record.normalize)) := by
  intro n
  -- every page leaves the table and its rights as they are for the next one
  refine Session.results_outcomes (s := s)
    (P := fun u => u.denied = s.denied ∧ u.rows table = s.rows table) ?_ ⟨rfl, rfl⟩
  rintro i hi u ⟨hdenied, hsame⟩
  obtain ⟨t, hends, htdenied, htrows⟩ := ends_findMany_page (s := u)
    { args with page := { args.page with skip := some (i * n) } } (hdenied ▸ ht)
    (hsame ▸ hrows) ⟨hk i (List.mem_range.1 hi), hcounts.limit⟩
  rw [Store.found, hsame] at hends
  exact ⟨t, hends, htdenied.trans hdenied, htrows.trans hsame⟩

/-- **Pages of a search lose and repeat nothing**, for all counts.  A search gives the rows
of its window out of those that it gives without one.  The windows that begin with the
first row and follow each other give these rows together, and so many are enough that none
of them begins behind the greatest count.  The request for a window has its offset and the
number of its rows as parameters, and none for no window; on the way to them, no number
exceeds the greatest count. -/
theorem findMany_pages (args : FindMany) (ht : table ∉ s.denied)
    (hrows : (s.rows table).length ≤ greatestCount) (hcounts : args.page.resolve.Counts) :
    let w := args.page.resolve
    let search (page : Pagination) := Store.backend.findMany table { args with page }
    ∃ whole : List Record,
      (∀ page : Pagination, page.take = some 0 → ((search page).run s).result = .ok whole) ∧
      ((search args.page).run s).result =
        .ok (if w.limit = 0 then whole else (whole.drop w.offset).take w.limit) ∧
      (0 < w.limit →
        let pages (k : Nat) := (List.range k).map fun i =>
          search { args.page with skip := some (i * w.limit) }
        (∀ k, (∀ i < k, i * w.limit ≤ greatestCount) → ∃ parts : List (List Record),
          (Session.outcomes (pages k) s).map Outcome.result = parts.map .ok ∧
            parts.flatten = whole.take (k * w.limit)) ∧
        ∃ k, (∀ i < k, i * w.limit ≤ greatestCount) ∧ whole.take (k * w.limit) = whole) ∧
      ((search args.page).run s).state.requests = s.requests ++ [findManyRequest table args] ∧
      (findManyRequest table args).params =
        ("select".toList, (Selection.columnList args.select args.relations).toList) ::
          ((args.filter.calls .full).map FilterCall.param ++ orderParams args.order.terms ++
            if w.limit = 0 then []
            else [("offset".toList, Text.digits w.offset),
              ("limit".toList, Text.digits (min w.limit (greatestCount + 1 - w.offset)))]) ∧
      (0 < w.limit → ∃ last, w.range = some (w.offset, last) ∧ w.offset ≤ last ∧
        last ≤ greatestCount ∧ last - w.offset + 1 ≤ greatestCount) := by
  intro w search
  let whole := (s.found table .full args.filter args.order.terms).map fun row =>
    (row.selected args.select args.relations).record.normalize
  have hwhole : whole.length ≤ (s.rows table).length := by
    rw [List.length_map, Store.length_found]
    exact List.countP_le_length
  refine ⟨whole, fun page hpage => ?_, ?_, fun hlimit => ⟨fun k hk => ?_, ?_⟩, ?_, ?_,
    fun hlimit => ?_⟩
  · obtain ⟨t, hends, -⟩ := ends_findMany_whole (s := s) { args with page } ht hpage
    exact hends.result_eq
  · obtain ⟨t, hends, -⟩ := ends_findMany_page (s := s) args ht hrows hcounts
    exact hends.result_eq
  · have hpages := results_pages (s := s) args ht hrows hcounts hk
    refine ⟨_, ?_, PageWindow.flatten_slices hlimit whole k⟩
    rw [hpages, List.map_map]
    rfl
  · obtain ⟨k, hbefore, hcovers⟩ := PageWindow.exists_covering hlimit whole.length
    refine ⟨k, fun i hi => ?_, List.take_of_length_le hcovers⟩
    have hbegin := hbefore i hi
    omega
  · exact congrArg Store.requests (ends_findMany_cut (s := s) args ht).state_eq
  · obtain ⟨-, -, -, hrange, hnone⟩ := findManyRequest_fields table args
    rw [params_findManyRequest, PageWindow.windowParams_of_range hcounts hrange hnone]
  · obtain ⟨last, hrange, hle, hlast, hsize, -⟩ := PageWindow.range_of_limit hcounts hlimit
    exact ⟨last, hrange, hle, hlast, hsize⟩

/-- Three rows in pages of two, and a window that would begin with the greatest count: no
row is in it, and the service is asked for one. -/
theorem findMany_pages_of_two :
    let s : Store :=
      { tables := [("items", [[("id", .text "a")], [("id", .text "b")], [("id", .text "c")]])]
        ids := fun _ => "new" }
    let args : FindMany := { page := { take := some 2, skip := some greatestCount } }
    let search (page : Pagination) := Store.backend.findMany "items" { args with page }
    "items" ∉ s.denied ∧ (s.rows "items").length ≤ greatestCount ∧
      args.page.resolve.Counts ∧ ((search args.page).run s).result = .ok [] ∧
      (∃ parts : List (List Record),
        (Session.outcomes ((List.range 2).map fun i =>
          search { args.page with skip := some (i * 2) }) s).map Outcome.result =
            parts.map .ok ∧
        parts.flatten = [[("id", .text "a")], [("id", .text "b")], [("id", .text "c")]]) ∧
      (findManyRequest "items" args).params =
        [("select".toList, "*".toList), ("offset".toList, Text.digits greatestCount),
          ("limit".toList, Text.digits 1)] := by
  intro s args search
  have hrows : (s.rows "items").length ≤ greatestCount := by decide
  have hcounts : args.page.resolve.Counts := ⟨le_refl _, by decide⟩
  obtain ⟨whole, hwhole, hresult, hpages, -, hparams, -⟩ :=
    findMany_pages (s := s) args (List.not_mem_nil (a := "items")) hrows hcounts
  have hall : whole = [[("id", .text "a")], [("id", .text "b")], [("id", .text "c")]] := by
    obtain ⟨t, hends⟩ := ends_findMany (s := s)
      { args with page := { take := some 0 } } (List.not_mem_nil (a := "items")) rfl rfl
    have hfirst := (hwhole { take := some 0 } rfl).symm.trans hends.result_eq
    simp only [Row.selected_all _ _ (by simp [args] : ∀ columns ∈ args.select, _)] at hfirst
    exact Except.ok.inj hfirst
  obtain ⟨hparts, -⟩ := hpages (by decide)
  obtain ⟨parts, hrun, hflatten⟩ := hparts 2 (by decide)
  rw [hall] at hresult hflatten
  refine ⟨List.not_mem_nil, hrows, hcounts, ?_, ⟨parts, ?_, ?_⟩, ?_⟩
  · rw [hresult, if_neg (by decide), List.drop_eq_nil_of_le (by decide), List.take_nil]
  · exact hrun
  · exact hflatten
  · have hcolumns : (Selection.columnList args.select args.relations).toList = ['*'] := by
      rw [Selection.columnList, String.toList_ofList]
      rfl
    have hsize : min args.page.resolve.limit (greatestCount + 1 - args.page.resolve.offset) =
        1 := by
      decide
    rw [hparams, hcolumns, hsize, if_neg (by decide)]
    rfl

end Backend

end TabularQuery
