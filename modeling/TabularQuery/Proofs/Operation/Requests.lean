import TabularQuery.Operation.Read
import TabularQuery.Proofs.Query.Params

/-!
# Requests of searches

The parameters of a search tell its columns, its filters, its order and its window, if the
names of its columns do not look like the notation around them.  Names are written without
quotation, so that some searches have the same parameters: one column of a disjunction can
look like two branches, one column of an order like two keys, and a filter on a column with
the name `order` like an order.

## Main definitions

* `Backend.findManyRequest` — the query that a search sends.
* `FindMany.Legible` — searches whose names do not look like notation.
* `Backend.findManyRequest_eq_of_params_eq` — these are told apart by their parameters.
-/

namespace TabularQuery

namespace Backend

/-- The query that a search for many rows sends. -/
def findManyRequest (table : String) (args : FindMany) : Query :=
  (findManyQuery table args).restrict .full args.filter

end Backend

/-! ## Names that do not look like notation -/

/-- A filter on a column with the name of the parameter of an order, whose operand ends
with a direction. -/
def FilterCall.LooksOrdered (c : FilterCall) : Prop :=
  c.column? = some "order" ∧ ∃ d : Direction, '.' :: d.name.toList <:+ c.param.2

/-- A search with counts in range, in whose disjunction no column looks like several
branches, in whose order no column looks like several keys, and whose last filter does not
look like an order if there is none. -/
structure FindMany.Legible (args : FindMany) : Prop where
  offset : args.page.resolve.offset ≤ greatestCount
  limit : args.page.resolve.limit ≤ greatestCount
  branches : ∀ bs ∈ args.filter.anyOf, ∀ f ∈ bs, Notation.InertColumn f.1
  order : ∀ t ∈ args.order.terms, ∀ m ∈ orderMarks, ¬ m <:+: t.column.toList
  unordered : args.order.terms = [] →
    ∀ c ∈ (args.filter.calls .full).getLast?, ¬ c.LooksOrdered

/-! ## Filters -/

theorem Constraint.column?_call (column : String) (c : Constraint) :
    (c.call column).column? = some column := by
  cases c <;> rfl

theorem FilterCall.legible_of_column {c : FilterCall} {column : String}
    (h : c.column? = some column) : c.Legible := by
  cases c with
  | anyOf branches => cases h
  | _ => trivial

theorem FilterCall.param_eq_order {c : FilterCall} {s : List Char}
    (h : c.param = ("order".toList, s)) : c.column? = some "order" := by
  cases hcolumn : c.column? with
  | some column =>
    obtain ⟨op, operand, hparam⟩ := param_column hcolumn
    rw [hparam] at h
    rw [String.toList_inj.1 (Prod.mk.inj h).1]
  | none =>
    obtain ⟨branches, rfl⟩ := exists_anyOf hcolumn
    exact absurd (Prod.mk.inj h).1 (by decide)

/-- The filters of a clause are legible if the columns of its disjunction are inert. -/
theorem Where.legible_calls {w : Where}
    (h : ∀ bs ∈ w.anyOf, ∀ f ∈ bs, Notation.InertColumn f.1) :
    ∀ c ∈ w.calls .full, c.Legible := by
  intro c hc
  rcases List.mem_append.1 hc with hc | hc
  · rw [disjunctionCalls] at hc
    split at hc
    · rename_i b bs hbranches
      rw [List.mem_singleton.1 hc]
      refine ⟨by simp, fun d hd => ?_⟩
      obtain ⟨f, hf, rfl⟩ := List.mem_map.1 hd
      exact ⟨f.1, Constraint.column?_call f.1 f.2, h _ hbranches f hf⟩
    · simp at hc
  · obtain ⟨⟨column, constraint⟩, -, rfl⟩ := List.mem_map.1 hc
    simp only [fieldCall, supports_full, if_true]
    exact FilterCall.legible_of_column (Constraint.column?_call column constraint)

theorem textual_eq_of_params_eq {calls other : List FilterCall} (h : ∀ c ∈ calls, c.Legible)
    (hother : ∀ c ∈ other, c.Legible)
    (heq : calls.map FilterCall.param = other.map FilterCall.param) :
    calls.map FilterCall.textual = other.map FilterCall.textual := by
  induction calls generalizing other with
  | nil =>
    cases other with
    | nil => rfl
    | cons d more => cases heq
  | cons c rest ih =>
    cases other with
    | nil => cases heq
    | cons d more =>
      obtain ⟨hc, hrest⟩ := List.forall_mem_cons.1 h
      obtain ⟨hd, hmore⟩ := List.forall_mem_cons.1 hother
      obtain ⟨hparam, hparams⟩ := List.cons.inj heq
      rw [List.map_cons, List.map_cons, FilterCall.textual_eq_of_param_eq hc hd hparam,
        ih hrest hmore hparams]

/-! ## Parameters -/

/-- The parameter of an order; there is none without keys. -/
def orderParams (terms : List OrderTerm) : List (List Char × List Char) :=
  if terms.isEmpty then [] else [("order".toList, Query.orderText terms)]

theorem orderParams_of_ne_nil {terms : List OrderTerm} (h : terms ≠ []) :
    orderParams terms = [("order".toList, Query.orderText terms)] := by
  rw [orderParams, if_neg]
  simpa using h

/-- Filters without an order behind them do not look like filters with one. -/
theorem params_ne_of_not_looksOrdered {calls other : List FilterCall} {terms : List OrderTerm}
    (h : ∀ c ∈ calls.getLast?, ¬ c.LooksOrdered) (hne : terms ≠ []) :
    calls.map FilterCall.param ≠ other.map FilterCall.param ++ orderParams terms := by
  intro heq
  have hlast := congrArg List.getLast? heq
  rw [orderParams_of_ne_nil hne, List.getLast?_concat, List.getLast?_map] at hlast
  obtain ⟨c, hc, hparam⟩ := Option.map_eq_some_iff.1 hlast
  obtain ⟨d, hd⟩ := direction_suffix_orderText hne
  refine h c hc ⟨FilterCall.param_eq_order hparam, d, ?_⟩
  rw [hparam]
  exact hd

theorem filters_and_order_eq {args other : FindMany} (h : args.Legible) (hother : other.Legible)
    (heq : (args.filter.calls .full).map FilterCall.param ++ orderParams args.order.terms =
      (other.filter.calls .full).map FilterCall.param ++ orderParams other.order.terms) :
    (args.filter.calls .full).map FilterCall.textual =
        (other.filter.calls .full).map FilterCall.textual ∧
      args.order.terms = other.order.terms := by
  have hcalls := Where.legible_calls h.branches
  have hcalls' := Where.legible_calls hother.branches
  -- an order on one side alone would stand where the other side has a filter
  by_cases hnil : args.order.terms = []
  · by_cases hnil' : other.order.terms = []
    · rw [hnil, hnil'] at heq ⊢
      simp only [orderParams, List.isEmpty_nil, if_true, List.append_nil] at heq
      exact ⟨textual_eq_of_params_eq hcalls hcalls' heq, rfl⟩
    · rw [hnil] at heq
      simp only [orderParams, List.isEmpty_nil, if_true, List.append_nil] at heq
      exact absurd heq (params_ne_of_not_looksOrdered (h.unordered hnil) hnil')
  · by_cases hnil' : other.order.terms = []
    · rw [hnil'] at heq
      simp only [orderParams, List.isEmpty_nil, if_true, List.append_nil] at heq
      exact absurd heq.symm (params_ne_of_not_looksOrdered (hother.unordered hnil') hnil)
    · rw [orderParams_of_ne_nil hnil, orderParams_of_ne_nil hnil'] at heq
      obtain ⟨hfilters, horder⟩ := List.append_inj' heq rfl
      have htext := (Prod.mk.inj (List.cons.inj horder).1).2
      exact ⟨textual_eq_of_params_eq hcalls hcalls' hfilters,
        orderText_injective hnil hnil' h.order hother.order htext⟩

/-- What is not a number comes before the numbers, and is told from them. -/
theorem split_params {front front' numbers numbers' : List (List Char × List Char)}
    (hfront : ∀ p ∈ front, isNumberParam p = false)
    (hfront' : ∀ p ∈ front', isNumberParam p = false)
    (hnumbers : ∀ p ∈ numbers, isNumberParam p = true)
    (hnumbers' : ∀ p ∈ numbers', isNumberParam p = true)
    (heq : front ++ numbers = front' ++ numbers') : front = front' ∧ numbers = numbers' := by
  have hnone : ∀ front : List (List Char × List Char),
      (∀ p ∈ front, isNumberParam p = false) → front.filter isNumberParam = [] := by
    intro front h
    rw [List.filter_eq_nil_iff]
    intro p hp
    simp [h p hp]
  have hfilter := congrArg (List.filter isNumberParam) heq
  rw [List.filter_append, List.filter_append, hnone front hfront, hnone front' hfront',
    List.filter_eq_self.2 hnumbers, List.filter_eq_self.2 hnumbers'] at hfilter
  have hsame : numbers = numbers' := hfilter
  rw [hsame] at heq
  exact ⟨List.append_cancel_right heq, hsame⟩

theorem isNumberParam_front (calls : List FilterCall) (terms : List OrderTerm) :
    ∀ p ∈ calls.map FilterCall.param ++ orderParams terms, isNumberParam p = false := by
  intro p hp
  rcases List.mem_append.1 hp with hp | hp
  · obtain ⟨c, -, rfl⟩ := List.mem_map.1 hp
    exact isNumberParam_param c
  · by_cases hnil : terms = []
    · rw [hnil] at hp
      cases hp
    · rw [orderParams_of_ne_nil hnil] at hp
      rw [List.mem_singleton.1 hp]
      exact isNumberParam_orderText hnil _

namespace Backend

theorem params_findManyRequest (table : String) (args : FindMany) :
    (findManyRequest table args).params =
      ("select".toList, (Selection.columnList args.select args.relations).toList) ::
        ((args.filter.calls .full).map FilterCall.param ++ orderParams args.order.terms ++
          (findManyRequest table args).windowParams) := by
  rw [findManyRequest, findManyQuery_eq]
  rfl

theorem findManyRequest_fields (table : String) (args : FindMany) :
    (findManyRequest table args).columns =
        some (Selection.columnList args.select args.relations) ∧
      (findManyRequest table args).filters = args.filter.calls .full ∧
      (findManyRequest table args).order = args.order.terms ∧
      (findManyRequest table args).range = args.page.resolve.range ∧
      (findManyRequest table args).limit = none := by
  rw [findManyRequest, findManyQuery_eq]
  exact ⟨rfl, rfl, rfl, rfl, rfl⟩

/-- **Legible searches with the same parameters are the same request**: with the same
columns, the same filters with the same texts, the same order and the same window. -/
theorem findManyRequest_eq_of_params_eq (table : String) {args other : FindMany}
    (h : args.Legible) (hother : other.Legible)
    (heq : (findManyRequest table args).params = (findManyRequest table other).params) :
    let q := findManyRequest table args
    let r := findManyRequest table other
    q.columns = r.columns ∧
      q.filters.map FilterCall.textual = r.filters.map FilterCall.textual ∧
      q.order = r.order ∧ q.range = r.range := by
  intro q r
  obtain ⟨hcolumns, hfilters, horder, hrange, hlimit⟩ := findManyRequest_fields table args
  obtain ⟨hcolumns', hfilters', horder', hrange', hlimit'⟩ := findManyRequest_fields table other
  rw [params_findManyRequest, params_findManyRequest] at heq
  obtain ⟨hselect, hrest⟩ := List.cons.inj heq
  have hnames : Selection.columnList args.select args.relations =
      Selection.columnList other.select other.relations :=
    String.toList_inj.1 (Prod.mk.inj hselect).2
  -- the first parameter gives the columns, the numbers at the end give the window
  obtain ⟨hfront, hwindow⟩ := split_params (isNumberParam_front _ _) (isNumberParam_front _ _)
    (isNumberParam_windowParams q) (isNumberParam_windowParams r) hrest
  obtain ⟨hcalls, hterms⟩ := filters_and_order_eq h hother hfront
  have hwindows := PageWindow.range_eq_of_windowParams_eq h.offset h.limit hother.offset
    hother.limit hrange hrange' hlimit hlimit' hwindow
  refine ⟨?_, ?_, ?_, ?_⟩
  · rw [hcolumns, hcolumns', hnames]
  · rw [hfilters, hfilters', hcalls]
  · rw [horder, horder', hterms]
  · rw [hrange, hrange', hwindows]

/-- Two searches that write the number of a filter in two ways, with a column that looks
like a list and an order by a column that has a direction in its name. -/
theorem findManyRequest_eq_of_number_and_text :
    let search (v : Value) : FindMany :=
      { filter := (Where.empty.withAnyOf [("a,b)", .literal v)]).eq "limit" v
        order := .single "b.asc" .desc }
    let q := findManyRequest "items" (search (.int 5))
    let r := findManyRequest "items" (search (.text "5"))
    (search (.int 5)).Legible ∧ (search (.text "5")).Legible ∧ q.params = r.params ∧
      q.columns = r.columns ∧
      q.filters.map FilterCall.textual = r.filters.map FilterCall.textual ∧
      q.order = r.order ∧ q.range = r.range := by
  intro search q r
  have hbranch : Notation.InertColumn "a,b)" := by decide
  have hkey : ∀ m ∈ orderMarks, ¬ m <:+: "b.asc".toList := by decide
  have hlegible (v : Value) : (search v).Legible :=
    { offset := Nat.zero_le _
      limit := (by decide : defaultPageSize ≤ greatestCount)
      branches := by simpa [search, Where.withAnyOf, Where.eq, Where.field] using hbranch
      order := by simpa [search, SortOrder.single] using hkey
      unordered := by simp [search, SortOrder.single] }
  have hparams : q.params = r.params := rfl
  exact ⟨hlegible _, hlegible _, hparams,
    findManyRequest_eq_of_params_eq "items" (hlegible (.int 5)) (hlegible (.text "5")) hparams⟩

/-- Three pairs of searches with the same parameters: a filter on a column with the name
`order` and an order, one branch and two, one key of an order and two. -/
theorem findManyRequest_params_collide :
    let byFilter := findManyRequest "items" { filter := Where.empty.eq "order" (.text "asc") }
    let byOrder := findManyRequest "items" { order := .single "eq" .asc }
    let oneBranch := findManyRequest "items"
      { filter := Where.empty.withAnyOf [("a.eq.1,b", .literal (.int 2))] }
    let twoBranches := findManyRequest "items"
      { filter := Where.empty.withAnyOf [("a", .literal (.int 1)), ("b", .literal (.int 2))] }
    let oneKey := findManyRequest "items" { order := .single "a.asc,b" .asc }
    let twoKeys := findManyRequest "items"
      { order := (SortOrder.single "a" .asc).andThen "b" .asc }
    (byFilter.params = byOrder.params ∧ byFilter.filters.length = 1 ∧ byOrder.filters = [] ∧
        byFilter.order ≠ byOrder.order) ∧
      (oneBranch.params = twoBranches.params ∧
        oneBranch.filters.flatMap FilterCall.columns = ["a.eq.1,b"] ∧
        twoBranches.filters.flatMap FilterCall.columns = ["a", "b"]) ∧
      oneKey.params = twoKeys.params ∧ oneKey.order ≠ twoKeys.order := by
  intro byFilter byOrder oneBranch twoBranches oneKey twoKeys
  refine ⟨⟨rfl, rfl, rfl, ?_⟩, ⟨rfl, rfl, rfl⟩, rfl, ?_⟩
  · have hnone : byFilter.order = [] := rfl
    have hone : byOrder.order = [⟨"eq", .asc⟩] := rfl
    rw [hnone, hone]
    exact (List.cons_ne_nil _ _).symm
  · have hone : oneKey.order.length = 1 := rfl
    have htwo : twoKeys.order.length = 2 := rfl
    intro heq
    rw [heq, htwo] at hone
    cases hone

end Backend

end TabularQuery
