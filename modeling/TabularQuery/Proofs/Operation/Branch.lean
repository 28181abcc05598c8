import TabularQuery.Operation.Write
import TabularQuery.Proofs.Operation.Entries
import TabularQuery.Proofs.Store.Comparison

/-!
# A disjunction with one branch

A disjunction with one branch asks for the same as its constraint does on its own, and a store
answers the two queries alike: they differ in their filters only, which accept the same rows.
Only null makes a difference.  On its own it is not asked for, and within a disjunction it is
compared as a text.

## Main definitions

* `Query.Alike` — two queries that differ only in the filters by which they accept the same.
* `Store.execute_alike` — a store does the same with both.
* `Backend.one_branch_mirrors_constraint` — the two clauses.
-/

namespace TabularQuery

/-! ## Queries that accept the same rows -/

/-- Two queries that differ in their filters only, and these accept the same rows. -/
structure Query.Alike (q q' : Query) : Prop where
  others : q' = { q with filters := q'.filters }
  accepts : q'.accepts = q.accepts

namespace Store

variable {q q' : Query}

/-- What a store has apart from the queries that it remembers. -/
def untracked (s : Store) : Store :=
  s.takeRequests.2

/-- What a store does with a query does not depend on the queries that it remembers. -/
theorem run_requests (s : Store) (requests : List Query) (q : Query) :
    run { s with requests } q = ((s.run q).1, { (s.run q).2 with requests }) := by
  by_cases ht : q.table ∈ s.denied
  · have ht' : q.table ∈ ({ s with requests } : Store).denied := ht
    rw [run_of_denied ht, run_of_denied ht']
  · have ht' : q.table ∉ ({ s with requests } : Store).denied := ht
    have hnew : ({ s with requests } : Store).newRows q = s.newRows q := rfl
    have hrows : ({ s with requests } : Store).rows q.table = s.rows q.table := rfl
    rw [run_eq ht, run_eq ht', hnew, hrows]
    rcases act q (s.newRows q).1 (s.rows q.table) with f | ⟨affected, rows⟩
    · rfl
    · simp only [conclude]
      split
      · split <;> rfl
      · rfl

/-- A store does the same with queries that accept the same rows. -/
theorem run_alike (h : q.Alike q') (s : Store) : s.run q' = s.run q := by
  have hact (inserted rows : List Row) : act q' inserted rows = act q inserted rows := by
    have haccepts := h.accepts
    rw [h.others] at haccepts ⊢
    simp only [act, actBy, expectOne, haccepts]
  have htable : q'.table = q.table := by rw [h.others]
  have hnew : s.newRows q' = s.newRows q := by
    rw [h.others]
    rfl
  have hconclude (t : Store) (done : Except ServiceFault (List Row × List Row)) :
      t.conclude q' done = t.conclude q done := by
    rw [h.others]
    rfl
  by_cases ht : q.table ∈ s.denied
  · rw [run_of_denied ht, run_of_denied (htable ▸ ht), htable]
  · rw [run_eq ht, run_eq (htable ▸ ht), hnew, htable, hact, hconclude]

/-- The answer to a query is what the store comes to, as JSON. -/
theorem execute_eq (q : Query) (s : Store) :
    execute q s =
      ((s.run q).1.map fun (rows, count) =>
        { data := if q.returnsRows then some (rowsToJson q rows) else none, count },
        { (s.run q).2 with requests := s.requests ++ [q] }) := by
  rw [execute_eq_respond, remember, run_requests]
  rcases s.run q with ⟨f | ⟨rows, count⟩, t⟩
  · rfl
  · rfl

/-- **A store answers queries alike that accept the same rows**, and does the same with its
tables, whatever queries it remembers. -/
theorem execute_alike (h : q.Alike q') {s t : Store} (hst : s.untracked = t.untracked) :
    (execute q s).1 = (execute q' t).1 ∧
      (execute q s).2.untracked = (execute q' t).2.untracked := by
  obtain ⟨requests, rfl⟩ : ∃ requests, t = { s with requests } := by
    obtain ⟨tables, denied, requests, ids, drawn⟩ := t
    simp only [untracked, takeRequests, mk.injEq, true_and] at hst
    obtain ⟨rfl, rfl, rfl, rfl⟩ := hst
    exact ⟨requests, rfl⟩
  have hrun : ({ s with requests } : Store).run q' =
      ((s.run q).1, { (s.run q).2 with requests }) := by
    rw [run_requests, run_alike h]
  rw [execute_eq, execute_eq, hrun]
  refine ⟨?_, rfl⟩
  rw [h.others]
  rfl

end Store

namespace Session

variable {w v : Where}

/-- Two clauses with as many calls that admit the same rows are sent alike. -/
theorem mirrors_sendFiltered (hadmits : w.admits .full = v.admits .full)
    (hlength : (w.calls .full).length = (v.calls .full).length) (op : Operation) {q : Query}
    (hq : q.filters = []) :
    (sendFiltered Store.backend op .full w q).Mirrors Store.untracked
      (sendFiltered Store.backend op .full v q) := by
  have hnotices (u : Where) : u.fallbackNotices q.table .full = [] := by
    simp [Where.fallbackNotices]
  have halike : (q.restrict .full w).Alike (q.restrict .full v) :=
    ⟨rfl, by rw [Query.accepts_restrict_eq hq, Query.accepts_restrict_eq hq, hadmits]⟩
  have hcount : (q.restrict .full w).filters.length = (q.restrict .full v).filters.length := by
    simp only [Query.restrict_eq, Query.filter, hq, List.nil_append, hlength]
  have hnotice : sendNotice op (q.restrict .full w) = sendNotice op (q.restrict .full v) := by
    rw [sendNotice, sendNotice, hcount]
    rfl
  rw [sendFiltered, sendFiltered, hnotices, hnotices]
  refine (mirrors_report []).bind fun _ => mirrors_send (fun s t hst => ?_) rfl hnotice
  obtain ⟨hanswer, hstate⟩ := Store.execute_alike halike hst
  rw [Store.backend_execute, Store.backend_execute, hanswer]
  exact ⟨rfl, hstate⟩

end Session

/-! ## One branch -/

namespace Where

variable {column : String} {x : Json} {k : Constraint}

/-- The clause of a disjunction with one branch. -/
def oneBranch (column : String) (k : Constraint) : Where :=
  { anyOf := some [(column, k)] }

/-- The clause of one constraint. -/
def oneField (column : String) (k : Constraint) : Where :=
  { fields := [(column, k)] }

theorem ofJson_oneBranch (hk : Constraint.ofJson column x = .ok k) :
    ofJson (.disjunction [.object [(column, x)]]) = .ok (oneBranch column k) := by
  have hbranches : branches [.object [(column, x)]] = .ok [(column, k)] := by
    simp [branches, constraints, hk, bind, Except.bind]
  rw [Json.disjunction, ofJson, ofMembers, if_pos rfl]
  simp only [hbranches]
  rfl

theorem ofJson_oneField (hcolumn : column ≠ "OR") (hk : Constraint.ofJson column x = .ok k) :
    ofJson (.object [(column, x)]) = .ok (oneField column k) := by
  simp only [ofJson, ofMembers, if_neg hcolumn, hk]
  rfl

/-- Reading the two descriptors reports the same. -/
theorem notices_oneBranch (hcolumn : column ≠ "OR") :
    notices (.disjunction [.object [(column, x)]]) = notices (.object [(column, x)]) := by
  simp only [Json.disjunction, notices, memberNotices, if_pos, if_neg hcolumn, branchNotices]
  rcases constraintNotices [(column, x)] with ⟨here, _ | _⟩ <;> simp

/-- The disjunction always has a call, -/
theorem calls_oneBranch : (oneBranch column k).calls .full = [.anyOf [k.call column]] := rfl

/-- and the constraint has one unless it is null. -/
theorem calls_oneField :
    (oneField column k).calls .full = if k.isVoid then [] else [k.call column] := by
  simp only [oneField, calls, disjunctionCalls, fieldCalls, List.nil_append, List.filter_cons]
  cases k.isVoid <;> simp [fieldCall]

/-- A constraint that is asked for on its own admits the rows that it admits as a branch. -/
theorem admits_oneBranch (hvoid : k.isVoid = false) :
    (oneBranch column k).admits .full = (oneField column k).admits .full := by
  funext row
  simp [admits, calls_oneBranch, calls_oneField, hvoid, FilterCall.accepts,
    FilterCall.acceptsSome]

/-- Null is asked for as a branch only, and there it is a text. -/
theorem admits_oneBranch_null (row : Row) :
    (oneField column (.literal .null)).admits .full row = true ∧
      ((oneBranch column (.literal .null)).admits .full row = true ↔
        row.cell? column = some "null".toList) := by
  have hplain : Value.null.plain = "null".toList := rfl
  have hword : Binary64.read? "null".toList = none := by decide +kernel
  refine ⟨rfl, ?_⟩
  rw [admits, calls_oneBranch, List.all_cons, List.all_nil, Bool.and_true,
    FilterCall.accepts_anyOf_iff, Constraint.call]
  simp only [List.mem_singleton, exists_eq_left, FilterCall.accepts_compare_iff, hplain,
    Comparison.holds, beq_iff_eq, compareTexts_eq_iff (.inr hword), Option.mem_def,
    exists_eq_right]

end Where

namespace Backend

/-- **A disjunction with one branch is its constraint, unless that is null.**  From stores that
differ in the remembered queries only, searches for many rows, for one row and deletions come to
the same with both clauses, report the same and do the same to the tables.  Null on its own
admits every row, and as a branch only those whose cell has its text. -/
theorem one_branch_mirrors_constraint {column : String} {x : Json} {k : Constraint}
    (hcolumn : column ≠ "OR") (hk : Constraint.ofJson column x = .ok k) :
    ∃ w v, Where.ofJson (.disjunction [.object [(column, x)]]) = .ok w ∧
      Where.ofJson (.object [(column, x)]) = .ok v ∧
      Where.notices (.disjunction [.object [(column, x)]]) =
        Where.notices (.object [(column, x)]) ∧
      (x.isNull = false → ∀ table,
        (∀ args : FindMany,
          (Store.backend.findMany table { args with filter := w }).Mirrors Store.untracked
            (Store.backend.findMany table { args with filter := v })) ∧
        (∀ args : FindUnique,
          (Store.backend.findUnique table { args with filter := w }).Mirrors Store.untracked
            (Store.backend.findUnique table { args with filter := v })) ∧
        (Store.backend.delete table { filter := w }).Mirrors Store.untracked
          (Store.backend.delete table { filter := v })) ∧
      (x.isNull = true →
        v.calls .full = [] ∧ w.calls .full = [.anyOf [.compare .eq column .null]] ∧
        ∀ row : Row, v.admits .full row = true ∧
          (w.admits .full row = true ↔ row.cell? column = some "null".toList)) := by
  have hvoid : k.isVoid = x.isNull := Constraint.isVoid_eq_isNull hk
  refine ⟨.oneBranch column k, .oneField column k, Where.ofJson_oneBranch hk,
    Where.ofJson_oneField hcolumn hk, Where.notices_oneBranch hcolumn, fun hx table => ?_,
    fun hx => ?_⟩
  · rw [hx] at hvoid
    have hadmits : (Where.oneBranch column k).admits .full =
        (Where.oneField column k).admits .full := Where.admits_oneBranch hvoid
    have hlength : ((Where.oneBranch column k).calls .full).length =
        ((Where.oneField column k).calls .full).length := by
      simp [Where.calls_oneBranch, Where.calls_oneField, hvoid]
    refine ⟨fun args => ?_, fun args => ?_, ?_⟩
    · have hfilters : (findManyQuery table args).filters = [] := by rw [findManyQuery_eq]
      exact (Session.mirrors_sendFiltered hadmits hlength .findMany hfilters).bind fun a =>
        Session.mirrors_normalizeAll a.records
    · exact (Session.mirrors_sendFiltered hadmits hlength .findUnique rfl).orNone .findUnique table
    · exact (Session.mirrors_sendFiltered hadmits hlength .delete rfl).bind fun _ =>
        Session.mirrors_pure ()
  · obtain rfl : x = .null := by
      cases x with
      | null => rfl
      | _ => cases hx
    obtain rfl : Constraint.literal .null = k := Except.ok.inj hk
    exact ⟨rfl, rfl, Where.admits_oneBranch_null⟩

/-- A membership, as a branch and on its own. -/
theorem one_branch_mirrors_membership :
    let x : Json := .object [("in", .array [.text "a", .text "b"])]
    "kind" ≠ "OR" ∧ x.isNull = false ∧ ∃ k, Constraint.ofJson "kind" x = .ok k ∧
      ∃ w v, Where.ofJson (.disjunction [.object [("kind", x)]]) = .ok w ∧
        Where.ofJson (.object [("kind", x)]) = .ok v ∧ ∀ s : Store,
          ((Store.backend.findMany "items" { filter := w }).run s).result =
              ((Store.backend.findMany "items" { filter := v }).run s).result ∧
            ((Store.backend.delete "items" { filter := w }).run s).state.untracked =
              ((Store.backend.delete "items" { filter := v }).run s).state.untracked := by
  intro x
  have hcolumn : "kind" ≠ "OR" := by decide
  obtain ⟨k, hk⟩ : ∃ k, Constraint.ofJson "kind" x = .ok k := ⟨_, rfl⟩
  obtain ⟨w, v, hw, hv, -, hmirrors, -⟩ := one_branch_mirrors_constraint hcolumn hk
  obtain ⟨hmany, -, hdelete⟩ := hmirrors rfl "items"
  refine ⟨hcolumn, rfl, k, hk, w, v, hw, hv, fun s => ⟨?_, ?_⟩⟩
  · exact (hmany {} s s rfl).1
  · exact (hdelete s s rfl).2.2

/-- Null as a branch leaves out the row that it gives on its own. -/
theorem one_branch_of_null_finds_no_row :
    let row : Row := [("id", .text "1")]
    let s : Store := { tables := [("items", [row])], ids := fun _ => "new" }
    ∃ w v, Where.ofJson (.disjunction [.object [("note", .null)]]) = .ok w ∧
      Where.ofJson (.object [("note", .null)]) = .ok v ∧
      ((Store.backend.findMany "items" { filter := w, page := { take := some 0 } }).run s).result =
        .ok [] ∧
      ((Store.backend.findMany "items" { filter := v, page := { take := some 0 } }).run s).result =
        .ok [row.record.normalize] := by
  intro row s
  have hallowed : "items" ∉ s.denied := List.not_mem_nil
  have hnull : Constraint.ofJson "note" .null = .ok (.literal .null) := rfl
  refine ⟨_, _, Where.ofJson_oneBranch hnull, Where.ofJson_oneField (by decide) hnull, ?_, ?_⟩
  · obtain ⟨_, hends⟩ := ends_findMany (s := s)
      { filter := .oneBranch "note" (.literal .null), page := { take := some 0 } } hallowed rfl rfl
    exact hends.result_eq
  · obtain ⟨_, hends⟩ := ends_findMany (s := s)
      { filter := .oneField "note" (.literal .null), page := { take := some 0 } } hallowed rfl rfl
    have hall : row.selected none none = row := Row.selected_all row none (by simp)
    have hfilter : (s.rows "items").filter
        ((Where.oneField "note" (.literal .null)).admits .full) = [row] := rfl
    simp only [hfilter, List.map_singleton, hall] at hends
    exact hends.result_eq

end Backend

end TabularQuery
