import TabularQuery.Operation.Upsert
import TabularQuery.Proofs.Operation.FindUnique
import TabularQuery.Proofs.Operation.Write

/-!
# Changing a row or inserting it

Which of its two ways an upsert takes.  The look-up tells the one row of a filter from
everything else; that there are several rows looks to it like there being none, so a row
is then inserted beside them.

## Main definitions

* `Backend.ends_upsert_record` — the only row of the filter is changed and comes back.
* `Backend.upsert_changes_found` — it is the row that a search for it finds.
* `Backend.ends_upsert_other` — otherwise a row is inserted.
* `Backend.findUnique_none_iff_upsert_inserts` — exactly when either happens.
-/

namespace TabularQuery.Backend

variable {s : Store} {table : String}

/-- The only row that the filter admits is changed, and comes back as it is then.  The query
that looks it up and the one that changes it are remembered. -/
theorem ends_upsert_record (now : Instant) (args : Upsert) (ht : table ∉ s.denied) {row : Row}
    (hrow : (s.rows table).filter (args.filter.admits .full) = [row]) :
    let values := (args.update.stampChange now).toMembers
    let read := (findUniqueQuery table { filter := args.filter }).restrict .full args.filter
    let write := (updateQuery now table { filter := args.filter, data := args.update }).restrict
      .full args.filter
    (Store.backend.upsert now table args).Ends s
      (.ok (Row.record (Fields.putAll values row)).normalize)
      (((s.remember read).remember write).setRows table (s.changed table args.filter values)) := by
  intro values read write
  have hfind := ends_findUnique_some { filter := args.filter } ht hrow
  have hupdate := ends_update_record (s := s.remember read) now
    { filter := args.filter, data := args.update } ht hrow
  rw [Row.selected_all _ _ (by simp)] at hupdate
  exact hfind.bind ((Session.ends_report _ _).bind hupdate)

theorem ends_upsert_one (now : Instant) (args : Upsert) (ht : table ∉ s.denied) {row : Row}
    (hrow : (s.rows table).filter (args.filter.admits .full) = [row]) :
    ∃ r t, (Store.backend.upsert now table args).Ends s (.ok r) t ∧ t.denied = s.denied ∧
      t.rows table = s.changed table args.filter (args.update.stampChange now).toMembers :=
  ⟨_, _, ends_upsert_record now args ht hrow, by simp, by simp⟩

/-- If the filter admits no row or several, a row is inserted. -/
theorem ends_upsert_other (now : Instant) (args : Upsert) (ht : table ∉ s.denied)
    (hne : (s.rows table).countP (args.filter.admits .full) ≠ 1) :
    ∃ r t, (Store.backend.upsert now table args).Ends s (.ok r) t ∧ t.denied = s.denied ∧
      t.rows table =
        s.rows table ++ [s.inserted (args.insertion.stampCreation table now)] := by
  have hfind := ends_findUnique_none { filter := args.filter } ht hne
  generalize hq : (findUniqueQuery table { filter := args.filter }).restrict .full
    args.filter = q at hfind
  obtain ⟨r, t, hcreate, hdenied, hrows⟩ := ends_create (s := s.remember q) now
    { data := args.insertion } ht
  exact ⟨r, t, hfind.bind ((Session.ends_report _ _).bind hcreate), hdenied, hrows⟩

/-- Where one row is counted, it is the only one that is left. -/
theorem exists_filter_eq_singleton {p : Row → Bool} {rows : List Row}
    (h : rows.countP p = 1) : ∃ row, rows.filter p = [row] := by
  rw [List.countP_eq_length_filter] at h
  exact List.length_eq_one_iff.1 h

/-- The rows before the only one that is left, and those after it, are not left. -/
theorem exists_split_of_filter_eq_singleton {p : Row → Bool} {rows : List Row} {row : Row}
    (h : rows.filter p = [row]) :
    ∃ before after, rows = before ++ row :: after ∧ p row = true ∧
      ∀ other ∈ before ++ after, p other = false := by
  obtain ⟨before, after, hrows, hbefore, hrow, hafter⟩ := List.filter_eq_cons_iff.1 h
  refine ⟨before, after, hrows, hrow, List.forall_mem_append.2 ⟨?_, ?_⟩⟩
  · exact fun other hother => Bool.eq_false_iff.2 (hbefore other hother)
  · exact fun other hother => Bool.eq_false_iff.2 (List.filter_eq_nil_iff.1 hafter other hother)

/-- **An upsert changes the row that it has found.**  Where the filter admits exactly one row,
a search for it gives that row, and an upsert gives it back as it has changed it; the other
rows, before it and after it and in the other tables, are as they were.  Two queries were
sent, of which the second is a change, with the same filters. -/
theorem upsert_changes_found (now : Instant) (args : Upsert) (ht : table ∉ s.denied)
    (hone : (s.rows table).countP (args.filter.admits .full) = 1) :
    let values := (args.update.stampChange now).toMembers
    let o := (Store.backend.upsert now table args).run s
    ∃ before row after,
      (s.rows table = before ++ row :: after ∧ args.filter.admits .full row = true ∧
        ∀ other ∈ before ++ after, args.filter.admits .full other = false) ∧
      ((Store.backend.findUnique table { filter := args.filter }).run s).result =
        .ok (some row.record.normalize) ∧
      o.result = .ok (Row.record (Fields.putAll values row)).normalize ∧
      o.state.rows table = before ++ Fields.putAll values row :: after ∧
      (∀ other, other ≠ table → o.state.rows other = s.rows other) ∧
      ∃ read write, o.state.requests = s.requests ++ [read, write] ∧
        (read.table = table ∧ read.action = .select false) ∧
        (write.table = table ∧ write.action = .update values) ∧
        read.filters = args.filter.calls .full ∧ write.filters = args.filter.calls .full := by
  intro values o
  obtain ⟨row, honly⟩ := exists_filter_eq_singleton hone
  obtain ⟨before, after, hrows, hrow, hothers⟩ := exists_split_of_filter_eq_singleton honly
  have hfind := (ends_findUnique_some { filter := args.filter } ht honly).result_eq
  rw [Row.selected_all _ _ (by simp)] at hfind
  have hupsert := ends_upsert_record now args ht honly
  refine ⟨before, row, after, ⟨hrows, hrow, hothers⟩, hfind, hupsert.result_eq, ?_, ?_, ?_⟩
  · rw [hupsert.state_eq, Store.rows_setRows, Store.changed_of_only hrows hrow hothers]
  · intro other hother
    rw [hupsert.state_eq, Store.rows_setRows_of_ne hother]
    rfl
  · refine ⟨(findUniqueQuery table { filter := args.filter }).restrict .full args.filter,
      (updateQuery now table { filter := args.filter, data := args.update }).restrict .full
        args.filter, ?_, ⟨rfl, rfl⟩, ⟨rfl, rfl⟩, rfl, rfl⟩
    rw [hupsert.state_eq]
    exact List.append_assoc _ [_] [_]

/-- A row that a branch of a disjunction admits, between two that pass the rest of the filter
only: these stay, although they would be admitted as well if the change had lost the
disjunction. -/
theorem upsert_changes_found_by_disjunction :
    let row (kind : String) (size : Int) : Row :=
      [("kind", .text kind), ("size", .number (.integer size))]
    let s : Store :=
      { tables := [("items", [row "a" 4, row "b" 3, row "c" 5])], ids := fun _ => "new" }
    let w := (Where.empty.field "size" (.atLeast (.int 2))).withAnyOf
      [("kind", .literal (.text "b")), ("kind", .contains "x")]
    let args : Upsert := { filter := w, create := [], update := [("size", .int 1)] }
    "items" ∉ s.denied ∧ (s.rows "items").countP (w.admits .full) = 1 ∧
      (s.rows "items").countP (w.withoutDisjunction.admits .full) = 3 ∧
      ∀ now, ∃ changed : Row,
        ((Store.backend.upsert now "items" args).run s).result =
          .ok changed.record.normalize ∧
        ((Store.backend.upsert now "items" args).run s).state.rows "items" =
          [row "a" 4, changed, row "c" 5] ∧
        Fields.get? "size" changed = some (.number (.integer 1)) := by
  intro row s w args
  have hone : (s.rows "items").countP (w.admits .full) = 1 := by
    rfl
  have hall : (s.rows "items").countP (w.withoutDisjunction.admits .full) = 3 := by
    rfl
  refine ⟨List.not_mem_nil, hone, hall, fun now => ?_⟩
  obtain ⟨before, found, after, ⟨hrows, hfound, hothers⟩, -, hresult, hstate, -⟩ :=
    upsert_changes_found (s := s) now args (List.not_mem_nil (a := "items")) hone
  obtain rfl : found = row "b" 3 := by
    have hmem : found ∈ (s.rows "items").filter (w.admits .full) :=
      List.mem_filter.2 ⟨by rw [hrows]; simp, hfound⟩
    exact List.mem_singleton.1 hmem
  have hplace : before = [row "a" 4] ∧ after = [row "c" 5] := by
    have hlist : [row "a" 4, row "b" 3, row "c" 5] = before ++ row "b" 3 :: after := hrows
    match before with
    | [] => simp [row] at hlist
    | [x] => simpa [eq_comm] using hlist
    | [x, y] => simp [row] at hlist
    | x :: y :: z :: rest => simp at hlist
  obtain ⟨rfl, rfl⟩ := hplace
  exact ⟨_, hresult, hstate, rfl⟩

/-- **A search for one row gives none, and an upsert inserts a row, exactly when the filter
does not admit exactly one row**: when it admits none, and when it admits several. -/
theorem findUnique_none_iff_upsert_inserts (w : Where) (ht : table ∉ s.denied) :
    let found := (s.rows table).countP (w.admits .full)
    (∀ select relations,
      ((Store.backend.findUnique table { filter := w, select, relations }).run s).result =
        .ok none ↔ found = 0 ∨ 2 ≤ found) ∧
      ∀ now create update,
        let o := (Store.backend.upsert now table { filter := w, create, update }).run s
        (∃ r, o.result = .ok r) ∧
          ((∃ row, o.state.rows table = s.rows table ++ [row]) ↔ found = 0 ∨ 2 ≤ found) := by
  intro found
  have hcount : found = 0 ∨ 2 ≤ found ↔ found ≠ 1 := by omega
  rw [hcount]
  by_cases hone : found = 1
  · obtain ⟨row, hrow⟩ := exists_filter_eq_singleton hone
    refine ⟨fun select relations => ?_, fun now create update => ?_⟩
    · have hfind := ends_findUnique_some { filter := w, select, relations } ht hrow
      rw [hfind.result_eq]
      simp [hone]
    · obtain ⟨r, t, hends, -, hrows⟩ :=
        ends_upsert_one now { filter := w, create, update } ht hrow
      refine ⟨⟨r, hends.result_eq⟩, ?_⟩
      rw [hends.state_eq, hrows]
      have hlength (row : Row) (values : Row) :
          s.changed table w values ≠ s.rows table ++ [row] := by
        intro h
        have := congrArg List.length h
        simp [Store.changed] at this
      simp [hone, hlength]
  · refine ⟨fun select relations => ?_, fun now create update => ?_⟩
    · have hfind := ends_findUnique_none { filter := w, select, relations } ht hone
      rw [hfind.result_eq]
      simp [hone]
    · obtain ⟨r, t, hends, -, hrows⟩ :=
        ends_upsert_other now { filter := w, create, update } ht hone
      refine ⟨⟨r, hends.result_eq⟩, ?_⟩
      rw [hends.state_eq, hrows]
      simp [hone]

/-- The only row of its kind is found and changed; of another kind a row is inserted. -/
theorem findUnique_none_iff_upsert_inserts_by_kind :
    let s : Store :=
      { tables := [("items", [[("id", .text "1"), ("kind", .text "a")],
          [("id", .text "2"), ("kind", .text "b")]])]
        ids := fun _ => "new" }
    let w (kind : String) := Where.empty.eq "kind" (.text kind)
    let find (kind : String) :=
      ((Store.backend.findUnique "items" { filter := w kind }).run s).result
    let upserted (kind : String) (now : Instant) :=
      ((Store.backend.upsert now "items"
        { filter := w kind, create := [], update := [] }).run s).state.rows "items"
    "items" ∉ s.denied ∧ find "a" ≠ .ok none ∧ find "c" = .ok none ∧
      (∀ now, ¬ ∃ row, upserted "a" now = s.rows "items" ++ [row]) ∧
      ∀ now, ∃ row, upserted "c" now = s.rows "items" ++ [row] := by
  intro s w find upserted
  obtain ⟨hfindOne, hupsertOne⟩ := findUnique_none_iff_upsert_inserts (s := s)
    (w "a") List.not_mem_nil
  obtain ⟨hfindNone, hupsertNone⟩ := findUnique_none_iff_upsert_inserts (s := s)
    (w "c") List.not_mem_nil
  have hone : (s.rows "items").countP ((w "a").admits .full) = 1 := by
    rfl
  have hnone : (s.rows "items").countP ((w "c").admits .full) = 0 := by
    rfl
  rw [hone] at hfindOne hupsertOne
  rw [hnone] at hfindNone hupsertNone
  refine ⟨List.not_mem_nil, fun h => ?_, (hfindNone none none).2 (.inl rfl), ?_, ?_⟩
  · exact absurd ((hfindOne none none).1 h) (by decide)
  · exact fun now h => absurd ((hupsertOne now [] []).2.1 h) (by decide)
  · exact fun now => (hupsertNone now [] []).2.2 (.inl rfl)

/-- Two rows that match are not told from no row: neither of them is found, and an upsert
inserts a third beside them. -/
theorem upsert_inserts_beside_two_rows :
    let s : Store :=
      { tables := [("items", [[("id", .text "1"), ("kind", .text "a")],
          [("id", .text "2"), ("kind", .text "a")]])]
        ids := fun _ => "new" }
    let w := Where.empty.eq "kind" (.text "a")
    "items" ∉ s.denied ∧ (∃ row ∈ s.rows "items", w.admits .full row = true) ∧
      ((Store.backend.findUnique "items" { filter := w }).run s).result = .ok none ∧
      ∀ now create update, ∃ row,
        ((Store.backend.upsert now "items" { filter := w, create, update }).run s).state.rows
          "items" = s.rows "items" ++ [row] := by
  intro s w
  have htwo : (s.rows "items").countP (w.admits .full) = 2 := by
    rfl
  have hne : (s.rows "items").countP (w.admits .full) ≠ 1 := by
    rw [htwo]
    decide
  refine ⟨List.not_mem_nil, List.countP_pos_iff.1 (by omega), ?_, fun now create update => ?_⟩
  · exact (ends_findUnique_none { filter := w } List.not_mem_nil hne).result_eq
  · obtain ⟨r, t, hends, -, hrows⟩ := ends_upsert_other now
      { filter := w, create, update } (List.not_mem_nil (a := "items")) hne
    rw [hends.state_eq]
    exact ⟨_, hrows⟩

end TabularQuery.Backend
