import TabularQuery.Proofs.Store.Execution

/-!
# What a query does to a store

A query is either refused, and then all tables keep their rows, or it is answered, and
then its table has the rows that its action asks for and the other tables keep theirs.
This holds of every query, whatever filters, order, window and number of rows it names.

## Main definitions

* `Store.outcome` — the rows that a query is about, and the rows of its table after it.
* `Store.Answered` — what is known of a query that is answered.
* `Store.execute_cases` — a query is refused or answered.
* `Store.Sends` — a session whose result is the answer to a query.
-/

namespace TabularQuery.Store

variable {s : Store} {q : Query}

/-- The rows that a query is about, and the rows of its table after it if it is not
refused. -/
def outcome (s : Store) (q : Query) : List Row × List Row :=
  match q.action with
  | .select _ => (s.matching q, s.rows q.table)
  | .insert new =>
    let inserted := (withIds s.ids s.drawn new).1
    (inserted, s.rows q.table ++ inserted)
  | .update values =>
    (((s.rows q.table).filter q.accepts).map (Fields.putAll values),
      (s.rows q.table).map fun row => if q.accepts row then Fields.putAll values row else row)
  | .delete =>
    ((s.rows q.table).filter q.accepts, (s.rows q.table).filter fun row => !q.accepts row)

/-- A query that is answered: access is not denied, the answer is about the rows that the
query is about, the table has the rows that the action asks for, and a write of which one
row is expected is about one row. -/
structure Answered (q : Query) (s : Store) (a : Answer) (t : Store) : Prop where
  allowed : q.table ∉ s.denied
  answer_eq : a = answer q (s.outcome q).1
  rows_eq : t.rows q.table = (s.outcome q).2
  one : q.single = true → q.action.isSelect = false → (s.outcome q).1.length = 1

/-! ## One query -/

theorem eq_one_of_expectOne {n : Nat} (h : expectOne q n = .ok ()) (hsingle : q.single = true) :
    n = 1 := by
  by_cases hn : n = 1
  · exact hn
  · rw [expectOne_eq_error hsingle hn] at h
    cases h

/-- Either the number of rows speaks against an action, or the action does what it asks
for. -/
theorem act_cases (s : Store) (q : Query) :
    (∃ f, act q (s.newRows q).1 (s.rows q.table) = .error f) ∨
      act q (s.newRows q).1 (s.rows q.table) = .ok (s.outcome q) ∧
        (q.single = true → q.action.isSelect = false → (s.outcome q).1.length = 1) := by
  cases haction : q.action with
  | select head =>
    refine .inr ⟨?_, by simp [Action.isSelect]⟩
    simp only [act_eq, outcome, haction]
    rfl
  | insert rows =>
    simp only [act_eq, outcome, newRows, haction]
    cases h : expectOne q (withIds s.ids s.drawn rows).1.length with
    | error f => exact .inl ⟨f, rfl⟩
    | ok u => exact .inr ⟨rfl, fun hsingle _ => eq_one_of_expectOne h hsingle⟩
  | update values =>
    simp only [act_eq, outcome, haction]
    cases h : expectOne q ((s.rows q.table).countP q.accepts) with
    | error f => exact .inl ⟨f, rfl⟩
    | ok u =>
      refine .inr ⟨rfl, fun hsingle _ => ?_⟩
      rw [List.length_map, ← List.countP_eq_length_filter]
      exact eq_one_of_expectOne h hsingle
  | delete =>
    simp only [act_eq, outcome, haction]
    cases h : expectOne q ((s.rows q.table).countP q.accepts) with
    | error f => exact .inl ⟨f, rfl⟩
    | ok u =>
      refine .inr ⟨rfl, fun hsingle _ => ?_⟩
      rw [← List.countP_eq_length_filter]
      exact eq_one_of_expectOne h hsingle

/-- A query leaves the denials and the other tables as they are. -/
theorem run_frame (s : Store) (q : Query) :
    (s.run q).2.denied = s.denied ∧
      ∀ other, other ≠ q.table → (s.run q).2.rows other = s.rows other := by
  by_cases ht : q.table ∈ s.denied
  · rw [run_of_denied ht]
    exact ⟨rfl, fun _ _ => rfl⟩
  · rw [run_eq ht]
    rcases act q (s.newRows q).1 (s.rows q.table) with f | ⟨affected, rows⟩
    · exact ⟨rfl, fun _ _ => rfl⟩
    · simp only [conclude]
      split
      · split <;> exact ⟨rfl, fun _ _ => rfl⟩
      · refine ⟨rfl, fun other hother => ?_⟩
        rw [rows_setRows_of_ne hother, rows_draw]

/-- A query is refused and leaves all rows as they are, or it does what it asks for. -/
theorem run_cases (s : Store) (q : Query) :
    (∃ f, (s.run q).1 = .error f ∧ ∀ table, (s.run q).2.rows table = s.rows table) ∨
      q.table ∉ s.denied ∧
        (s.run q).1 =
          .ok (q.cut (s.outcome q).1, if q.count then some (s.outcome q).1.length else none) ∧
        (s.run q).2.rows q.table = (s.outcome q).2 ∧
        (q.single = true → q.action.isSelect = false → (s.outcome q).1.length = 1) := by
  by_cases ht : q.table ∈ s.denied
  · rw [run_of_denied ht]
    exact .inl ⟨_, rfl, fun _ => rfl⟩
  · rw [run_eq ht]
    rcases act_cases s q with ⟨f, hf⟩ | ⟨hok, hone⟩
    · rw [hf]
      exact .inl ⟨f, rfl, fun _ => rfl⟩
    · rw [hok]
      simp only [conclude]
      split
      · rename_i haction
        split
        · exact .inl ⟨_, rfl, fun _ => rfl⟩
        · refine .inr ⟨ht, rfl, ?_, hone⟩
          rw [outcome, haction]
          rfl
      · exact .inr ⟨ht, rfl, rows_setRows _ _ _, hone⟩

/-- A query leaves the denials and the other tables as they are, however it ends. -/
theorem execute_frame (q : Query) (s : Store) :
    (execute q s).2.denied = s.denied ∧
      ∀ other, other ≠ q.table → (execute q s).2.rows other = s.rows other := by
  have hframe := run_frame (s.remember q) q
  have hstate : (execute q s).2 = ((s.remember q).run q).2 := by
    rw [execute_eq_respond]
    rcases (s.remember q).run q with ⟨_ | _, t⟩ <;> rfl
  rw [hstate]
  exact hframe

/-- **A query is refused or answered.**  If it is refused, every table keeps its rows. -/
theorem execute_cases (q : Query) (s : Store) :
    (∃ f, (execute q s).1 = .error f ∧ ∀ table, (execute q s).2.rows table = s.rows table) ∨
      ∃ a, (execute q s).1 = .ok a ∧ Answered q s a (execute q s).2 := by
  -- the queries that are remembered do not change what a query is about
  have houtcome : (s.remember q).outcome q = s.outcome q := rfl
  rcases run_cases (s.remember q) q with ⟨f, hf, hrows⟩ | ⟨ht, hok, hrows, hone⟩
  · have hrun : (s.remember q).run q = (.error f, ((s.remember q).run q).2) := by rw [← hf]
    rw [execute_error hrun]
    exact .inl ⟨f, rfl, hrows⟩
  · rw [houtcome] at hok hrows hone
    have hrun : (s.remember q).run q = (.ok (q.cut (s.outcome q).1,
        if q.count then some (s.outcome q).1.length else none), ((s.remember q).run q).2) := by
      rw [← hok]
    rw [execute_ok hrun]
    exact .inr ⟨_, rfl, ht, rfl, hrows, hone⟩

/-- A query that is refused leaves the rows of every table as they are. -/
theorem rows_of_execute_error {f : ServiceFault} (h : (execute q s).1 = .error f)
    (table : String) : (execute q s).2.rows table = s.rows table := by
  rcases execute_cases q s with ⟨g, -, hrows⟩ | ⟨a, ha, -⟩
  · exact hrows table
  · rw [ha] at h
    cases h

/-- A query that only reads leaves the rows of every table as they are. -/
theorem rows_execute_of_isSelect (hq : q.action.isSelect = true) (table : String) :
    (execute q s).2.rows table = s.rows table := by
  rcases execute_cases q s with ⟨f, -, hrows⟩ | ⟨a, -, hanswered⟩
  · exact hrows table
  · by_cases htable : table = q.table
    · rw [htable, hanswered.rows_eq, outcome]
      cases haction : q.action with
      | select head => rfl
      | _ => rw [haction] at hq; cases hq
    · exact (execute_frame q s).2 table htable

/-- A query that does not expect one row is only refused where access is denied. -/
theorem run_many (hsingle : q.single = false) (ht : q.table ∉ s.denied) :
    ∃ found, (s.run q).1 = .ok found := by
  have hexpect (n : Nat) : expectOne q n = .ok () := expectOne_eq_ok (by simp [hsingle])
  have hact : ∃ done, act q (s.newRows q).1 (s.rows q.table) = .ok done := by
    cases haction : q.action <;> simp only [act_eq, haction, hexpect] <;> exact ⟨_, rfl⟩
  obtain ⟨⟨affected, rows⟩, hact⟩ := hact
  rw [run_eq ht, hact]
  simp only [conclude]
  split
  · rw [hexpect]
    exact ⟨_, rfl⟩
  · exact ⟨_, rfl⟩

theorem answered_of_many (hsingle : q.single = false) (ht : q.table ∉ s.denied) :
    ∃ a, (execute q s).1 = .ok a ∧ Answered q s a (execute q s).2 := by
  rcases execute_cases q s with ⟨f, hf, -⟩ | hanswered
  · obtain ⟨⟨rows, count⟩, hrun⟩ := run_many (s := s.remember q) hsingle ht
    have hok : (s.remember q).run q = (.ok (rows, count), ((s.remember q).run q).2) := by
      rw [← hrun]
    rw [execute_ok hok] at hf
    cases hf
  · exact hanswered

/-! ## Queries of a session -/

/-- A query that is sent and fails leaves the rows of every table as they are. -/
theorem failsIntact_send (op : Operation) (q : Query) (table : String) :
    (Session.send backend op q).FailsIntact fun s => s.rows table := by
  intro s f hf
  have hends := Session.ends_send backend op q s
  rw [backend_execute] at hends
  rw [hends.state_eq]
  rw [hends.result_eq] at hf
  rcases execute_cases q s with ⟨g, -, hrows⟩ | ⟨a, ha, -⟩
  · exact hrows table
  · rw [ha] at hf
    cases hf

theorem failsIntact_sendFiltered (op : Operation) (d : Dispatch) (w : Where) (q : Query)
    (table : String) :
    (Session.sendFiltered backend op d w q).FailsIntact fun s => s.rows table :=
  (Session.keeps_report _).bind_failsIntact fun _ => failsIntact_send op _ table

/-- A session whose result is the answer to a query. -/
def Sends (p : Session Store Answer) (q : Query) : Prop :=
  ∀ s a, (p.run s).result = .ok a → Answered q s a (p.run s).state

theorem sends_send (op : Operation) (q : Query) : Sends (Session.send backend op q) q := by
  intro s a ha
  have hends := Session.ends_send backend op q s
  rw [backend_execute] at hends
  rw [hends.state_eq]
  rw [hends.result_eq] at ha
  rcases execute_cases q s with ⟨f, hf, -⟩ | ⟨b, hb, hanswered⟩
  · rw [hf] at ha
    cases ha
  · rw [hb] at ha
    exact Except.ok.inj ha ▸ hanswered

theorem sends_sendFiltered (op : Operation) (d : Dispatch) (w : Where) (q : Query) :
    Sends (Session.sendFiltered backend op d w q) (q.restrict d w) := by
  intro s a ha
  obtain ⟨_, -, hsend, hstate⟩ := Session.bind_eq_ok ha
  exact hstate ▸ sends_send op (q.restrict d w) _ a hsend

/-- A query with the filters of a clause that does not expect one row is answered. -/
theorem ends_many (op : Operation) (d : Dispatch) (w : Where) (hsingle : q.single = false)
    (ht : q.table ∉ s.denied) :
    ∃ a t, (Session.sendFiltered backend op d w q).Ends s (.ok a) t ∧
      Answered (q.restrict d w) s a t ∧ t.denied = s.denied := by
  have hsingle' : (q.restrict d w).single = false := hsingle
  obtain ⟨a, ha, hanswered⟩ := answered_of_many hsingle' ht
  have hexecute : execute (q.restrict d w) s = (.ok a, (execute (q.restrict d w) s).2) := by
    rw [← ha]
  exact ⟨a, _, Session.ends_sendFiltered (ends_send_ok op hexecute), hanswered,
    (execute_frame _ s).1⟩

/-- What is made of an answer afterwards leaves it an answer, if it leaves the table. -/
theorem Sends.bind {β : Type} {p : Session Store Answer} {next : Answer → Session Store β}
    {b : β} (h : Sends p q) (hnext : ∀ a, (next a).Keeps fun s => s.rows q.table)
    (hb : ((p >>= next).run s).result = .ok b) :
    ∃ a, Answered q s a ((p >>= next).run s).state ∧
      ∃ t, ((next a).run t).result = .ok b := by
  obtain ⟨a, ha, hresult, hstate⟩ := Session.bind_eq_ok hb
  have hanswered := h s a ha
  refine ⟨a, ⟨hanswered.allowed, hanswered.answer_eq, ?_, hanswered.one⟩, _, hresult⟩
  have hkept := hnext a (p.run s).state
  rw [hstate]
  exact hkept.trans hanswered.rows_eq

end TabularQuery.Store
