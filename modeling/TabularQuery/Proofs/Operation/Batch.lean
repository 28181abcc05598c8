import TabularQuery.Batch
import TabularQuery.Proofs.Operation.Failure

/-!
# How far a batch goes

A batch runs its sessions one after the other and ends with the first fault, so that the
sessions after it are not run at all.  Its result is the one that running all of them would
give: their results in the same sequence, or the first fault.  What it leaves behind is not,
if a session that is not run would have written something.

## Main definitions

* `Session.completed` — the number of sessions before the first that fails.
* `Session.ends_all` — what a batch ends with.
* `Store.batch_ends_at_first_fault` — how far the operations of a batch are carried out.
-/

namespace TabularQuery

/-- Whether there is a result and no fault. -/
def Outcome.succeeds {σ α : Type} (o : Outcome σ α) : Bool :=
  o.result.isOk

namespace Session

variable {σ α γ : Type} {p : Session σ α} {s t : σ}

/-- The number of the sessions before the first that fails, when all run one after the
other. -/
def completed (ps : List (Session σ α)) (s : σ) : Nat :=
  ((outcomes ps s).takeWhile Outcome.succeeds).length

theorem completed_cons_ok {a : α} (h : p.Ends s (.ok a) t) (rest : List (Session σ α)) :
    completed (p :: rest) s = completed rest t + 1 := by
  have hok : (p.run s).succeeds = true := by
    rw [Outcome.succeeds, h.result_eq]
    rfl
  rw [completed, h.outcomes_cons, List.takeWhile_cons_of_pos hok, List.length_cons, completed]

theorem completed_cons_error {f : DataFault} (h : p.Ends s (.error f) t)
    (rest : List (Session σ α)) : completed (p :: rest) s = 0 := by
  have hfault : ¬ (p.run s).succeeds = true := by
    rw [Outcome.succeeds, h.result_eq]
    exact Bool.false_ne_true
  rw [completed, h.outcomes_cons, List.takeWhile_cons_of_neg hfault, List.length_nil]

/-- All sessions are completed exactly if all of them have results. -/
theorem completed_eq_length_iff (ps : List (Session σ α)) (s : σ) :
    completed ps s = ps.length ↔ ∃ as, (outcomes ps s).mapM Outcome.result = .ok as := by
  induction ps generalizing s with
  | nil => exact iff_of_true rfl ⟨[], rfl⟩
  | cons p rest ih =>
    cases hresult : (p.run s).result with
    | error f =>
      have hp : p.Ends s (.error f) (p.run s).state := ⟨hresult, rfl⟩
      rw [completed_cons_error hp, hp.outcomes_cons, List.mapM_cons, hresult]
      refine iff_of_false (Nat.succ_ne_zero _).symm ?_
      rintro ⟨as, has⟩
      cases has
    | ok a =>
      have hp : p.Ends s (.ok a) (p.run s).state := ⟨hresult, rfl⟩
      rw [completed_cons_ok hp, List.length_cons, Nat.add_right_cancel_iff, ih,
        hp.outcomes_cons, List.mapM_cons, hresult]
      cases (outcomes rest (p.run s).state).mapM Outcome.result with
      | error f => exact iff_of_false (by simp) (by rintro ⟨as, has⟩; cases has)
      | ok as => exact iff_of_true ⟨as, rfl⟩ ⟨a :: as, rfl⟩

/-- The state after some sessions and then others. -/
theorem after_append (ps qs : List (Session σ α)) (s : σ) :
    after (ps ++ qs) s = after qs (after ps s) := by
  induction ps generalizing s with
  | nil => rfl
  | cons p rest ih => exact ih _

/-- **A batch ends with the first fault.**  Its result is that of all its sessions, and the
state that it leaves is the one after the first session that fails. -/
theorem ends_all (ps : List (Session σ α)) (s : σ) :
    (all ps).Ends s ((outcomes ps s).mapM Outcome.result)
      (after (ps.take (completed ps s + 1)) s) := by
  induction ps generalizing s with
  | nil => exact ends_pure [] s
  | cons p rest ih =>
    rw [all_cons]
    cases hresult : (p.run s).result with
    | error f =>
      have hp : p.Ends s (.error f) (p.run s).state := ⟨hresult, rfl⟩
      rw [completed_cons_error hp, List.take_succ_cons, List.take_zero, hp.after_cons,
        hp.outcomes_cons, List.mapM_cons, hresult]
      exact hp.bind_error _
    | ok a =>
      have hp : p.Ends s (.ok a) (p.run s).state := ⟨hresult, rfl⟩
      have hrest := ih (p.run s).state
      rw [completed_cons_ok hp, List.take_succ_cons, hp.after_cons, hp.outcomes_cons,
        List.mapM_cons, hresult]
      refine hp.bind ?_
      cases hresults : (outcomes rest (p.run s).state).mapM Outcome.result with
      | error f =>
        rw [hresults] at hrest
        exact hrest.bind_error _
      | ok as =>
        rw [hresults] at hrest
        exact hrest.bind (ends_pure (a :: as) _)

/-- Where a session that fails leaves things intact, a batch leaves what the sessions before
its first fault leave. -/
theorem view_all {view : σ → γ} {ps : List (Session σ α)}
    (h : ∀ p ∈ ps, p.FailsIntact view) (s : σ) :
    view ((all ps).run s).state = view (after (ps.take (completed ps s)) s) := by
  rw [(ends_all ps s).state_eq]
  induction ps generalizing s with
  | nil => rfl
  | cons p rest ih =>
    obtain ⟨hfirst, hrest⟩ := List.forall_mem_cons.1 h
    cases hresult : (p.run s).result with
    | error f =>
      have hp : p.Ends s (.error f) (p.run s).state := ⟨hresult, rfl⟩
      rw [completed_cons_error hp, List.take_succ_cons, List.take_zero, hp.after_cons]
      exact hfirst s f hresult
    | ok a =>
      have hp : p.Ends s (.ok a) (p.run s).state := ⟨hresult, rfl⟩
      rw [completed_cons_ok hp, List.take_succ_cons, List.take_succ_cons, hp.after_cons,
        hp.after_cons]
      exact ih hrest _

end Session

namespace Store

/-- **The operations of a batch are carried out up to the first that fails**, and the others
are not.  The result is that of all operations, in their sequence, or the first fault.  Every
table has the rows that the operations before that fault leave, since the one that fails
changes nothing; these are the rows that all operations would leave exactly if those after
the fault would change nothing either. -/
theorem batch_ends_at_first_fault (s : Store) (jobs : List Job) :
    let sessions := jobs.map (Job.session backend)
    let batch := (Session.all sessions).run s
    let done := Session.completed sessions s
    batch.result = (Session.outcomes sessions s).mapM Outcome.result ∧
      (done = jobs.length ↔ ∃ results, batch.result = .ok results) ∧
      batch.state = Session.after (sessions.take (done + 1)) s ∧
      (∀ table, batch.state.rows table = (Session.after (sessions.take done) s).rows table) ∧
      ((∀ table, batch.state.rows table = (Session.after sessions s).rows table) ↔
        ∀ table, batch.state.rows table =
          (Session.after (sessions.drop (done + 1)) batch.state).rows table) := by
  intro sessions batch done
  have hbatch := Session.ends_all sessions s
  have hresult : batch.result = (Session.outcomes sessions s).mapM Outcome.result :=
    hbatch.result_eq
  have hstate : batch.state = Session.after (sessions.take (done + 1)) s := hbatch.state_eq
  have hintact (table : String) :
      ∀ p ∈ sessions, p.FailsIntact fun s : Store => s.rows table := by
    intro p hp
    obtain ⟨j, -, rfl⟩ := List.mem_map.1 hp
    exact j.task.failsIntact j.now j.table table
  have hall : Session.after sessions s =
      Session.after (sessions.drop (done + 1)) batch.state := by
    rw [hstate, ← Session.after_append, List.take_append_drop]
  refine ⟨hresult, ?_, hstate, fun table => Session.view_all (hintact table) s, by rw [hall]⟩
  rw [hresult, ← Session.completed_eq_length_iff, List.length_map]

/-- An operation on a table to which access is denied, and then a deletion: the deletion is
not carried out, though on its own after the fault it would empty its table. -/
theorem batch_leaves_rest_undone :
    let row : Row := [("id", .text "1")]
    let s : Store := { tables := [("items", [row])], denied := ["logs"], ids := fun _ => "new" }
    let now : Instant := ⟨0, 0⟩
    let jobs : List Job := [⟨now, "logs", .count {}⟩, ⟨now, "items", .deleteMany {}⟩]
    let sessions := jobs.map (Job.session backend)
    ((Session.all sessions).run s).state.rows "items" = [row] ∧
      (Session.after sessions s).rows "items" = [] ∧
      ((Session.all sessions).run s).result =
        .error (.backend .count "logs" (deniedFault "logs")) := by
  intro row s now jobs sessions
  exact ⟨rfl, rfl, rfl⟩

end Store

end TabularQuery
