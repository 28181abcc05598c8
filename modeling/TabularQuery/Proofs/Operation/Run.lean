import TabularQuery.Proofs.Operation.Effect
import TabularQuery.Proofs.Operation.Failure

/-!
# Runs of operations

Operations follow one another on a store, each on its own table; an operation that fails
does not keep the next one from running.  What they tell of their effects adds up: the size
of a table is known from its size at the start and from the results alone, as long as no
operation on it is a plain deletion or an upsert, whose results tell no number.

## Main definitions

* `Job.added`, `Job.removed` — the rows that a result tells to be more or fewer.
* `Job.tally` — what the results of a run tell together.
* `Job.effect_and_size` — what each operation does, and the size after a run.
-/

namespace TabularQuery

/-- Whether the result of an operation tells how many rows its table has more or fewer. -/
def Task.tells : Task → Bool
  | delete _ | upsert _ => false
  | _ => true

namespace Job

/-- The rows that a result tells to be new in a table: one for a row that is created, and
those of an insertion of many by their number. -/
def added (table : String) (j : Job) : Except DataFault Task.Result → Nat
  | .error _ => 0
  | .ok r =>
    if j.table = table then
      match j.task, r with
      | .create _, _ => 1
      | .createMany _, .number n => n
      | _, _ => 0
    else 0

/-- The rows that a result tells to be missing from a table: those of a deletion of many
by their number. -/
def removed (table : String) (j : Job) : Except DataFault Task.Result → Nat
  | .error _ => 0
  | .ok r =>
    if j.table = table then
      match j.task, r with
      | .deleteMany _, .number n => n
      | _, _ => 0
    else 0

/-- What the results of operations tell together, one after the other on a store. -/
def tally (told : Job → Except DataFault Task.Result → Nat) : List Job → Store → Nat
  | [], _ => 0
  | j :: rest, s =>
    let o := (j.session Store.backend).run s
    told j o.result + tally told rest o.state

variable {table : String}

/-- The size of a table after an operation on it that has a result. -/
theorem length_of_effect {j : Job} {r : Task.Result} {before after : List Row}
    (htable : j.table = table) (htells : j.task.tells = true)
    (h : j.task.Effect j.now j.table before after r) :
    after.length + j.removed table (.ok r) = before.length + j.added table (.ok r) := by
  obtain ⟨now, _, task⟩ := j
  obtain rfl : _ = table := htable
  simp only [added, removed, if_true]
  cases task with
  | create args =>
    have hlength := Rows.Inserts.length_eq h
    exact hlength
  | createMany args =>
    obtain ⟨hinserts, rfl⟩ := h
    exact hinserts.length_eq
  | update args =>
    have hlength := List.Forall₂.length_eq h
    exact hlength.symm
  | updateMany args =>
    have hlength := List.Forall₂.length_eq h.1
    exact hlength.symm
  | deleteMany args =>
    obtain ⟨hremoves, rfl⟩ := h
    exact hremoves.length_eq
  | delete args => cases htells
  | upsert args => cases htells
  | _ =>
    have hsame : after = before := h
    rw [hsame]

/-- The size of a table after one operation, on it or on another one, whether it fails or
not. -/
theorem length_of_run (j : Job) (s : Store) (hordered : j.task.Ordered)
    (htells : j.table = table → j.task.tells = true) :
    (((j.session Store.backend).run s).state.rows table).length +
        j.removed table ((j.session Store.backend).run s).result =
      (s.rows table).length + j.added table ((j.session Store.backend).run s).result := by
  cases hresult : ((j.session Store.backend).run s).result with
  | error f =>
    -- a fault tells nothing, and has left the table as it was
    have hintact := j.task.failsIntact j.now j.table table s f hresult
    simp only [added, removed]
    exact congrArg (fun rows => List.length rows + 0) hintact
  | ok r =>
    by_cases htable : j.table = table
    · have heffect := Task.effect_of_ok hordered hresult
      rw [← htable] at htells ⊢
      exact length_of_effect rfl (htells rfl) heffect
    · have hother := j.task.keeps_rows_of_ne j.now (Ne.symm htable) s
      simp only [added, removed, if_neg htable]
      exact congrArg (fun rows => List.length rows + 0) hother

/-- The size of a table after operations that tell what they do to it. -/
theorem length_of_runs (jobs : List Job) (s : Store) (hordered : ∀ j ∈ jobs, j.task.Ordered)
    (htells : ∀ j ∈ jobs, j.table = table → j.task.tells = true) :
    ((Session.after (jobs.map (session Store.backend)) s).rows table).length +
        tally (removed table) jobs s =
      (s.rows table).length + tally (added table) jobs s := by
  induction jobs generalizing s with
  | nil => rfl
  | cons j rest ih =>
    obtain ⟨hjob, hrest⟩ := List.forall_mem_cons.1 hordered
    obtain ⟨hjobTells, hrestTells⟩ := List.forall_mem_cons.1 htells
    have hstep := length_of_run j s hjob hjobTells
    have htail := ih ((j.session Store.backend).run s).state hrest hrestTells
    rw [tally, tally, List.map_cons, Session.after]
    omega

/-- **What operations do to a store.**  An operation that has a result has had exactly its
effect on its table and none on the others; and the size of a table after any operations
follows from its size before them and from what they tell, if none of those on the table is
a plain deletion or an upsert. -/
theorem effect_and_size :
    (∀ (s : Store) (j : Job) (r : Task.Result), j.task.Ordered →
      ((j.session Store.backend).run s).result = .ok r →
      (∀ other, other ≠ j.table →
        ((j.session Store.backend).run s).state.rows other = s.rows other) ∧
      j.task.Effect j.now j.table (s.rows j.table)
        (((j.session Store.backend).run s).state.rows j.table) r) ∧
    ∀ (s : Store) (jobs : List Job) (table : String), (∀ j ∈ jobs, j.task.Ordered) →
      (∀ j ∈ jobs, j.table = table → j.task.tells = true) →
      ((Session.after (jobs.map (session Store.backend)) s).rows table).length +
          tally (removed table) jobs s =
        (s.rows table).length + tally (added table) jobs s := by
  refine ⟨fun s j r hordered hok => ⟨fun other hother => ?_, ?_⟩,
    fun s jobs table => length_of_runs jobs s⟩
  · exact j.task.keeps_rows_of_ne j.now hother s
  · exact Task.effect_of_ok hordered hok

/-- A change of the two rows of a kind tells their number.  After they are deleted and one
row is created, the table has one row. -/
theorem effect_and_size_by_kind :
    let s : Store :=
      { tables := [("items", [[("id", .text "1"), ("kind", .text "a")], [("kind", .text "a")]])]
        ids := fun _ => "new" }
    let w := Where.empty.eq "kind" (.text "a")
    let change : Job :=
      ⟨⟨0, 0⟩, "items", .updateMany { filter := w, data := [("size", .int 1)] }⟩
    let jobs : List Job :=
      [⟨⟨1, 0⟩, "items", .deleteMany { filter := w }⟩,
        ⟨⟨2, 0⟩, "items", .create { data := [("kind", .text "b")] }⟩]
    change.task.Ordered ∧ ((change.session Store.backend).run s).result = .ok (.number 2) ∧
      change.task.Effect change.now change.table (s.rows change.table)
        (((change.session Store.backend).run s).state.rows change.table) (.number 2) ∧
      (∀ j ∈ jobs, j.task.Ordered) ∧ (∀ j ∈ jobs, j.table = "items" → j.task.tells = true) ∧
      ((Session.after (jobs.map (session Store.backend)) s).rows "items").length = 1 := by
  intro s w change jobs
  have hchange : change.task.Ordered := List.pairwise_singleton _ _
  have hresult : ((change.session Store.backend).run s).result = .ok (.number 2) := rfl
  have hordered : ∀ j ∈ jobs, j.task.Ordered := by
    simp [jobs, Task.Ordered]
  have htells : ∀ j ∈ jobs, j.table = "items" → j.task.tells = true := by
    simp [jobs, Task.tells]
  have hadded : tally (added "items") jobs s = 1 := rfl
  have hremoved : tally (removed "items") jobs s = 2 := rfl
  obtain ⟨-, heffect⟩ := effect_and_size.1 s change _ hchange hresult
  have hsize := effect_and_size.2 s jobs "items" hordered htells
  have htwo : (s.rows "items").length = 2 := rfl
  refine ⟨hchange, hresult, heffect, hordered, htells, ?_⟩
  omega

end Job

end TabularQuery
