import TabularQuery.Operation.Basic

/-!
# What sessions end with

A session ends with a result and leaves a state; what it reports does not count here.
One rule for each way of putting sessions together says what the whole ends with.

## Main definitions

* `Session.Ends` — a session ends with a result and leaves a state.
* `Session.EndsLike` — two sessions end with the same and leave the same.
* `Session.Keeps`, `Session.FailsIntact` — a session leaves a part of the state as it is,
  always or when it fails.
* `Session.Mirrors` — two sessions leave the same behind as far as the state is seen.
* `Session.outcomes`, `Session.after` — what sessions leave behind one after the other, and
  the state in the end.
-/

namespace TabularQuery.Session

variable {σ α β : Type}

/-- A session ends with a result and leaves a state. -/
structure Ends (p : Session σ α) (s : σ) (result : Except DataFault α) (t : σ) : Prop where
  result_eq : (p.run s).result = result
  state_eq : (p.run s).state = t

theorem ends_pure (a : α) (s : σ) : (Pure.pure a : Session σ α).Ends s (.ok a) s :=
  ⟨rfl, rfl⟩

theorem ends_report (events : List Event) (s : σ) :
    (report events : Session σ Unit).Ends s (.ok ()) s :=
  ⟨rfl, rfl⟩

namespace Ends

variable {p : Session σ α} {s t u : σ}

/-- After a result comes the second session. -/
theorem bind {a : α} {r : Except DataFault β} {next : α → Session σ β}
    (h : p.Ends s (.ok a) t) (hnext : (next a).Ends t r u) : (p >>= next).Ends s r u := by
  have hrun : p.run s = ⟨.ok a, (p.run s).events, t⟩ := by
    rw [← h.result_eq, ← h.state_eq]
  exact ⟨by rw [run_bind_ok hrun]; exact hnext.result_eq,
    by rw [run_bind_ok hrun]; exact hnext.state_eq⟩

/-- Nothing comes after a fault. -/
theorem bind_error {f : DataFault} (h : p.Ends s (.error f) t) (next : α → Session σ β) :
    (p >>= next).Ends s (.error f) t := by
  have hrun : p.run s = ⟨.error f, (p.run s).events, t⟩ := by
    rw [← h.result_eq, ← h.state_eq]
  constructor <;> rw [run_bind_error hrun]

/-- What is made of the result of a session. -/
theorem map {r : Except DataFault α} (h : p.Ends s r t) (f : α → β) :
    (f <$> p).Ends s (r.map f) t := by
  rw [← bind_pure_comp]
  cases r with
  | error e => exact h.bind_error _
  | ok a => exact h.bind (ends_pure (f a) t)

/-- What comes after the end of a session, whatever that is. -/
theorem settle {r : Except DataFault α} {r' : Except DataFault β}
    {next : Except DataFault α → Session σ β} (h : p.Ends s r t)
    (hnext : (next r).Ends t r' u) : (p.settle next).Ends s r' u := by
  obtain ⟨rfl, rfl⟩ := h
  exact ⟨hnext.result_eq, hnext.state_eq⟩

end Ends

/-! ## Sessions that end alike -/

/-- A session ends as another one does, whatever the two report. -/
def EndsLike (p q : Session σ α) : Prop :=
  ∀ s, p.Ends s (q.run s).result (q.run s).state

theorem endsLike_report (events : List Event) (p : Session σ α) :
    (report events >>= fun _ => p).EndsLike p :=
  fun s => (ends_report events s).bind ⟨rfl, rfl⟩

namespace EndsLike

variable {p q r : Session σ α}

theorem symm (h : p.EndsLike q) : q.EndsLike p :=
  fun s => ⟨(h s).result_eq.symm, (h s).state_eq.symm⟩

theorem trans (h : p.EndsLike q) (hqr : q.EndsLike r) : p.EndsLike r :=
  fun s => ⟨(h s).result_eq.trans (hqr s).result_eq, (h s).state_eq.trans (hqr s).state_eq⟩

/-- What comes after them ends alike too. -/
theorem bind (h : p.EndsLike q) (next : α → Session σ β) :
    (p >>= next).EndsLike (q >>= next) := by
  intro s
  have hp := h s
  cases hresult : (q.run s).result with
  | error f =>
    rw [hresult] at hp
    have hq : q.Ends s (.error f) (q.run s).state := ⟨hresult, rfl⟩
    rw [(hq.bind_error next).result_eq, (hq.bind_error next).state_eq]
    exact hp.bind_error next
  | ok a =>
    rw [hresult] at hp
    have hq : (q >>= next).Ends s _ _ := Ends.bind ⟨hresult, rfl⟩ ⟨rfl, rfl⟩
    rw [hq.result_eq, hq.state_eq]
    exact hp.bind ⟨rfl, rfl⟩

theorem map (h : p.EndsLike q) (f : α → β) : (f <$> p).EndsLike (f <$> q) := by
  rw [← bind_pure_comp, ← bind_pure_comp]
  exact h.bind _

end EndsLike

/-! ## Sending queries -/

/-- A query ends with the outcome that the backend gives, its fault under the name of the
operation and the table. -/
theorem ends_send (b : Backend σ) (op : Operation) (q : Query) (s : σ) :
    (send b op q).Ends s ((b.execute q s).1.outcome.mapError (.backend op q.table))
      (b.execute q s).2 := by
  constructor <;> simp only [send]
  all_goals cases (b.execute q s).1.outcome <;> rfl

theorem ends_sendFiltered {b : Backend σ} {op : Operation} {d : Dispatch} {w : Where}
    {q : Query} {s t : σ} {r : Except DataFault Answer}
    (h : (send b op (q.restrict d w)).Ends s r t) : (sendFiltered b op d w q).Ends s r t :=
  (ends_report _ s).bind h

/-- A query with the filters of a clause ends like the query that is sent for it. -/
theorem endsLike_sendFiltered (b : Backend σ) (op : Operation) (d : Dispatch) (w : Where)
    (q : Query) : (sendFiltered b op d w q).EndsLike (send b op (q.restrict d w)) :=
  endsLike_report _ _

theorem ends_normalizeAll (rs : List Record) (s : σ) :
    (normalizeAll rs).Ends s (.ok (rs.map Record.normalize)) s :=
  (ends_report _ s).bind (ends_pure _ s)

theorem ends_firstRecord (a : Answer) (s : σ) :
    (firstRecord a).Ends s (.ok (a.records.head?.map Record.normalize)) s := by
  refine (ends_normalizeAll _ s).bind ?_
  rw [List.head?_map, List.head?_take]
  exact ends_pure _ s

/-- A write gives back the first row of its answer. -/
theorem ends_writtenRecord {op : Operation} {table : String} {a : Answer} {r : Record}
    (h : a.records.head? = some r) (s : σ) :
    (writtenRecord op table a).Ends s (.ok r.normalize) s := by
  have hfirst := ends_firstRecord a s
  rw [h, Option.map_some] at hfirst
  exact hfirst.bind (ends_pure _ s)

/-- Without a row a write fails. -/
theorem ends_writtenRecord_none {op : Operation} {table : String} {a : Answer}
    (h : a.records.head? = none) (s : σ) :
    (writtenRecord op table a).Ends s
      (.error (.backend op table (.transport "no row returned"))) s := by
  have hfirst := ends_firstRecord a s
  rw [h, Option.map_none] at hfirst
  exact hfirst.bind ⟨rfl, rfl⟩

/-! ## Searches for one row -/

/-- A search for one row gives the first row of its answer. -/
theorem ends_orNone_ok (op : Operation) (table : String) {search : Session σ Answer}
    {a : Answer} {s t : σ} (h : search.Ends s (.ok a) t) :
    (orNone op table search).Ends s (.ok (a.records.head?.map Record.normalize)) t :=
  h.settle (ends_firstRecord a t)

/-- A search for one row gives none where the fault says so. -/
theorem ends_orNone_notFound (op : Operation) (table : String)
    {search : Session σ Answer} {f : DataFault} {s t : σ} (h : search.Ends s (.error f) t)
    (hf : f.isNotFound = true) :
    (orNone op table search).Ends s (.ok none) t := by
  refine h.settle ?_
  simp only [hf, if_true]
  exact (ends_report _ t).bind (ends_pure none t)

/-- Any other fault remains one. -/
theorem ends_orNone_error (op : Operation) (table : String) {search : Session σ Answer}
    {f : DataFault} {s t : σ} (h : search.Ends s (.error f) t) (hf : f.isNotFound = false) :
    (orNone op table search).Ends s (.error f) t := by
  refine h.settle ?_
  simp only [hf, Bool.false_eq_true, if_false]
  exact ⟨rfl, rfl⟩

/-! ## What sessions keep -/

/-- A session leaves what is seen of the state as it is, however it ends. -/
def Keeps {γ : Type} (view : σ → γ) (p : Session σ α) : Prop :=
  ∀ s, view (p.run s).state = view s

/-- A session that fails has left what is seen of the state as it was. -/
def FailsIntact {γ : Type} (view : σ → γ) (p : Session σ α) : Prop :=
  ∀ s f, (p.run s).result = .error f → view (p.run s).state = view s

/-- A session after another one either does not come about, or runs on the result and the
state that the first leaves. -/
theorem bind_cases (p : Session σ α) (next : α → Session σ β) (s : σ) :
    (∃ f, (p.run s).result = .error f ∧ (p >>= next).Ends s (.error f) (p.run s).state) ∨
      ∃ a, (p.run s).result = .ok a ∧
        (p >>= next).Ends s ((next a).run (p.run s).state).result
          ((next a).run (p.run s).state).state := by
  cases hresult : (p.run s).result with
  | error f =>
    have hp : p.Ends s (.error f) (p.run s).state := ⟨hresult, rfl⟩
    exact .inl ⟨f, rfl, hp.bind_error next⟩
  | ok a =>
    have hp : p.Ends s (.ok a) (p.run s).state := ⟨hresult, rfl⟩
    exact .inr ⟨a, rfl, hp.bind ⟨rfl, rfl⟩⟩

/-- A session with a result has got it from the results of its parts. -/
theorem bind_eq_ok {p : Session σ α} {next : α → Session σ β} {s : σ} {b : β}
    (h : ((p >>= next).run s).result = .ok b) :
    ∃ a, (p.run s).result = .ok a ∧ ((next a).run (p.run s).state).result = .ok b ∧
      ((p >>= next).run s).state = ((next a).run (p.run s).state).state := by
  rcases bind_cases p next s with ⟨f, -, hends⟩ | ⟨a, ha, hends⟩
  · rw [hends.result_eq] at h
    cases h
  · exact ⟨a, ha, hends.result_eq ▸ h, hends.state_eq⟩

theorem map_eq_ok {p : Session σ α} {f : α → β} {s : σ} {b : β}
    (h : ((f <$> p).run s).result = .ok b) :
    ∃ a, (p.run s).result = .ok a ∧ b = f a ∧ ((f <$> p).run s).state = (p.run s).state := by
  rw [← bind_pure_comp] at h ⊢
  obtain ⟨a, ha, hb, hstate⟩ := bind_eq_ok h
  exact ⟨a, ha, (Except.ok.inj hb).symm, hstate⟩

section Keeps

variable {γ : Type} {view : σ → γ} {p : Session σ α} {next : α → Session σ β}

theorem keeps_pure (a : α) : (Pure.pure a : Session σ α).Keeps view :=
  fun _ => rfl

theorem keeps_fail (f : DataFault) : (fail f : Session σ α).Keeps view :=
  fun _ => rfl

theorem keeps_report (events : List Event) : (report events : Session σ Unit).Keeps view :=
  fun _ => rfl

theorem Keeps.bind (hp : p.Keeps view) (hnext : ∀ a, (next a).Keeps view) :
    (p >>= next).Keeps view := by
  intro s
  rcases bind_cases p next s with ⟨f, -, hends⟩ | ⟨a, -, hends⟩
  · rw [hends.state_eq, hp s]
  · rw [hends.state_eq, hnext a, hp s]

theorem Keeps.settle {next : Except DataFault α → Session σ β} (hp : p.Keeps view)
    (hnext : ∀ r, (next r).Keeps view) : (p.settle next).Keeps view := by
  intro s
  rw [run_settle, hnext, hp s]

theorem Keeps.map (hp : p.Keeps view) (f : α → β) : (f <$> p).Keeps view := by
  rw [← bind_pure_comp]
  exact hp.bind fun a => keeps_pure (f a)

theorem keeps_send {b : Backend σ} {q : Query}
    (h : ∀ s, view (b.execute q s).2 = view s) (op : Operation) :
    (send b op q).Keeps view := by
  intro s
  rw [(ends_send b op q s).state_eq, h s]

theorem keeps_sendFiltered {b : Backend σ} {q : Query} {d : Dispatch} {w : Where}
    (h : ∀ s, view (b.execute (q.restrict d w) s).2 = view s) (op : Operation) :
    (sendFiltered b op d w q).Keeps view :=
  (keeps_report _).bind fun _ => keeps_send h op

theorem keeps_normalizeAll (rs : List Record) :
    (normalizeAll rs : Session σ (List Record)).Keeps view :=
  (keeps_report _).bind fun _ => keeps_pure _

theorem keeps_firstRecord (a : Answer) :
    (firstRecord a : Session σ (Option Record)).Keeps view :=
  (keeps_normalizeAll _).bind fun _ => keeps_pure _

theorem keeps_writtenRecord (op : Operation) (table : String) (a : Answer) :
    (writtenRecord op table a : Session σ Record).Keeps view := by
  refine (keeps_firstRecord a).bind fun found => ?_
  cases found with
  | none => exact keeps_fail _
  | some r => exact keeps_pure r

theorem Keeps.orNone {search : Session σ Answer} (h : search.Keeps view) (op : Operation)
    (table : String) : (Session.orNone op table search).Keeps view := by
  refine h.settle fun r => ?_
  cases r with
  | ok a => exact keeps_firstRecord a
  | error f =>
    dsimp only
    split
    · exact (keeps_report _).bind fun _ => keeps_pure none
    · exact keeps_fail f

/-! ## Faults that leave things intact -/

theorem Keeps.failsIntact (h : p.Keeps view) : p.FailsIntact view :=
  fun s _ _ => h s

/-- Before a session that fails intact may come one that keeps what is seen. -/
theorem Keeps.bind_failsIntact (hp : p.Keeps view) (hnext : ∀ a, (next a).FailsIntact view) :
    (p >>= next).FailsIntact view := by
  intro s f h
  rcases bind_cases p next s with ⟨g, -, hends⟩ | ⟨a, -, hends⟩
  · rw [hends.state_eq, hp s]
  · rw [hends.result_eq] at h
    rw [hends.state_eq, hnext a _ f h, hp s]

/-- After a session that fails intact may come one that has a result. -/
theorem FailsIntact.bind (hp : p.FailsIntact view)
    (hnext : ∀ s a, (p.run s).result = .ok a →
      ∃ b, ((next a).run (p.run s).state).result = .ok b) :
    (p >>= next).FailsIntact view := by
  intro s f h
  rcases bind_cases p next s with ⟨g, hg, hends⟩ | ⟨a, ha, hends⟩
  · rw [hends.state_eq, hp s g hg]
  · obtain ⟨b, hb⟩ := hnext s a ha
    rw [hends.result_eq, hb] at h
    cases h

theorem FailsIntact.map (hp : p.FailsIntact view) (f : α → β) :
    (f <$> p).FailsIntact view := by
  rw [← bind_pure_comp]
  exact hp.bind fun _ a _ => ⟨f a, rfl⟩

end Keeps

/-! ## Sessions that mirror each other -/

/-- From states that look alike, two sessions come to the same result, report the same events
and leave states that look alike. -/
def Mirrors {γ : Type} (view : σ → γ) (p q : Session σ α) : Prop :=
  ∀ s t, view s = view t →
    (p.run s).result = (q.run t).result ∧ (p.run s).events = (q.run t).events ∧
      view (p.run s).state = view (q.run t).state

section Mirrors

variable {γ : Type} {view : σ → γ} {p q : Session σ α} {next next' : α → Session σ β}

theorem mirrors_pure (a : α) : (Pure.pure a : Session σ α).Mirrors view (Pure.pure a) :=
  fun _ _ hst => ⟨rfl, rfl, hst⟩

theorem mirrors_fail (f : DataFault) : (fail f : Session σ α).Mirrors view (fail f) :=
  fun _ _ hst => ⟨rfl, rfl, hst⟩

theorem mirrors_report (events : List Event) :
    (report events : Session σ Unit).Mirrors view (report events) :=
  fun _ _ hst => ⟨rfl, rfl, hst⟩

theorem Mirrors.bind (hp : p.Mirrors view q) (hnext : ∀ a, (next a).Mirrors view (next' a)) :
    (p >>= next).Mirrors view (q >>= next') := by
  intro s t hst
  obtain ⟨hresult, hevents, hstate⟩ := hp s t hst
  rw [run_bind, run_bind]
  rcases hfirst : p.run s with ⟨r, events, s'⟩
  rcases hsecond : q.run t with ⟨r', events', t'⟩
  rw [hfirst, hsecond] at hresult hevents hstate
  obtain rfl : r = r' := hresult
  obtain rfl : events = events' := hevents
  cases r with
  | error f => exact ⟨rfl, rfl, hstate⟩
  | ok a =>
    obtain ⟨hresult, hevents, hstate⟩ := hnext a s' t' hstate
    exact ⟨hresult, congrArg (events ++ ·) hevents, hstate⟩

theorem Mirrors.settle {next next' : Except DataFault α → Session σ β} (hp : p.Mirrors view q)
    (hnext : ∀ r, (next r).Mirrors view (next' r)) :
    (p.settle next).Mirrors view (q.settle next') := by
  intro s t hst
  obtain ⟨hresult, hevents, hstate⟩ := hp s t hst
  rw [run_settle, run_settle, hresult, hevents]
  obtain ⟨hresult, hevents, hstate⟩ := hnext _ _ _ hstate
  exact ⟨hresult, congrArg (_ ++ ·) hevents, hstate⟩

theorem mirrors_normalizeAll (rs : List Record) :
    (normalizeAll rs : Session σ (List Record)).Mirrors view (normalizeAll rs) :=
  (mirrors_report _).bind fun _ => mirrors_pure _

theorem mirrors_firstRecord (a : Answer) :
    (firstRecord a : Session σ (Option Record)).Mirrors view (firstRecord a) :=
  (mirrors_normalizeAll _).bind fun _ => mirrors_pure _

/-- Searches for one row mirror each other if what they send does. -/
theorem Mirrors.orNone {p q : Session σ Answer} (h : p.Mirrors view q) (op : Operation)
    (table : String) : (Session.orNone op table p).Mirrors view (Session.orNone op table q) := by
  refine h.settle fun r => ?_
  cases r with
  | ok a => exact mirrors_firstRecord a
  | error f =>
    dsimp only
    split
    · exact (mirrors_report _).bind fun _ => mirrors_pure none
    · exact mirrors_fail f

/-- Two queries are sent alike if the backend answers them alike and they are reported
alike. -/
theorem mirrors_send {b : Backend σ} {op : Operation} {q q' : Query}
    (h : ∀ s t, view s = view t → (b.execute q s).1 = (b.execute q' t).1 ∧
      view (b.execute q s).2 = view (b.execute q' t).2)
    (htable : q.table = q'.table) (hnotice : sendNotice op q = sendNotice op q') :
    (send b op q).Mirrors view (send b op q') := by
  intro s t hst
  obtain ⟨hreply, hstate⟩ := h s t hst
  simp only [send, hreply, htable, hnotice]
  cases (b.execute q' t).1.outcome with
  | ok a => exact ⟨rfl, rfl, hstate⟩
  | error f => exact ⟨rfl, rfl, hstate⟩

end Mirrors

/-! ## Sessions one after the other -/

/-- What sessions leave behind that run one after the other.  A fault does not keep the
next one from running. -/
def outcomes : List (Session σ α) → σ → List (Outcome σ α)
  | [], _ => []
  | p :: rest, s => p.run s :: outcomes rest (p.run s).state

/-- The state that such sessions leave in the end. -/
def after : List (Session σ α) → σ → σ
  | [], s => s
  | p :: rest, s => after rest (p.run s).state

@[simp] theorem outcomes_nil (s : σ) : outcomes ([] : List (Session σ α)) s = [] := rfl

theorem Ends.outcomes_cons {p : Session σ α} {s t : σ} {r : Except DataFault α}
    (h : p.Ends s r t) (rest : List (Session σ α)) :
    outcomes (p :: rest) s = p.run s :: outcomes rest t := by
  rw [outcomes, h.state_eq]

theorem Ends.after_cons {p : Session σ α} {s t : σ} {r : Except DataFault α}
    (h : p.Ends s r t) (rest : List (Session σ α)) : after (p :: rest) s = after rest t := by
  rw [after, h.state_eq]

/-- Sessions whose results are known while a condition on the state holds, and which keep
it, have these results one after the other. -/
theorem results_outcomes {ι : Type} {p : ι → Session σ α} {result : ι → α} {P : σ → Prop}
    {is : List ι}
    (h : ∀ i ∈ is, ∀ s, P s → ∃ t, (p i).Ends s (.ok (result i)) t ∧ P t) {s : σ}
    (hs : P s) :
    (outcomes (is.map p) s).map Outcome.result = is.map fun i => .ok (result i) := by
  induction is generalizing s with
  | nil => rfl
  | cons i rest ih =>
    obtain ⟨hfirst, hrest⟩ := List.forall_mem_cons.1 h
    obtain ⟨t, hends, ht⟩ := hfirst s hs
    rw [List.map_cons, hends.outcomes_cons, List.map_cons, List.map_cons, hends.result_eq,
      ih hrest ht]

end TabularQuery.Session
