import TabularQuery.Proofs.Operation.Task
import TabularQuery.Proofs.Service.Fault
import TabularQuery.Service.Client

/-!
# What a reply of the service comes to

An operation sends one query, and the reply to it decides what the operation ends with.  A
status without success is a fault, and the fault is the one that the body describes, if it
describes one.  Only a search for one row takes one of these faults for an answer.

## Main definitions

* `Task.sending?` — the query that an operation sends.
* `Task.ends_of_fault`, `Task.ends_of_answer` — what it ends with then.
* `Task.result_of_reply` — what a reply comes to.
-/

namespace TabularQuery

namespace Task

/-! ## The query of an operation -/

/-- What an operation sends: its name and its query.  Nothing is sent to insert no rows, and
a change that may become an insertion sends two queries. -/
def sending? (now : Instant) (table : String) : Task → Option (Operation × Query)
  | findMany args =>
    some (.findMany, (Backend.findManyQuery table args).restrict .full args.filter)
  | findUnique args =>
    some (.findUnique, (Backend.findUniqueQuery table args).restrict .full args.filter)
  | findFirst args =>
    some (.findFirst, (Backend.findFirstQuery table args).restrict .full args.filter)
  | count args =>
    some (.count, ((Query.ofTable table).select "*").headCount.restrict .count args.filter)
  | groupBy args =>
    some (.groupBy, ((Query.ofTable table).select args.columnList).restrict .full args.filter)
  | aggregate args =>
    some (.aggregate, ((Query.ofTable table).select "*").restrict .full args.filter)
  | create args =>
    some (.create, (((Query.ofTable table).insert
      [(args.data.stampCreation table now).toMembers]).select
        (Selection.columnList args.select none)).expectSingle)
  | update args =>
    some (.update, ((((Query.ofTable table).update (args.data.stampChange now).toMembers).select
      (Selection.columnList args.select none)).expectSingle).restrict .full args.filter)
  | delete args => some (.delete, (Query.ofTable table).delete.restrict .full args.filter)
  | createMany args =>
    if args.data.isEmpty then none
    else
      some (.createMany, (Query.ofTable table).insert
        (args.data.map fun r => (r.stampBoth now).toMembers))
  | updateMany args =>
    some (.updateMany, (((Query.ofTable table).update
      (args.data.stampChange now).toMembers).select "id").restrict .bulk args.filter)
  | deleteMany args =>
    some (.deleteMany, ((Query.ofTable table).delete.select "id").restrict .bulk args.filter)
  | upsert _ => none

/-- Whether an operation searches for one row, so that it is no fault if there is none. -/
def seeksOne : Task → Bool
  | findUnique _ | findFirst _ => true
  | _ => false

/-- Whether an operation gives back the row that it writes. -/
def givesBack : Task → Bool
  | create _ | update _ => true
  | _ => false

/-- What an operation makes of the answer to its query; nothing if the row is missing that
it has to give back. -/
def result? : Task → Answer → Option Result
  | findMany _, a => some (.records (a.records.map Record.normalize))
  | findUnique _, a | findFirst _, a => some (.found (a.records.head?.map Record.normalize))
  | count _, a => some (.number (a.count.getD 0))
  | groupBy _, a => some (.records a.records)
  | aggregate args, a => some (.reduced (.ofRecords args a.records))
  | create _, a | update _, a => a.records.head?.map fun r => .written r.normalize
  | delete _, _ => some .done
  | createMany args, _ => some (.number args.data.length)
  | updateMany _, a | deleteMany _, a => some (.number a.records.length)
  | upsert _, _ => none

variable {σ : Type} {b : Backend σ} {now : Instant} {table : String} {task : Task}
  {op : Operation} {q : Query} {s : σ}

theorem table_of_sending (h : task.sending? now table = some (op, q)) : q.table = table := by
  cases task with
  | createMany args =>
    rw [sending?] at h
    split at h
    · cases h
    · cases h
      rfl
  | findMany args =>
    cases h
    exact Backend.table_findManyQuery args
  | upsert args => cases h
  | _ => cases h; rfl

theorem ends_createMany {args : CreateMany} (h : ¬ args.data.isEmpty = true)
    {r : Except DataFault Answer} {t : σ}
    (hsend : (Session.send b .createMany ((Query.ofTable table).insert
      (args.data.map fun r => (r.stampBoth now).toMembers))).Ends s r t) :
    (b.createMany now table args).Ends s (r.map fun _ => args.data.length) t := by
  rw [Backend.createMany, if_neg h]
  simp only [List.length_map]
  cases r with
  | error f => exact hsend.bind_error _
  | ok a => exact hsend.bind (Session.ends_pure _ t)

theorem ends_orNone_of_fault {search : Session σ Answer} {f : ServiceFault} {t : σ}
    (h : search.Ends s (.error (.backend op table f)) t) :
    (Session.orNone op table search).Ends s
      (if f.code = some ServiceFault.notFoundCode then .ok none
       else .error (.backend op table f)) t := by
  split
  · rename_i hcode
    exact Session.ends_orNone_notFound op table h
      (by simp [DataFault.isNotFound, DataFault.code?, hcode])
  · rename_i hcode
    exact Session.ends_orNone_error op table h
      (by simp [DataFault.isNotFound, DataFault.code?, hcode])

/-- With a fault of the backend an operation fails, under its name and with its table; only
a search for one row has an answer if the fault says that there is none. -/
theorem ends_of_fault {f : ServiceFault} (hsent : task.sending? now table = some (op, q))
    (hfault : (b.execute q s).1.outcome = .error f) :
    (task.session b now table).Ends s
      (if task.seeksOne = true ∧ f.code = some ServiceFault.notFoundCode then .ok (.found none)
       else .error (.backend op table f))
      (b.execute q s).2 := by
  have hsend : (Session.send b op q).Ends s (.error (.backend op table f)) (b.execute q s).2 := by
    have hends := Session.ends_send b op q s
    rw [hfault, table_of_sending hsent] at hends
    exact hends
  have hfound (t : σ) {search : Session σ Answer}
      (h : search.Ends s (.error (.backend op table f)) t) :
      (Result.found <$> Session.orNone op table search).Ends s
        (if true = true ∧ f.code = some ServiceFault.notFoundCode then .ok (.found none)
         else .error (.backend op table f)) t := by
    have hends := (ends_orNone_of_fault h).map Result.found
    by_cases hcode : f.code = some ServiceFault.notFoundCode
    · rw [if_pos hcode] at hends
      rwa [if_pos ⟨rfl, hcode⟩]
    · rw [if_neg hcode] at hends
      rwa [if_neg (fun h => hcode h.2)]
  cases task with
  | findUnique args =>
    cases hsent
    exact hfound _ (Session.ends_sendFiltered hsend)
  | findFirst args =>
    cases hsent
    exact hfound _ (Session.ends_sendFiltered hsend)
  | create args =>
    cases hsent
    exact (hsend.bind_error _).map _
  | createMany args =>
    rw [sending?] at hsent
    split at hsent
    · cases hsent
    · rename_i hrows
      cases hsent
      exact (ends_createMany hrows hsend).map _
  | upsert args => cases hsent
  | _ =>
    cases hsent
    exact ((Session.ends_sendFiltered hsend).bind_error _).map _

theorem ends_writtenRecord_of_answer (a : Answer) (t : σ) :
    (Session.writtenRecord op table a).Ends t
      ((a.records.head?.map Record.normalize).elim
        (.error (.backend op table (.transport "no row returned"))) .ok) t := by
  cases hrow : a.records.head? with
  | some r => exact Session.ends_writtenRecord hrow t
  | none => exact Session.ends_writtenRecord_none hrow t

/-- With an answer an operation fails only if the row is missing that it gives back. -/
theorem ends_of_answer {a : Answer} (hsent : task.sending? now table = some (op, q))
    (hanswer : (b.execute q s).1.outcome = .ok a) :
    (task.session b now table).Ends s
      ((task.result? a).elim (.error (.backend op table (.transport "no row returned"))) .ok)
      (b.execute q s).2 := by
  have hsend : (Session.send b op q).Ends s (.ok a) (b.execute q s).2 := by
    have hends := Session.ends_send b op q s
    rw [hanswer] at hends
    exact hends
  have hwritten {p : Session σ Answer} {t : σ} (h : p.Ends s (.ok a) t) :
      (Result.written <$> (p >>= Session.writtenRecord op table)).Ends s
        ((a.records.head?.map fun r => Result.written r.normalize).elim
          (.error (.backend op table (.transport "no row returned"))) .ok) t := by
    have hrun : (p >>= Session.writtenRecord op table).Ends s _ t :=
      h.bind (ends_writtenRecord_of_answer a t)
    have hends := hrun.map Result.written
    cases hrow : a.records.head? <;> rw [hrow] at hends <;> exact hends
  cases task with
  | create args =>
    cases hsent
    exact hwritten hsend
  | update args =>
    cases hsent
    exact hwritten (Session.ends_sendFiltered hsend)
  | findMany args =>
    cases hsent
    have hrun : (b.findMany table args).Ends s (.ok (a.records.map Record.normalize)) _ :=
      (Session.ends_sendFiltered hsend).bind (Session.ends_normalizeAll _ _)
    exact hrun.map _
  | findUnique args =>
    cases hsent
    exact (Session.ends_orNone_ok _ _ (Session.ends_sendFiltered hsend)).map _
  | findFirst args =>
    cases hsent
    exact (Session.ends_orNone_ok _ _ (Session.ends_sendFiltered hsend)).map _
  | count args =>
    cases hsent
    have hrun : (b.count table args).Ends s (.ok (a.count.getD 0)) _ :=
      (Session.ends_sendFiltered hsend).bind (Session.ends_pure _ _)
    exact hrun.map _
  | groupBy args =>
    cases hsent
    have hrun : (b.groupBy table args).Ends s (.ok a.records) _ :=
      (Session.ends_sendFiltered hsend).bind (Session.ends_pure _ _)
    exact hrun.map _
  | aggregate args =>
    cases hsent
    have hrun : (b.aggregate table args).Ends s (.ok (.ofRecords args a.records)) _ :=
      (Session.ends_sendFiltered hsend).bind
        ((Session.ends_report _ _).bind (Session.ends_pure _ _))
    exact hrun.map _
  | delete args =>
    cases hsent
    have hrun : (b.delete table args).Ends s (.ok ()) _ :=
      (Session.ends_sendFiltered hsend).bind (Session.ends_pure _ _)
    exact hrun.map _
  | createMany args =>
    rw [sending?] at hsent
    split at hsent
    · cases hsent
    · rename_i hrows
      cases hsent
      exact (ends_createMany hrows hsend).map _
  | updateMany args =>
    cases hsent
    have hrun : (b.updateMany now table args).Ends s (.ok a.records.length) _ :=
      (Session.ends_sendFiltered hsend).bind (Session.ends_pure _ _)
    exact hrun.map _
  | deleteMany args =>
    cases hsent
    have hrun : (b.deleteMany table args).Ends s (.ok a.records.length) _ :=
      (Session.ends_sendFiltered hsend).bind (Session.ends_pure _ _)
    exact hrun.map _
  | upsert args => cases hsent

end Task

/-! ## Replies of the service -/

namespace HttpReply

variable {r : HttpReply} {body : String}

theorem isSuccess_iff : r.isSuccess = true ↔ 200 ≤ r.status ∧ r.status < 300 := by
  rw [isSuccess, Bool.and_eq_true, decide_eq_true_iff, decide_eq_true_iff]

theorem outcome_of_not_success (hbody : r.body = some body)
    (h : ¬ (200 ≤ r.status ∧ r.status < 300)) :
    r.outcome = .error (fault r.status body) := by
  have hfails : r.isSuccess = false := by rwa [← Bool.not_eq_true, isSuccess_iff]
  simp only [outcome, hbody, hfails, Bool.not_false, if_true]

/-- A success is an answer unless its body is neither blank nor read. -/
theorem outcome_of_success (hbody : r.body = some body)
    (h : 200 ≤ r.status ∧ r.status < 300) :
    (Text.allBlank body.toList = true ∧ r.outcome = .ok { count := countOfRanges r.ranges }) ∨
      (Text.allBlank body.toList = false ∧
        ((∃ v, Json.read body = .ok v ∧
            r.outcome = .ok { data := some v, count := countOfRanges r.ranges }) ∨
          ∃ f, Json.read body = .error f ∧
            r.outcome = .error (.transport ("invalid response body: " ++ f.message)))) := by
  have hsuccess : r.isSuccess = true := isSuccess_iff.2 h
  simp only [outcome, hbody, hsuccess, Bool.not_true, Bool.false_eq_true, if_false]
  cases hblank : Text.allBlank body.toList with
  | true => exact .inl ⟨rfl, rfl⟩
  | false =>
    refine .inr ⟨rfl, ?_⟩
    cases hread : Json.read body with
    | ok v => exact .inl ⟨v, rfl, rfl⟩
    | error f => exact .inr ⟨f, rfl, rfl⟩

end HttpReply

/-- An object, or a list with an object in it. -/
def Json.HoldsRow : Json → Prop
  | object _ => True
  | array vs => ∃ ms, object ms ∈ vs
  | _ => False

namespace Answer

/-- An answer has a row if its value is an object or a list with an object in it. -/
theorem exists_head_records_iff {a : Answer} {v : Json} (h : a.data = some v) :
    (∃ r, a.records.head? = some r) ↔ v.HoldsRow := by
  have hhead {rs : List Record} : (∃ r, rs.head? = some r) ↔ ∃ r, r ∈ rs := by
    cases rs <;> simp
  rw [hhead, records, h]
  cases v with
  | array vs =>
    simp only [List.mem_filterMap]
    constructor
    · rintro ⟨r, u, hu, hr⟩
      cases u with
      | object ms => exact ⟨ms, hu⟩
      | _ => cases hr
    · rintro ⟨ms, hms⟩
      exact ⟨_, _, hms, rfl⟩
  | object ms => simp [Record.ofJson?, Json.HoldsRow]
  | _ => simp [Record.ofJson?, Json.HoldsRow]

/-- An answer without a value has no row. -/
theorem records_of_none {a : Answer} (h : a.data = none) : a.records = [] := by
  rw [records, h]

end Answer

namespace Task

theorem result?_of_not_givesBack {task : Task} {now : Instant} {table : String}
    {sent : Operation × Query} (hsent : task.sending? now table = some sent)
    (h : task.givesBack = false) (a : Answer) : ∃ r, task.result? a = some r := by
  cases task with
  | create args => cases h
  | update args => cases h
  | upsert args => cases hsent
  | _ => exact ⟨_, rfl⟩

theorem result?_of_givesBack {task : Task} (h : task.givesBack = true) (a : Answer) :
    task.result? a = a.records.head?.map fun r => .written r.normalize := by
  cases task with
  | create args => rfl
  | update args => rfl
  | _ => cases h

/-- The reply that comes back is what the query is answered with. -/
theorem execute_of_reply {σ : Type} {c : Connection} {transport : Transport σ} {q : Query}
    {request : Request} {reply : HttpReply} {s t : σ} (hrequest : c.request q = .ok request)
    (hreply : transport.deliver request s = (some reply, t)) :
    (c.backend transport).execute q s = (c.answered q reply, t) := by
  simp only [Connection.backend, hrequest, hreply]

/-- **What a reply comes to.**  Without success it is a fault, with what the body describes
or with the status and the body, except that a search for one row has an answer if the code
says that there is none; and every fault with a code or a message is described by the text of
its object.  With success, an operation that does not give back the row it
writes fails exactly if the body is neither blank nor read as JSON, and one that does has a
result exactly if the body is read as an object, or as a list with an object in it. -/
theorem result_of_reply {σ : Type} (c : Connection) (transport : Transport σ) (now : Instant)
    (table : String) (task : Task) {op : Operation} {q : Query} {request : Request}
    {reply : HttpReply} {body : String} {s t : σ}
    (hsent : task.sending? now table = some (op, q)) (hrequest : c.request q = .ok request)
    (hreply : transport.deliver request s = (some reply, t)) (hbody : reply.body = some body) :
    let result := ((task.session (c.backend transport) now table).run s).result
    (¬ (200 ≤ reply.status ∧ reply.status < 300) →
      ∃ f, HttpReply.Reports reply.status body f ∧
        result =
          if task.seeksOne = true ∧ f.code = some ServiceFault.notFoundCode
          then .ok (.found none) else .error (.backend op table f)) ∧
    (∀ f : ServiceFault, f.code ≠ none ∨ f.message ≠ "" → body = Json.print f.toJson →
      HttpReply.Describes body f) ∧
    (200 ≤ reply.status ∧ reply.status < 300 → task.givesBack = false →
      ((∃ f, result = .error f) ↔
        Text.allBlank body.toList = false ∧ ¬ ∃ v, Json.read body = .ok v)) ∧
    (200 ≤ reply.status ∧ reply.status < 300 → task.givesBack = true →
      ((∃ r, result = .ok r) ↔ ∃ v, Json.read body = .ok v ∧ v.HoldsRow)) := by
  intro result
  have hexecute := execute_of_reply hrequest hreply
  have hfault {f : ServiceFault} (h : reply.outcome = .error f) :
      result = if task.seeksOne = true ∧ f.code = some ServiceFault.notFoundCode
        then .ok (.found none) else .error (.backend op table f) := by
    refine (ends_of_fault (b := c.backend transport) hsent ?_).result_eq
    rw [hexecute]
    exact h
  have hanswer {a : Answer} (h : reply.outcome = .ok a) :
      result = (task.result? a).elim
        (.error (.backend op table (.transport "no row returned"))) .ok := by
    refine (ends_of_answer (b := c.backend transport) hsent ?_).result_eq
    rw [hexecute]
    exact h
  -- a body that is not read is a fault without a code
  have hunread {message : String} (h : reply.outcome = .error (.transport message)) :
      result = .error (.backend op table (.transport message)) := by
    rw [hfault h, if_neg fun hcode => nomatch hcode.2]
  refine ⟨fun hstatus => ?_, fun f hf hdescribed => ?_, fun hstatus htask => ?_,
    fun hstatus htask => ?_⟩
  · exact ⟨_, HttpReply.reports_fault reply.status body,
      hfault (HttpReply.outcome_of_not_success hbody hstatus)⟩
  · rw [hdescribed]
    exact HttpReply.describes_print hf
  · rcases HttpReply.outcome_of_success hbody hstatus with
      ⟨hblank, h⟩ | ⟨hblank, ⟨v, hread, h⟩ | ⟨f, hread, h⟩⟩
    · obtain ⟨r, hr⟩ := result?_of_not_givesBack hsent htask _
      rw [hanswer h, hr, hblank]
      simp
    · obtain ⟨r, hr⟩ := result?_of_not_givesBack hsent htask _
      rw [hanswer h, hr, hread]
      simp
    · rw [hunread h, hread, hblank]
      simp
  · rcases HttpReply.outcome_of_success hbody hstatus with
      ⟨hblank, h⟩ | ⟨hblank, ⟨v, hread, h⟩ | ⟨f, hread, h⟩⟩
    · have hnone : ¬ ∃ v, Json.read body = .ok v ∧ v.HoldsRow :=
        fun ⟨v, hv, _⟩ => Json.read_of_allBlank hblank v hv
      rw [hanswer h, result?_of_givesBack htask, Answer.records_of_none rfl]
      simpa using hnone
    · rw [hanswer h, result?_of_givesBack htask, hread]
      have hrow := Answer.exists_head_records_iff (a := ⟨some v, countOfRanges reply.ranges⟩) rfl
      cases hhead : (Answer.records ⟨some v, countOfRanges reply.ranges⟩).head? with
      | none => simpa [hhead] using hrow
      | some r => simpa [hhead] using hrow
    · rw [hunread h, hread]
      simp

theorem exists_request {c : Connection} {q : Query} (h : (c.request q).isOk = true) :
    ∃ request, c.request q = .ok request := by
  cases hq : c.request q with
  | ok request => exact ⟨request, rfl⟩
  | error f =>
    rw [hq] at h
    cases h

/-- A search for one row that is answered with the code for none, and an insertion that is
answered with the row. -/
theorem result_of_missing_and_inserted :
    let c : Connection := { base := "http://localhost", key := "key" }
    let missing := "\x7b\"code\":\"PGRST116\",\"message\":\"none\"\x7d"
    let inserted := "\x7b\"id\":\"1\"\x7d"
    let transport (status : Nat) (body : String) : Transport Unit :=
      ⟨fun _ s => (some { status, body := some body }, s)⟩
    let result (status : Nat) (body : String) (task : Task) :=
      ((task.session (c.backend (transport status body)) ⟨0, 0⟩ "items").run ()).result
    result 406 missing (.findUnique {}) = .ok (.found none) ∧
      ∃ r, result 201 inserted (.create { data := [] }) = .ok r := by
  intro c missing inserted transport result
  constructor
  · have hdescribes :
        HttpReply.Describes missing { code := some "PGRST116", message := "none" } := by
      refine ⟨?_, .inl nofun⟩
      have hread : (Decode.runText Decode.serviceFault missing).1.toOption =
          some { code := some "PGRST116", message := "none" } := by decide +kernel
      cases hdecoded : (Decode.runText Decode.serviceFault missing).1 with
      | ok f =>
        rw [hdecoded] at hread
        rw [Option.some.inj hread]
      | error f =>
        rw [hdecoded] at hread
        cases hread
    obtain ⟨request, h⟩ := exists_request (c := c)
      (q := (Backend.findUniqueQuery "items" {}).restrict .full Where.empty) (by decide +kernel)
    obtain ⟨f, hf, hresult⟩ := (result_of_reply c (transport 406 missing) ⟨0, 0⟩ "items"
      (.findUnique {}) (s := ()) rfl h rfl rfl).1 (by decide)
    rw [hf.of_describes _ hdescribes] at hresult
    exact hresult
  · obtain ⟨request, h⟩ := exists_request (c := c)
      (q := (((Query.ofTable "items").insert
        [(Record.stampCreation "items" ⟨0, 0⟩ []).toMembers]).select
          (Selection.columnList none none)).expectSingle) (by decide +kernel)
    have hrow : ∃ v, Json.read inserted = .ok v ∧ v.HoldsRow := by
      have hread : ((Json.read inserted).toOption.bind Record.ofJson?).isSome = true := by
        decide +kernel
      cases hvalue : Json.read inserted with
      | error f =>
        rw [hvalue] at hread
        cases hread
      | ok v =>
        rw [hvalue] at hread
        refine ⟨v, rfl, ?_⟩
        cases v with
        | object ms => trivial
        | _ => cases hread
    exact ((result_of_reply c (transport 201 inserted) ⟨0, 0⟩ "items"
      (.create { data := [] }) (s := ()) rfl h rfl rfl).2.2.2 (by decide) rfl).2 hrow

end Task

end TabularQuery
