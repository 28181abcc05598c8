import TabularQuery.Backend
import TabularQuery.Descriptor.Decode

/-!
# Sessions

A session is a computation that sends queries to a backend.  It has a result or a fault,
it reports events, and it leaves the backend in a new state.  A session that fails stops
there: what it has done so far stays done.

## Main definitions

* `Operation` — the operations that send queries.
* `DataFault` — why an operation fails.
* `Session` — the computations, and `Session.send`, which sends one query.
-/

namespace TabularQuery

/-- The operations that send queries. -/
inductive Operation where
  | findMany
  | findUnique
  | findFirst
  | create
  | update
  | delete
  | createMany
  | updateMany
  | deleteMany
  | count
  | groupBy
  | aggregate
  deriving DecidableEq, Repr

/-- The name under which an operation is reported. -/
def Operation.name : Operation → String
  | findMany => "findMany"
  | findUnique => "findUnique"
  | findFirst => "findFirst"
  | create => "create"
  | update => "update"
  | delete => "delete"
  | createMany => "createMany"
  | updateMany => "updateMany"
  | deleteMany => "deleteMany"
  | count => "count"
  | groupBy => "groupBy"
  | aggregate => "aggregate"

/-- Why an operation on a table fails. -/
inductive DataFault where
  /-- The backend refused a query or gave no answer. -/
  | backend (operation : Operation) (table : String) (fault : ServiceFault)
  /-- The descriptor of a query cannot be decoded. -/
  | invalidDescriptor (table : String) (fault : Decode.Fault)
  /-- The data to be written are no object. -/
  | invalidData (table : String)
  /-- The rows that came back do not have the shape that is asked for. -/
  | decode (table : String) (fault : Decode.Fault)
  deriving Repr

namespace DataFault

/-- The wording of a fault. -/
def message : DataFault → String
  | backend op table f => op.name ++ " on " ++ table ++ " failed: " ++ f.message
  | invalidDescriptor table f => "invalid query for " ++ table ++ ": " ++ f.message
  | invalidData table =>
    "invalid query for " ++ table ++ ": record data must serialize to an object"
  | decode table f => "failed to decode " ++ table ++ " rows: " ++ f.message

/-- The code that the backend gave. -/
def code? : DataFault → Option String
  | backend _ _ f => f.code
  | _ => none

/-- Whether one row was expected and none or several were found. -/
def isNotFound (f : DataFault) : Bool :=
  f.code? == some ServiceFault.notFoundCode

/-- Whether a right is missing. -/
def isPermissionDenied (f : DataFault) : Bool :=
  f.code? == some ServiceFault.deniedCode

end DataFault

/-- What a session leaves behind. -/
structure Outcome (σ α : Type) where
  result : Except DataFault α
  events : List Event
  state : σ

/-- A computation that sends queries to a backend with a state. -/
structure Session (σ α : Type) where
  run : σ → Outcome σ α

namespace Session

variable {σ α β : Type}

/-- The session that only has a result. -/
def pure (a : α) : Session σ α :=
  ⟨fun s => ⟨.ok a, [], s⟩⟩

/-- The session that only fails. -/
def fail (f : DataFault) : Session σ α :=
  ⟨fun s => ⟨.error f, [], s⟩⟩

/-- The session that only reports events. -/
def report (events : List Event) : Session σ Unit :=
  ⟨fun s => ⟨.ok (), events, s⟩⟩

/-- One session after another, which is made from the result of the first.  After a fault
there is no second. -/
def bind (p : Session σ α) (next : α → Session σ β) : Session σ β :=
  ⟨fun s =>
    match p.run s with
    | ⟨.error f, events, s⟩ => ⟨.error f, events, s⟩
    | ⟨.ok a, events, s⟩ =>
      let o := (next a).run s
      { o with events := events ++ o.events }⟩

instance : Monad (Session σ) where
  pure := pure
  bind := bind

/-- Goes on after a session has ended, whether with a result or with a fault. -/
def settle (p : Session σ α) (next : Except DataFault α → Session σ β) : Session σ β :=
  ⟨fun s =>
    let first := p.run s
    let o := (next first.result).run first.state
    { o with events := first.events ++ o.events }⟩

/-- The session of a result that is known. -/
def ofExcept : Except DataFault α → Session σ α
  | .ok a => pure a
  | .error f => fail f

@[simp] theorem run_pure (a : α) (s : σ) :
    (Pure.pure a : Session σ α).run s = ⟨.ok a, [], s⟩ := rfl

@[simp] theorem run_fail (f : DataFault) (s : σ) :
    (fail f : Session σ α).run s = ⟨.error f, [], s⟩ := rfl

@[simp] theorem run_report (events : List Event) (s : σ) :
    (report events : Session σ Unit).run s = ⟨.ok (), events, s⟩ := rfl

theorem run_bind (p : Session σ α) (next : α → Session σ β) (s : σ) :
    (p >>= next).run s =
      match p.run s with
      | ⟨.error f, events, s⟩ => ⟨.error f, events, s⟩
      | ⟨.ok a, events, s⟩ =>
        { (next a).run s with events := events ++ ((next a).run s).events } := rfl

/-- A session after one with a result. -/
theorem run_bind_ok {p : Session σ α} {s t : σ} {a : α} {events : List Event}
    (h : p.run s = ⟨.ok a, events, t⟩) (next : α → Session σ β) :
    (p >>= next).run s =
      { (next a).run t with events := events ++ ((next a).run t).events } := by
  rw [run_bind, h]

/-- Nothing comes after a fault. -/
theorem run_bind_error {p : Session σ α} {s t : σ} {f : DataFault} {events : List Event}
    (h : p.run s = ⟨.error f, events, t⟩) (next : α → Session σ β) :
    (p >>= next).run s = ⟨.error f, events, t⟩ := by
  rw [run_bind, h]

@[simp] theorem run_settle (p : Session σ α) (next : Except DataFault α → Session σ β)
    (s : σ) :
    (p.settle next).run s =
      { (next (p.run s).result).run (p.run s).state with
        events := (p.run s).events ++ ((next (p.run s).result).run (p.run s).state).events } :=
  rfl

/-- Sessions that leave the same behind are the same. -/
theorem ext {p q : Session σ α} (h : ∀ s, p.run s = q.run s) : p = q := by
  cases p
  cases q
  congr
  exact funext h

instance : LawfulMonad (Session σ) :=
  LawfulMonad.mk' _
    (fun p => ext fun s => by
      show (p >>= fun a => Pure.pure a).run s = p.run s
      rw [run_bind]
      split <;> simp_all)
    (fun a next => ext fun s => by simp [run_bind])
    (fun p next last => ext fun s => by
      simp only [run_bind]
      rcases p.run s with ⟨_ | a, _, t⟩
      · rfl
      · dsimp only
        generalize (next a).run t = o
        rcases o with ⟨_ | b, _, _⟩ <;> simp)

/-- What is reported of a fault of the backend: a missing right, with what is known of
the key. -/
def faultNotices (credential : Credential) (op : Operation) (table : String)
    (fault : ServiceFault) : List Event :=
  let f := DataFault.backend op table fault
  if f.isPermissionDenied then
    [{ level := .error
       origin := .engine
       message := "Permission denied by data service"
       fields :=
        [("operation", .text op.name), ("table", .text table),
         ("credential_present", .flag credential.present),
         ("credential_prefix", .text (credential.head.getD "<none>")),
         ("error", .text f.message)] }]
  else []

/-- What is reported before a query is sent. -/
def sendNotice (op : Operation) (q : Query) : Event :=
  { level := .debug
    origin := .engine
    message := "Executing backend query"
    fields :=
      [("operation", .text op.name), ("table", .text q.table), ("verb", .text q.verb),
       ("filters", .count q.filters.length)] }

/-- Sends a query to a backend. -/
def send (b : Backend σ) (op : Operation) (q : Query) : Session σ Answer :=
  ⟨fun s =>
    let (reply, s) := b.execute q s
    let before := sendNotice op q :: reply.events
    match reply.outcome with
    | .ok answer => ⟨.ok answer, before, s⟩
    | .error fault =>
      ⟨.error (.backend op q.table fault),
        before ++ faultNotices b.credential op q.table fault, s⟩⟩

end Session

end TabularQuery
