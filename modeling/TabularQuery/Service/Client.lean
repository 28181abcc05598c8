import TabularQuery.Service.Reply
import TabularQuery.Service.Request

/-!
# The service as a backend

A transport brings a request to the service and its reply back, or fails to.  With a
transport, the service answers queries.

## Main definitions

* `Transport` — how a state brings requests to the service.
* `Connection.backend` — the backend of a connection.
-/

namespace TabularQuery

/-- How a state brings a request to the service: with the reply that came back, if one
came. -/
structure Transport (σ : Type) where
  deliver : Request → σ → Option HttpReply × σ

/-- The transport that reaches nothing. -/
def Transport.unreachable {σ : Type} : Transport σ :=
  ⟨fun _ s => (none, s)⟩

namespace Connection

/-- What is reported before a request is sent. -/
def sendNotice (c : Connection) (q : Query) : Event :=
  { level := .debug
    origin := .service
    message := "Sending data service request"
    fields :=
      [("url", .text (String.ofList (c.endpoint q.table))),
       ("method", .text (Method.ofQuery q).name)] }

/-- What is reported of a request without a reply. -/
def failureNotice (c : Connection) (q : Query) (message : String) : Event :=
  { level := .warn
    origin := .service
    message := "Data service request failed"
    fields := [("url", .text (String.ofList (c.endpoint q.table))), ("error", .text message)] }

/-- What is reported of a reply without success. -/
def rejectionNotice (status : Nat) (f : ServiceFault) : Event :=
  let code :=
    match f.code with
    | some c => "Some(" ++ String.ofList (Text.quotation c.toList) ++ ")"
    | none => "None"
  { level := .debug
    origin := .service
    message := "Data service rejected request"
    fields :=
      [("status", .text (statusText status)), ("code", .text code),
       ("message", .text f.message)] }

/-- The reply that has no success, of a query that was not answered. -/
def failed (c : Connection) (q : Query) (message : String) : Reply :=
  { outcome := .error (.transport message)
    events := [c.sendNotice q, c.failureNotice q message] }

/-- What comes back for a query with a reply of the service. -/
def answered (c : Connection) (q : Query) (r : HttpReply) : Reply :=
  let rejection :=
    match r.outcome with
    | .error f => if r.body.isSome && !r.isSuccess then [rejectionNotice r.status f] else []
    | .ok _ => []
  { outcome := r.outcome, events := c.sendNotice q :: rejection }

/-- The service as a backend. -/
def backend {σ : Type} (c : Connection) (transport : Transport σ) : Backend σ where
  execute q s :=
    match c.request q with
    | .error f => (c.failed q f.message, s)
    | .ok request =>
      match transport.deliver request s with
      | (none, s) =>
        (c.failed q
          ("error sending request for url (" ++ String.ofList request.url.text ++ ")"), s)
      | (some reply, s) => (c.answered q reply, s)
  credential := .ofKey c.key

end Connection

end TabularQuery
