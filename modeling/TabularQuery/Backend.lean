import TabularQuery.Log
import TabularQuery.Query.Basic

/-!
# Backends

What answers queries: a store, the service behind its interface, or a list of answers.
A backend has a state; an answer is rows and a count, or a fault as the service words
it.

## Main definitions

* `ServiceFault`, `Answer` — the two outcomes of a query.
* `Backend` — how a state answers a query.
-/

namespace TabularQuery

/-- A fault of the service. -/
structure ServiceFault where
  code : Option String := none
  message : String := ""
  details : Option String := none
  hint : Option String := none
  deriving DecidableEq, Repr

namespace ServiceFault

/-- The code for one row expected and none or several found. -/
def notFoundCode : String := "PGRST116"

/-- The code for a missing right. -/
def deniedCode : String := "42501"

/-- A fault with a code. -/
def ofCode (code message : String) : ServiceFault :=
  { code := some code, message }

/-- A fault without a code: the service gave no answer of its own. -/
def transport (message : String) : ServiceFault :=
  { message }

end ServiceFault

/-- The answer to a query. -/
structure Answer where
  data : Option Json := none
  count : Option Nat := none
  deriving Repr

/-- What a backend shows of its key. -/
structure Credential where
  present : Bool := false
  /-- The first characters of the key. -/
  head : Option String := none
  deriving DecidableEq, Repr

/-- What is shown of a key. -/
def Credential.ofKey (key : String) : Credential :=
  if key.isEmpty then {}
  else { present := true, head := some (String.ofList (key.toList.take 8)) }

/-- What comes back for a query, and what is reported meanwhile. -/
structure Reply where
  outcome : Except ServiceFault Answer
  events : List Event := []

/-- How a state answers a query. -/
structure Backend (σ : Type) where
  execute : Query → σ → Reply × σ
  credential : Credential := {}

end TabularQuery
