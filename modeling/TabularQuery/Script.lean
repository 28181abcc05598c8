import TabularQuery.Backend

/-!
# Scripts

A backend that gives prepared answers, one for each query and in their order, and
remembers the queries.
-/

namespace TabularQuery

/-- Prepared answers. -/
structure Script where
  answers : List (Except ServiceFault Answer) := []
  /-- The queries so far, the oldest first. -/
  requests : List Query := []

namespace Script

/-- The answer to a query: the next that is prepared. -/
def execute (q : Query) (s : Script) : Except ServiceFault Answer × Script :=
  let requests := s.requests ++ [q]
  match s.answers with
  | answer :: answers => (answer, { answers, requests })
  | [] => (.error (.transport "no scripted response"), { answers := [], requests })

/-- The queries so far, and the script without them. -/
def takeRequests (s : Script) : List Query × Script :=
  (s.requests, { s with requests := [] })

/-- A script as a backend that shows a key. -/
def backend (key : String) : Backend Script where
  execute q s :=
    let (outcome, s) := execute q s
    ({ outcome }, s)
  credential := .ofKey key

end Script

end TabularQuery
