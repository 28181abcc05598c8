import TabularQuery.Session

/-!
# Batches

Sessions put together.  There is no transaction: what one of them has written stays
written when a later one fails.
-/

namespace TabularQuery.Session

variable {σ α : Type}

/-- Sessions one after the other, with their results in the same sequence.  The first
fault ends the batch. -/
def all : List (Session σ α) → Session σ (List α)
  | [] => pure []
  | p :: rest => do
    let a ← p
    let as ← all rest
    return a :: as

@[simp] theorem all_nil : all ([] : List (Session σ α)) = Pure.pure [] := rfl

theorem all_cons (p : Session σ α) (rest : List (Session σ α)) :
    all (p :: rest) = p >>= fun a => all rest >>= fun as => Pure.pure (a :: as) := rfl

end TabularQuery.Session

namespace TabularQuery.Backend

variable {σ α : Type}

/-- The session that a function makes of a backend. -/
def batch (b : Backend σ) (callback : Backend σ → Session σ α) : Session σ α :=
  callback b

end TabularQuery.Backend
