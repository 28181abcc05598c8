/-!
# Named fields

A list of names with values, used in two ways: in the order in which the names first
came, as in a JSON object, and in the order of the names, as in a record.  A name stands
in a list at most once; every operation here keeps it so.

## Main definitions

* `Fields.get?` — the value under a name.
* `Fields.put` — sets a value, at its place or at the end.
* `Fields.insert` — sets a value in a list ordered by name.
-/

namespace TabularQuery.Fields

variable {α β : Type}

/-- The value under a name. -/
def get? (name : String) : List (String × α) → Option α
  | [] => none
  | (n, v) :: rest => if n = name then some v else get? name rest

/-- Whether a name has a value. -/
def has (name : String) (fields : List (String × α)) : Bool :=
  (get? name fields).isSome

/-- Sets the value under a name.  A name that is there keeps its place, a new name comes
last. -/
def put (name : String) (value : α) : List (String × α) → List (String × α)
  | [] => [(name, value)]
  | (n, v) :: rest =>
    if n = name then (n, value) :: rest else (n, v) :: put name value rest

/-- Sets several values, one after the other. -/
def putAll (values fields : List (String × α)) : List (String × α) :=
  values.foldl (fun acc (n, v) => put n v acc) fields

/-- Sets the value under a name in a list ordered by name. -/
def insert (name : String) (value : α) : List (String × α) → List (String × α)
  | [] => [(name, value)]
  | (n, v) :: rest =>
    if n = name then (n, value) :: rest
    else if name < n then (name, value) :: (n, v) :: rest
    else (n, v) :: insert name value rest

/-- Sets several values in a list ordered by name, one after the other. -/
def insertAll (values fields : List (String × α)) : List (String × α) :=
  values.foldl (fun acc (n, v) => insert n v acc) fields

/-- The fields of a list in the order of their names; of a name that is there twice, the
last value. -/
def sorted (values : List (String × α)) : List (String × α) :=
  insertAll values []

/-- The names, in order. -/
def names (fields : List (String × α)) : List String :=
  fields.map (·.1)

@[simp] theorem get?_nil (name : String) : get? name ([] : List (String × α)) = none := rfl

theorem get?_cons (name : String) (n : String) (v : α) (rest : List (String × α)) :
    get? name ((n, v) :: rest) = if n = name then some v else get? name rest := rfl

/-- A value that was put is found under its name, and nothing else changes. -/
theorem get?_put (name : String) (value : α) (fields : List (String × α)) (m : String) :
    get? m (put name value fields) = if m = name then some value else get? m fields := by
  induction fields with
  | nil => simp [put, get?_cons, eq_comm]
  | cons f rest ih =>
    obtain ⟨n, v⟩ := f
    by_cases hn : n = name
    · subst hn
      by_cases hm : m = n
      · simp [put, get?_cons, hm]
      · simp [put, get?_cons, hm, Ne.symm hm]
    · by_cases hm : n = m
      · subst hm; simp [put, get?_cons, hn]
      · simp [put, get?_cons, hn, hm, ih]

/-- The same for a list ordered by name. -/
theorem get?_insert (name : String) (value : α) (fields : List (String × α)) (m : String) :
    get? m (insert name value fields) = if m = name then some value else get? m fields := by
  induction fields with
  | nil => simp [insert, get?_cons, eq_comm]
  | cons f rest ih =>
    obtain ⟨n, v⟩ := f
    by_cases hn : n = name
    · subst hn
      by_cases hm : m = n
      · simp [insert, get?_cons, hm]
      · simp [insert, get?_cons, hm, Ne.symm hm]
    · by_cases hlt : name < n
      · by_cases hm : m = name
        · simp [insert, get?_cons, hn, hlt, hm]
        · simp [insert, get?_cons, hn, hlt, hm, Ne.symm hm]
      · by_cases hm : n = m
        · subst hm; simp [insert, get?_cons, hn, hlt]
        · simp [insert, get?_cons, hn, hlt, hm, ih]

end TabularQuery.Fields
