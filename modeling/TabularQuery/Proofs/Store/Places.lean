import Mathlib.Data.List.Basic
import TabularQuery.Store.Places

/-!
# Rows at the places of a choice

Copying, changing and taking out the rows at the places of a choice is filtering the rows by
it, changing those that are chosen, and parting them from the others.  Each loop goes over the
rows from a place on: the rows before it are done.

## Main definitions

* `Rows.mem_places_iff` — there is a chosen row at every place.
* `Rows.copies_places`, `Rows.change_places`, `Rows.drain_places` — what the loops come to.
-/

namespace TabularQuery.Rows

variable (chosen : Row → Bool)

/-- The places of the rows of a choice, where the rows stand in their table from a place on. -/
def placesFrom (i : Nat) (rows : List Row) : List Nat :=
  ((rows.zipIdx i).filter fun entry => chosen entry.1).map Prod.snd

theorem placesFrom_cons (i : Nat) (row : Row) (rest : List Row) :
    placesFrom chosen i (row :: rest) =
      if chosen row then i :: placesFrom chosen (i + 1) rest
      else placesFrom chosen (i + 1) rest := by
  rw [placesFrom, List.zipIdx_cons, List.filter_cons]
  split <;> rfl

variable {chosen} {rows : List Row}

theorem mem_places_iff {i : Nat} :
    i ∈ places chosen rows ↔ ∃ row, rows[i]? = some row ∧ chosen row = true := by
  rw [places, List.mem_map]
  constructor
  · rintro ⟨⟨row, j⟩, hmem, rfl⟩
    obtain ⟨hrow, hchosen⟩ := List.mem_filter.1 hmem
    exact ⟨row, List.mk_mem_zipIdx_iff_getElem?.1 hrow, hchosen⟩
  · rintro ⟨row, hrow, hchosen⟩
    exact ⟨(row, i), List.mem_filter.2 ⟨List.mk_mem_zipIdx_iff_getElem?.2 hrow, hchosen⟩, rfl⟩

theorem length_places (chosen : Row → Bool) (rows : List Row) :
    (places chosen rows).length = rows.countP chosen := by
  rw [places, List.length_map, ← List.countP_eq_length_filter]
  conv_rhs => rw [← List.zipIdx_map_fst 0 rows, List.countP_map]
  rfl

/-- The row behind rows that are done. -/
theorem getElem!_append_cons (done : List Row) (row : Row) (rest : List Row) :
    (done ++ row :: rest)[done.length]! = row := by
  simp

/-- **Copies of the rows at the places of a choice are the chosen rows.** -/
theorem copies_places (chosen : Row → Bool) (rows : List Row) :
    copies (places chosen rows) rows = rows.filter chosen := by
  have hfrom (rest done : List Row) :
      copies (placesFrom chosen done.length rest) (done ++ rest) = rest.filter chosen := by
    induction rest generalizing done with
    | nil => rfl
    | cons row rest ih =>
      have hnext := ih (done ++ [row])
      rw [List.length_append, List.length_singleton, List.append_assoc,
        List.singleton_append] at hnext
      rw [placesFrom_cons, List.filter_cons]
      split
      · rw [copies, List.map_cons, getElem!_append_cons, ← copies, hnext]
      · exact hnext
  exact hfrom rows []

/-- **Changing the rows at the places of a choice changes the chosen rows where they are.** -/
theorem change_places (values : Row) (chosen : Row → Bool) (rows : List Row) :
    change values (places chosen rows) rows =
      ((rows.filter chosen).map (Fields.putAll values),
        rows.map fun row => if chosen row then Fields.putAll values row else row) := by
  -- the rows that are done have their changes already
  have hfrom (rest done : List Row) :
      change values (placesFrom chosen done.length rest) (done ++ rest) =
        ((rest.filter chosen).map (Fields.putAll values),
          done ++ rest.map fun row => if chosen row then Fields.putAll values row else row) := by
    induction rest generalizing done with
    | nil => rfl
    | cons row rest ih =>
      have hnext (new : Row) := ih (done ++ [new])
      simp only [List.length_append, List.length_singleton, List.append_assoc,
        List.singleton_append] at hnext
      rw [placesFrom_cons, List.filter_cons, List.map_cons]
      split
      · rw [change, getElem!_append_cons, List.set_append_right done.length _ (Nat.le_refl _),
          Nat.sub_self, List.set_cons_zero, hnext, List.map_cons]
      · rw [hnext]
  exact hfrom rows []

/-- **Taking the rows out parts those at the places of a choice from the others.** -/
theorem drain_places (chosen : Row → Bool) (rows : List Row) :
    drain (places chosen rows) 0 rows =
      (rows.filter chosen, rows.filter fun row => !chosen row) := by
  have hfrom (doomed : List Nat) (rest : List Row) (i : Nat)
      (h : ∀ j row, rest[j]? = some row → doomed.contains (i + j) = chosen row) :
      drain doomed i rest = (rest.filter chosen, rest.filter fun row => !chosen row) := by
    induction rest generalizing i with
    | nil => rfl
    | cons row rest ih =>
      have hrow : doomed.contains i = chosen row := h 0 row rfl
      have hrest := ih (i + 1) fun j other hother => by
        rw [Nat.add_right_comm]
        exact h (j + 1) other hother
      rw [drain, hrest, hrow, List.filter_cons, List.filter_cons]
      cases chosen row <;> rfl
  refine hfrom _ rows 0 fun j row hrow => ?_
  rw [Nat.zero_add, Bool.eq_iff_iff, List.contains_iff_mem, mem_places_iff, hrow]
  simp

end TabularQuery.Rows
