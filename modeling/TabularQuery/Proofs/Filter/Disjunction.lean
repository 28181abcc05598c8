import TabularQuery.Proofs.Filter.Marks
import TabularQuery.Proofs.Filter.Notation

/-!
# Disjunctions of unusual columns

Columns stand in a disjunction without quotation, so that a name may look like several
branches.  Every other name is read back: the column of a branch goes up to the first point
with an operator behind it, whatever other characters are in its name.  At the top the
column is the name of a parameter, and every column is read back there.

## Main definitions

* `Notation.InertColumn` — names in which nothing looks like an operator.
* `Notation.readBranches` — a reader of the branches of a disjunction.
* `FilterCall.Legible` — filters on a column, and disjunctions of such columns.
* `FilterCall.textual_eq_of_param_eq` — legible filters are told apart by their parameters.
-/

namespace TabularQuery

namespace Notation

/-- What shows that a column has ended. -/
def operatorMarks : List (List Char) :=
  Operator.all.map Operator.mark

theorem terminal_operatorMarks : Terminal operatorMarks := by
  unfold Terminal
  decide

theorem mark_mem (op : Operator) : op.mark ∈ operatorMarks := by
  refine List.mem_map_of_mem ?_
  cases op with
  | comparison op => cases op <;> decide
  | _ => decide

/-- A column in whose name no point has an operator behind it, also not with the operator
that is written behind the name. -/
def InertColumn (column : String) : Prop :=
  Inert operatorMarks column.toList

instance (column : String) : Decidable (InertColumn column) :=
  inferInstanceAs (Decidable (Inert operatorMarks column.toList))

/-- One branch: a column, an operator and its operands. -/
def branch (n : Nat) (s : List Char) : Option (FilterCall × List Char) :=
  match cut operatorMarks s with
  | some (column, '.' :: rest) => operation text n (String.ofList column) rest
  | _ => none

/-- The branches of a disjunction that has some. -/
def readBranches : List Char → Option (List FilterCall)
  | '(' :: s => complete (items (branch s.length) s.length s)
  | _ => none

/-- A branch with an inert column is read back. -/
theorem branch_expression {c : FilterCall} {column : String} (hc : c.column? = some column)
    (hcolumn : InertColumn column) {n : Nat} (hn : c.expression.length ≤ n) {rest : List Char}
    (hrest : Closes rest) : branch n (c.expression ++ rest) = some (c.textual, rest) := by
  obtain ⟨op, s, hwritten, ⟨tail, hmark⟩, hoperands⟩ := exists_operands hc
  -- the column ends at the mark of its operator, of which the point is not read with it
  have hcut := cut_append terminal_operatorMarks (mark_mem op) hcolumn (tail ++ rest)
  rw [← List.append_assoc op.mark, hmark, List.cons_append] at hcut
  rw [hwritten, List.append_assoc, List.cons_append, branch, hcut]
  simp only [String.ofList_toList, operation_eq]
  exact hoperands n hn rest hrest

/-- A disjunction of branches with inert columns is read back. -/
theorem readBranches_expressions {b : FilterCall} {bs : List FilterCall}
    (h : ∀ c ∈ b :: bs, ∃ column, c.column? = some column ∧ InertColumn column) :
    readBranches (FilterCall.parenthesized ((b :: bs).map FilterCall.expression)) =
      some ((b :: bs).map FilterCall.textual) := by
  -- the length of the text is budget enough for its items and for the lists in them
  let s := Text.join [','] ((b :: bs).map FilterCall.expression) ++ [')']
  have hitem : ∀ c ∈ b :: bs, ∀ rest, Closes rest →
      branch s.length (c.expression ++ rest) = some (c.textual, rest) := by
    intro c hc rest hrest
    obtain ⟨column, hcolumn, hinert⟩ := h c hc
    refine branch_expression hcolumn hinert ?_ hrest
    have hpart := length_le_join [','] (List.mem_map_of_mem (f := FilterCall.expression) hc)
    simp only [s, List.length_append]
    omega
  have hlength : bs.length < s.length := by
    have hparts := length_le_join_succ ',' ((b :: bs).map FilterCall.expression)
    simp only [List.length_map, List.length_cons] at hparts
    simp only [s, List.length_append, List.length_cons, List.length_nil]
    omega
  have hitems : items (branch s.length) s.length s = some ((b :: bs).map FilterCall.textual, []) :=
    items_join hitem hlength []
  rw [FilterCall.parenthesized, readBranches, hitems]
  rfl

/-- The filter of a query parameter, with any columns that are legible. -/
def readLegible : List Char × List Char → Option FilterCall
  | (_, '(' :: s) => (readBranches ('(' :: s)).map .anyOf
  | p => readParam p

end Notation

namespace FilterCall

/-- A filter on one column, or a disjunction of filters on columns with inert names. -/
def Legible : FilterCall → Prop
  | anyOf branches => branches ≠ [] ∧
      ∀ b ∈ branches, ∃ column, b.column? = some column ∧ Notation.InertColumn column
  | _ => True

/-- The parameter of a filter on one column starts with an operator. -/
theorem param_column {c : FilterCall} {column : String} (hc : c.column? = some column) :
    ∃ (op : Notation.Operator) (s : List Char), c.param = (column.toList, operation op.name s) := by
  cases c with
  | anyOf branches => cases hc
  | compare op column v =>
    obtain rfl := Option.some.inj hc
    exact ⟨.comparison op, v.plain, rfl⟩
  | like column pattern =>
    obtain rfl := Option.some.inj hc
    exact ⟨.like, pattern.toList, rfl⟩
  | among column vs =>
    obtain rfl := Option.some.inj hc
    exact ⟨.among, valueList vs, rfl⟩
  | notAmong column vs =>
    obtain rfl := Option.some.inj hc
    exact ⟨.notAmong, valueList vs, rfl⟩

/-- **The parameter of a legible filter is read back.** -/
theorem readLegible_param {c : FilterCall} (h : c.Legible) :
    Notation.readLegible c.param = some c.textual := by
  cases hcolumn : c.column? with
  | some column =>
    have hread := Notation.readParam_column hcolumn
    obtain ⟨op, s, hparam⟩ := param_column hcolumn
    rw [hparam] at hread ⊢
    rw [← hread]
    cases op with
    | comparison op => cases op <;> rfl
    | _ => rfl
  | none =>
    obtain ⟨branches, rfl⟩ := exists_anyOf hcolumn
    obtain ⟨hne, hbranches⟩ := h
    cases branches with
    | nil => exact absurd rfl hne
    | cons b bs =>
      have hread := Notation.readBranches_expressions hbranches
      rw [param, expressions_eq_map, textual, textualOf_eq_map]
      rw [parenthesized] at hread ⊢
      rw [Notation.readLegible, hread]
      rfl

/-- Legible filters with the same parameter are the same tree with the same texts. -/
theorem textual_eq_of_param_eq {c other : FilterCall} (h : c.Legible) (hother : other.Legible)
    (heq : c.param = other.param) : c.textual = other.textual := by
  have hread := readLegible_param h
  rw [heq, readLegible_param hother] at hread
  exact (Option.some.inj hread).symm

end FilterCall

end TabularQuery
