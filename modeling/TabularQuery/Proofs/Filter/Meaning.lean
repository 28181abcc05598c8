import TabularQuery.Proofs.Except
import TabularQuery.Proofs.Json.KeyOrder
import TabularQuery.Filter.Where
import TabularQuery.Store.Filtering

/-!
# The meaning of a where-clause

What a where-clause asks of a row, read off its descriptor and not off the filter calls
that are made of it.  A constraint asks something of the text of a cell, and a cell that
is missing or null meets none.  The calls of a clause accept exactly the rows that
satisfy its descriptor, and the order of the keys of the descriptor does not count.

## Main definitions

* `Verb.Asks`, `Json.Asks` — what a constraint asks of the text of a cell.
* `Row.Meets`, `Row.MeetsSome` — one constraint, and one of a disjunction.
* `Row.Satisfies` — a whole descriptor.
* `Where.admits` — whether the calls of a clause accept a row.
-/

namespace TabularQuery

/-- The items of a list; nothing else has items. -/
def Value.items : Value → List Value
  | array vs => vs
  | _ => []

namespace Verb

/-- What a verb with its operand asks of the text of a cell. -/
def Asks (operand : Value) (t : List Char) : Verb → Prop
  | among => ∃ v ∈ operand.items, compareTexts t v.plain = .eq
  | contains => Pattern.accepts t ('%' :: (operand.plain ++ ['%'])) = true
  | equals => compareTexts t operand.plain = .eq
  | atLeast => compareTexts t operand.plain ≠ .lt
  | atMost => compareTexts t operand.plain ≠ .gt
  | above => compareTexts t operand.plain = .gt
  | below => compareTexts t operand.plain = .lt
  | differs => compareTexts t operand.plain ≠ .eq
  | notAmong => ∀ v ∈ operand.items, compareTexts t v.plain ≠ .eq

instance (operand : Value) (t : List Char) : (verb : Verb) → Decidable (verb.Asks operand t)
  | among => inferInstanceAs (Decidable (∃ v ∈ operand.items, compareTexts t v.plain = .eq))
  | contains => inferInstanceAs (Decidable (_ = true))
  | equals | above | below => inferInstanceAs (Decidable (compareTexts t operand.plain = _))
  | atLeast | atMost | differs => inferInstanceAs (Decidable (compareTexts t operand.plain ≠ _))
  | notAmong => inferInstanceAs (Decidable (∀ v ∈ operand.items, compareTexts t v.plain ≠ .eq))

/-- The verb that counts in an object: by precedence, the first that it has. -/
def leading? (members : List (String × Json)) : Option Verb :=
  all.find? fun verb => Fields.has verb.name members

end Verb

namespace Json

/-- Whether the value is null. -/
def isNull : Json → Bool
  | null => true
  | _ => false

/-- What the constraint in a descriptor asks of the text of a cell: what its verb asks, or
equality with the whole value where there is no verb. -/
def Asks (t : List Char) : Json → Prop
  | object members =>
    match Verb.leading? members with
    | some verb => verb.Asks (Value.ofJson ((Fields.get? verb.name members).getD null)) t
    | none => compareTexts t (Value.ofJson (object members)).plain = .eq
  | v => compareTexts t (Value.ofJson v).plain = .eq

instance (t : List Char) : (v : Json) → Decidable (v.Asks t)
  | object members =>
    match h : Verb.leading? members with
    | some verb =>
      decidable_of_iff
        (verb.Asks (Value.ofJson ((Fields.get? verb.name members).getD null)) t)
        (by simp only [Asks, h])
    | none =>
      decidable_of_iff (compareTexts t (Value.ofJson (object members)).plain = .eq)
        (by simp only [Asks, h])
  | null | bool _ | number _ | text _ | array _ =>
    inferInstanceAs (Decidable (compareTexts t _ = .eq))

/-- The items of a list; nothing else has items. -/
def items : Json → List Json
  | array vs => vs
  | _ => []

/-- The columns with constraints that an entry of a disjunction names. -/
def pairs : Json → List (String × Json)
  | object members => members
  | _ => []

end Json

namespace Row

/-- A row meets the constraint on a column if it has a cell there that is not null and
whose text is as the constraint asks. -/
def Meets (row : Row) (column : String) (constraint : Json) : Prop :=
  ∃ t ∈ row.cell? column, constraint.Asks t

/-- A row meets a disjunction if it meets one of the constraints of its entries, or if
they have none. -/
def MeetsSome (row : Row) (entries : List Json) : Prop :=
  (∀ e ∈ entries, e.pairs = []) ∨ ∃ e ∈ entries, ∃ p ∈ e.pairs, row.Meets p.1 p.2

/-- A row satisfies a descriptor if it meets its disjunction and the constraint under
every other key whose value is not null. -/
def Satisfies (row : Row) : Json → Prop
  | .object members =>
    (∀ d ∈ Fields.get? "OR" members, row.MeetsSome d.items) ∧
      ∀ m ∈ members, m.1 ≠ "OR" → m.2.isNull = false → row.Meets m.1 m.2
  | _ => True

instance (row : Row) (column : String) (constraint : Json) :
    Decidable (row.Meets column constraint) :=
  inferInstanceAs (Decidable (∃ t ∈ row.cell? column, constraint.Asks t))

instance (row : Row) (entries : List Json) : Decidable (row.MeetsSome entries) :=
  inferInstanceAs (Decidable ((∀ e ∈ entries, e.pairs = []) ∨
    ∃ e ∈ entries, ∃ p ∈ e.pairs, row.Meets p.1 p.2))

instance (row : Row) : (w : Json) → Decidable (row.Satisfies w)
  | .object members => inferInstanceAs (Decidable
    ((∀ d ∈ Fields.get? "OR" members, row.MeetsSome d.items) ∧
      ∀ m ∈ members, m.1 ≠ "OR" → m.2.isNull = false → row.Meets m.1 m.2))
  | .null | .bool _ | .number _ | .text _ | .array _ => inferInstanceAs (Decidable True)

end Row

/-- Whether a row passes the filter calls of a clause. -/
def Where.admits (w : Where) (d : Dispatch) (row : Row) : Bool :=
  (w.calls d).all (FilterCall.accepts row)

/-! ## The calls of a constraint -/

namespace FilterCall

theorem accepts_compare_iff {row : Row} {op : Comparison} {column : String} {v : Value} :
    (compare op column v).accepts row = true ↔
      ∃ t ∈ row.cell? column, op.holds (compareTexts t v.plain) = true := by
  rw [accepts]
  cases row.cell? column <;> simp

theorem accepts_among_iff {row : Row} {column : String} {vs : List Value} :
    (among column vs).accepts row = true ↔
      ∃ t ∈ row.cell? column, ∃ v ∈ vs, compareTexts t v.plain = .eq := by
  rw [accepts]
  cases row.cell? column <;> simp [equalsCell]

theorem accepts_notAmong_iff {row : Row} {column : String} {vs : List Value} :
    (notAmong column vs).accepts row = true ↔
      ∃ t ∈ row.cell? column, ∀ v ∈ vs, compareTexts t v.plain ≠ .eq := by
  rw [accepts]
  cases row.cell? column <;> simp [equalsCell]

theorem accepts_like_iff {row : Row} {column pattern : String} :
    (like column pattern).accepts row = true ↔
      ∃ t ∈ row.cell? column, Pattern.accepts t pattern.toList = true := by
  rw [accepts]
  cases row.cell? column <;> simp

theorem accepts_anyOf_iff {row : Row} {branches : List FilterCall} :
    (anyOf branches).accepts row = true ↔ ∃ call ∈ branches, call.accepts row = true := by
  rw [accepts, acceptsSome_eq_any, List.any_eq_true]

end FilterCall

namespace Constraint

/-- A verb that takes a list has one. -/
theorem listOperand_eq_ok {column : String} {verb : Verb} {operand : Json}
    {vs : List Value} (h : listOperand column verb operand = .ok vs) :
    (Value.ofJson operand).items = vs := by
  cases operand with
  | array items =>
    rw [Value.ofJson_array]
    exact Except.ok.inj h
  | _ => simp [listOperand] at h

/-- The call of a verb accepts the rows whose cell is as the verb asks. -/
theorem accepts_ofVerb_iff {column : String} {operand : Json} {verb : Verb}
    {c : Constraint} (h : ofVerb column operand verb = .ok c) (row : Row) :
    (c.call column).accepts row = true ↔
      ∃ t ∈ row.cell? column, verb.Asks (Value.ofJson operand) t := by
  cases verb with
  | among =>
    obtain ⟨vs, hvs, rfl⟩ := Except.map_eq_ok_iff.1 h
    simp only [call, FilterCall.accepts_among_iff, Verb.Asks, listOperand_eq_ok hvs]
  | notAmong =>
    obtain ⟨vs, hvs, rfl⟩ := Except.map_eq_ok_iff.1 h
    simp only [call, FilterCall.accepts_notAmong_iff, Verb.Asks, listOperand_eq_ok hvs]
  | contains =>
    obtain rfl := Except.ok.inj h
    simp [call, FilterCall.accepts_like_iff, Verb.Asks]
  | equals | atLeast | atMost | above | below | differs =>
    obtain rfl := Except.ok.inj h
    simp [call, FilterCall.accepts_compare_iff, Verb.Asks, Comparison.holds]

theorem verbsIn_head? (members : List (String × Json)) :
    (verbsIn members).head? = Verb.leading? members :=
  List.head?_filter ..

/-- **The call of a constraint accepts the rows that meet it.** -/
theorem accepts_call_iff {column : String} {v : Json} {c : Constraint}
    (h : ofJson column v = .ok c) (row : Row) :
    (c.call column).accepts row = true ↔ row.Meets column v := by
  have bare {v : Value} :
      (FilterCall.compare .eq column v).accepts row = true ↔
        ∃ t ∈ row.cell? column, compareTexts t v.plain = .eq := by
    simp [FilterCall.accepts_compare_iff, Comparison.holds]
  cases v with
  | object members =>
    have hhead := verbsIn_head? members
    rw [ofJson] at h
    split at h
    · rename_i hnone
      obtain rfl := Except.ok.inj h
      rw [hnone, List.head?_nil] at hhead
      simp only [call, bare, Row.Meets, Json.Asks, ← hhead]
    · rename_i verb more hsome
      rw [hsome, List.head?_cons] at hhead
      simp only [accepts_ofVerb_iff h, Row.Meets, Json.Asks, ← hhead]
  | _ =>
    obtain rfl := Except.ok.inj h
    simp only [call, bare, Row.Meets, Json.Asks]

end Constraint

end TabularQuery
