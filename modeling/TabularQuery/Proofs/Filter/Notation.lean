import Mathlib.Data.List.TakeDrop
import TabularQuery.Filter.Call

/-!
# Reading filters back

A reader of the grammar in which filters are written: a column, an operator and its
operands with points between them, lists in parentheses, and disjunctions.  What is
written is read back as the same tree, whatever the texts of the operands are.  So no
operand can end a list or a disjunction, add a branch to it or change an operator.

## Main definitions

* `Notation.Operator` — the operators with a column.
* `Notation.readExpression`, `Notation.readParam` — the readers.
* `FilterCall.textual` — a call with the texts of its operands in their place.
* `FilterCall.read_expression_and_param` — what is written is read back.
-/

namespace TabularQuery

namespace Notation

/-- An operator that stands between a column and its operands. -/
inductive Operator where
  | comparison (op : Comparison)
  | among
  | notAmong
  | like
  deriving DecidableEq, Repr

namespace Operator

/-- The name of an operator. -/
def name : Operator → String
  | comparison op => op.name
  | among => "in"
  | notAmong => "not.in"
  | like => "ilike"

/-- What shows an operator behind a column: the points around its name, and the parenthesis
of its list if it takes one. -/
def mark : Operator → List Char
  | comparison op => '.' :: (op.name.toList ++ ['.'])
  | among => ['.', 'i', 'n', '.', '(']
  | notAmong => ['.', 'n', 'o', 't', '.', 'i', 'n', '.', '(']
  | like => ['.', 'i', 'l', 'i', 'k', 'e', '.']

/-- The operators. -/
def all : List Operator :=
  [comparison .eq, comparison .neq, comparison .gt, comparison .gte, comparison .lt,
    comparison .lte, among, notAmong, like]

/-- The operator whose name and point a text starts with, and what comes after them. -/
def read (s : List Char) : Option (Operator × List Char) :=
  all.findSome? fun op =>
    ((op.name.toList ++ ['.']).isPrefixOf? s).map fun rest => (op, rest)

end Operator

/-! ## Texts and lists -/

/-- A text up to its closing quote, and what comes after it. -/
def unquote : List Char → Option (List Char × List Char)
  | [] => none
  | '"' :: rest => some ([], rest)
  | '\\' :: c :: rest => (unquote rest).map fun (t, rest) => (c :: t, rest)
  | c :: rest => (unquote rest).map fun (t, rest) => (c :: t, rest)

/-- A text in quotes, or a bare one that ends at the first reserved character. -/
def text : List Char → Option (List Char × List Char)
  | '"' :: rest => unquote rest
  | s => some (s.span fun c => !FilterCall.isReserved c)

/-- The items of a list up to its closing parenthesis, at most a number of them. -/
def items {α : Type} (item : List Char → Option (α × List Char)) :
    Nat → List Char → Option (List α × List Char)
  | 0, _ => none
  | n + 1, s => do
    match ← item s with
    | (a, ')' :: rest) => some ([a], rest)
    | (a, ',' :: rest) => do
      let (as, rest) ← items item n rest
      some (a :: as, rest)
    | _ => none

/-- A list in parentheses. -/
def list {α : Type} (item : List Char → Option (α × List Char)) (n : Nat) :
    List Char → Option (List α × List Char)
  | '(' :: ')' :: rest => some ([], rest)
  | '(' :: rest => items item n rest
  | _ => none

/-! ## Filters -/

/-- The operands of an operator.  Where one text is expected, it is read as the place of
the filter asks for. -/
def operands (scalar : List Char → Option (List Char × List Char)) (n : Nat)
    (column : String) (s : List Char) : Operator → Option (FilterCall × List Char)
  | .comparison op => (scalar s).map fun (t, rest) =>
    (.compare op column (.text (String.ofList t)), rest)
  | .among => (list text n s).map fun (ts, rest) =>
    (.among column (ts.map fun t => .text (String.ofList t)), rest)
  | .notAmong => (list text n s).map fun (ts, rest) =>
    (.notAmong column (ts.map fun t => .text (String.ofList t)), rest)
  | .like => (scalar s).map fun (t, rest) => (.like column (String.ofList t), rest)

/-- An operator with its operands. -/
def operation (scalar : List Char → Option (List Char × List Char)) (n : Nat)
    (column : String) (s : List Char) : Option (FilterCall × List Char) := do
  let (op, rest) ← Operator.read s
  operands scalar n column rest op

/-- A filter within a disjunction.  A text is nested less deep than it is long, and its
lists are not longer. -/
def call : Nat → List Char → Option (FilterCall × List Char)
  | 0, _ => none
  | n + 1, s =>
    match s.span fun c => c != '.' && c != '(' with
    | (['o', 'r'], '(' :: rest) =>
      (list (call n) n ('(' :: rest)).map fun (calls, rest) => (.anyOf calls, rest)
    | (column, '.' :: rest) => operation text n (String.ofList column) rest
    | _ => none

/-- A reading that leaves nothing over. -/
def complete {α : Type} : Option (α × List Char) → Option α
  | some (a, []) => some a
  | _ => none

/-- The filter that a text is. -/
def readExpression (s : List Char) : Option FilterCall :=
  complete (call (s.length + 1) s)

/-- The filter of a query parameter.  A single operand is all that comes after the
operator. -/
def readParam : List Char × List Char → Option FilterCall
  | (key, '(' :: s) =>
    if key = ['o', 'r'] then
      (complete (list (call (s.length + 1)) (s.length + 1) ('(' :: s))).map .anyOf
    else none
  | (key, s) => complete (operation (fun t => some (t, [])) (s.length + 1) (String.ofList key) s)

end Notation

namespace FilterCall

mutual

/-- The columns that a filter names. -/
def columns : FilterCall → List String
  | compare _ c _ | among c _ | notAmong c _ | like c _ => [c]
  | anyOf branches => columnsOf branches

/-- The columns that filters name. -/
def columnsOf : List FilterCall → List String
  | [] => []
  | call :: rest => columns call ++ columnsOf rest

end

/-- No column has a character of the grammar in its name. -/
def PlainColumns (call : FilterCall) : Prop :=
  ∀ column ∈ call.columns, ∀ c ∈ column.toList, c ∉ ['.', ',', '(', ')']

mutual

/-- The filter with the texts of its operands in their place. -/
def textual : FilterCall → FilterCall
  | compare op c v => compare op c (.text (String.ofList v.plain))
  | among c vs => among c (vs.map fun v => .text (String.ofList v.plain))
  | notAmong c vs => notAmong c (vs.map fun v => .text (String.ofList v.plain))
  | like c p => like c p
  | anyOf branches => anyOf (textualOf branches)

/-- The filters with the texts of their operands in their place. -/
def textualOf : List FilterCall → List FilterCall
  | [] => []
  | call :: rest => textual call :: textualOf rest

end

theorem mem_columns {call : FilterCall} {column : String} (h : call.column? = some column) :
    column ∈ call.columns := by
  cases call with
  | anyOf branches => cases h
  | _ =>
    obtain rfl := Option.some.inj h
    exact List.mem_cons_self

/-- Only a disjunction has no column. -/
theorem exists_anyOf {call : FilterCall} (h : call.column? = none) :
    ∃ branches, call = anyOf branches := by
  cases call with
  | anyOf branches => exact ⟨branches, rfl⟩
  | _ => cases h

theorem textualOf_eq_map (branches : List FilterCall) :
    textualOf branches = branches.map textual := by
  induction branches with
  | nil => rfl
  | cons call rest ih => simp [textualOf, ih]

theorem columnsOf_eq_flatMap (branches : List FilterCall) :
    columnsOf branches = branches.flatMap columns := by
  induction branches with
  | nil => rfl
  | cons call rest ih => simp [columnsOf, ih]

theorem PlainColumns.branch {branches : List FilterCall} (h : (anyOf branches).PlainColumns)
    {call : FilterCall} (hcall : call ∈ branches) : call.PlainColumns := by
  intro column hcolumn
  refine h column ?_
  rw [columns, columnsOf_eq_flatMap]
  exact List.mem_flatMap.2 ⟨call, hcall, hcolumn⟩

end FilterCall

namespace Notation

/-! ## Reading texts back -/

theorem Operator.read_operation (op : Operator) (rest : List Char) :
    read (FilterCall.operation op.name rest) = some (op, rest) := by
  cases op with
  | comparison op => cases op <;> rfl
  | _ => rfl

/-- What may come after an item of a list or after a whole text. -/
def Closes : List Char → Prop
  | [] => True
  | c :: _ => c = ',' ∨ c = ')'

theorem unquote_escape (t rest : List Char) :
    unquote (FilterCall.escape t ++ '"' :: rest) = some (t, rest) := by
  induction t with
  | nil => rfl
  | cons c more ih =>
    have hescape : FilterCall.escape (c :: more) =
        (if c == '"' || c == '\\' then ['\\', c] else [c]) ++ FilterCall.escape more :=
      List.flatMap_cons
    by_cases hc : (c == '"' || c == '\\') = true
    · rw [hescape, if_pos hc]
      simp only [List.cons_append, List.nil_append, unquote, ih, Option.map_some]
    · have hquote : c ≠ '"' := by
        rintro rfl
        exact hc rfl
      have hslash : c ≠ '\\' := by
        rintro rfl
        exact hc rfl
      rw [hescape, if_neg hc]
      simp only [List.cons_append, List.nil_append]
      rw [unquote, ih]
      · rfl
      · exact hquote
      · exact fun _ _ heq => absurd heq hslash

/-- A text is cut at its first character that fails a test. -/
theorem span_append {p : Char → Bool} {t rest : List Char} (ht : ∀ c ∈ t, p c = true)
    (hrest : ∀ c ∈ rest.head?, p c = false) : (t ++ rest).span p = (t, rest) := by
  have hnone : rest.takeWhile p = [] ∧ rest.dropWhile p = rest := by
    cases rest with
    | nil => exact ⟨rfl, rfl⟩
    | cons c more =>
      have hc := hrest c rfl
      simp [hc]
  rw [List.span_eq_takeWhile_dropWhile, List.takeWhile_append_of_pos ht,
    List.dropWhile_append_of_pos ht, hnone.1, hnone.2, List.append_nil]

/-- A text in a list is read back, whatever it is. -/
theorem text_quote (t : List Char) {rest : List Char} (hrest : Closes rest) :
    text (FilterCall.quote t ++ rest) = some (t, rest) := by
  rw [FilterCall.quote]
  split
  · simp only [List.cons_append, List.append_assoc, List.nil_append, text]
    exact unquote_escape t rest
  · rename_i hbare
    simp only [Bool.or_eq_true, List.isEmpty_iff, List.any_eq_true, not_or, not_exists,
      not_and, Bool.not_eq_true] at hbare
    obtain ⟨hne, hbare⟩ := hbare
    have hspan : (t ++ rest).span (fun c => !FilterCall.isReserved c) = (t, rest) := by
      refine span_append (fun c hc => by simp [hbare c hc]) fun c hc => ?_
      cases rest with
      | nil => simp at hc
      | cons d more =>
        obtain rfl := Option.some.inj hc
        rcases hrest with rfl | rfl <;> rfl
    cases t with
    | nil => exact absurd rfl hne
    | cons c more =>
      have hquote : c ≠ '"' := by
        rintro rfl
        exact absurd (hbare '"' List.mem_cons_self) (by decide)
      rw [List.cons_append, text, ← List.cons_append, hspan]
      exact fun _ heq => hquote (List.cons.inj heq).1

/-- The written form of a text in a list does not start with the end of the list. -/
theorem quote_head (t : List Char) : ∃ c more, FilterCall.quote t = c :: more ∧ c ≠ ')' := by
  rw [FilterCall.quote]
  split
  · exact ⟨'"', _, rfl, by decide⟩
  · rename_i hbare
    cases t with
    | nil => exact absurd rfl hbare
    | cons c more =>
      refine ⟨c, more, rfl, ?_⟩
      rintro rfl
      exact hbare rfl

/-! ## Reading lists back -/

theorem length_le_join (sep : List Char) {part : List Char} {parts : List (List Char)}
    (h : part ∈ parts) : part.length ≤ (Text.join sep parts).length := by
  induction parts with
  | nil => simp at h
  | cons first rest ih =>
    cases rest with
    | nil =>
      rw [List.mem_singleton] at h
      subst h
      exact Nat.le_refl _
    | cons second more =>
      rw [Text.join, List.length_append]
      · rcases List.mem_cons.1 h with rfl | hmem
        · simp only [List.length_append]
          omega
        · have hrest := ih hmem
          omega
      · simp

theorem length_le_join_succ (sep : Char) (parts : List (List Char)) :
    parts.length ≤ (Text.join [sep] parts).length + 1 := by
  induction parts with
  | nil => simp
  | cons first rest ih =>
    cases rest with
    | nil => simp
    | cons second more =>
      rw [Text.join, List.length_append, List.length_append]
      · simp only [List.length_cons] at ih ⊢
        omega
      · simp

theorem parenthesized_append (parts : List (List Char)) (rest : List Char) :
    FilterCall.parenthesized parts ++ rest =
      '(' :: (Text.join [','] parts ++ ')' :: rest) := by
  simp [FilterCall.parenthesized]

theorem part_lt_parenthesized {part : List Char} {parts : List (List Char)}
    (h : part ∈ parts) : part.length < (FilterCall.parenthesized parts).length := by
  have hjoin := length_le_join [','] h
  simp only [FilterCall.parenthesized, List.length_cons, List.length_append, List.length_nil]
  omega

theorem length_lt_parenthesized {β : Type} (write : β → List Char) (xs : List β) :
    xs.length < (FilterCall.parenthesized (xs.map write)).length := by
  have hjoin := length_le_join_succ ',' (xs.map write)
  rw [List.length_map] at hjoin
  simp only [FilterCall.parenthesized, List.length_cons, List.length_append, List.length_nil]
  omega

section List

variable {α β : Type} {item : List Char → Option (α × List Char)} {write : β → List Char}
  {value : β → α}

/-- Items with commas between them are read back if each of them is. -/
theorem items_join {x : β} {xs : List β} (hitem : ∀ y ∈ x :: xs, ∀ rest, Closes rest →
      item (write y ++ rest) = some (value y, rest))
    {n : Nat} (hn : xs.length < n) (rest : List Char) :
    items item n (Text.join [','] ((x :: xs).map write) ++ ')' :: rest) =
      some ((x :: xs).map value, rest) := by
  induction xs generalizing x n with
  | nil =>
    obtain ⟨n, rfl⟩ := Nat.exists_eq_add_one_of_ne_zero (by omega : n ≠ 0)
    have hx := hitem x List.mem_cons_self (')' :: rest) (.inr rfl)
    simp only [List.map_cons, List.map_nil, Text.join, items, hx]
    rfl
  | cons y ys ih =>
    obtain ⟨n, rfl⟩ := Nat.exists_eq_add_one_of_ne_zero (by omega : n ≠ 0)
    rw [List.length_cons] at hn
    have hx := hitem x List.mem_cons_self
      (',' :: (Text.join [','] ((y :: ys).map write) ++ ')' :: rest)) (.inl rfl)
    have hys := ih (fun z hz => hitem z (List.mem_cons_of_mem x hz)) (by omega : ys.length < n)
    have hjoin : Text.join [','] ((x :: y :: ys).map write) ++ ')' :: rest =
        write x ++ ',' :: (Text.join [','] ((y :: ys).map write) ++ ')' :: rest) := by
      simp [Text.join]
    rw [hjoin, items, hx]
    simp only [Option.bind_eq_bind, Option.bind_some, hys]
    rfl

/-- A list is read back if each of its items is, and none is taken for its end. -/
theorem list_parenthesized {xs : List β} (hitem : ∀ y ∈ xs, ∀ rest, Closes rest →
      item (write y ++ rest) = some (value y, rest))
    (hhead : ∀ y ∈ xs, ∃ c more, write y = c :: more ∧ c ≠ ')')
    {n : Nat} (hn : xs.length ≤ n) (rest : List Char) :
    list item n (FilterCall.parenthesized (xs.map write) ++ rest) =
      some (xs.map value, rest) := by
  cases xs with
  | nil => rfl
  | cons x more =>
    rw [List.length_cons] at hn
    have hitems := items_join hitem (by omega : more.length < n) rest
    obtain ⟨c, cs, hwrite, hc⟩ := hhead x List.mem_cons_self
    obtain ⟨tail, htail⟩ : ∃ tail,
        Text.join [','] ((x :: more).map write) ++ ')' :: rest = c :: tail := by
      cases more <;> simp [Text.join, hwrite]
    rw [parenthesized_append, htail, list, ← htail, hitems]
    exact fun _ heq => hc (List.cons.inj heq).1

end List

/-! ## Reading filters back -/

/-- A list of values is read back as their texts. -/
theorem list_valueList {vs : List Value} {n : Nat} (hn : vs.length ≤ n) (rest : List Char) :
    list text n (FilterCall.valueList vs ++ rest) = some (vs.map Value.plain, rest) :=
  list_parenthesized (fun v _ _ hrest => text_quote v.plain hrest)
    (fun v _ => quote_head v.plain) hn rest

/-- A list of values is not longer than its written form after an operator. -/
theorem length_lt_operation (op : String) (vs : List Value) :
    vs.length < (FilterCall.operation op (FilterCall.valueList vs)).length := by
  have hlength := length_lt_parenthesized (fun v => FilterCall.quote v.plain) vs
  simp only [FilterCall.operation, FilterCall.valueList, List.length_append, List.length_cons]
  omega

section Call

variable {n : Nat} {column : String}

theorem operation_eq (scalar : List Char → Option (List Char × List Char)) (n : Nat)
    (column : String) (op : Operator) (s rest : List Char) :
    operation scalar n column (FilterCall.operation op.name s ++ rest) =
      operands scalar n column (s ++ rest) op := by
  have hread := Operator.read_operation op (s ++ rest)
  have happend : FilterCall.operation op.name s ++ rest =
      FilterCall.operation op.name (s ++ rest) := by
    simp [FilterCall.operation]
  rw [operation, happend, hread]
  rfl

/-- A column ends at its first point. -/
theorem call_column (hcolumn : ∀ c ∈ column.toList, c ∉ ['.', ',', '(', ')']) (s : List Char) :
    call (n + 1) (column.toList ++ '.' :: s) = operation text n column s := by
  have hspan : (column.toList ++ '.' :: s).span (fun c => c != '.' && c != '(') =
      (column.toList, '.' :: s) := by
    refine span_append (fun c hc => ?_) fun c hc => ?_
    · have hplain := hcolumn c hc
      simp only [List.mem_cons, not_or] at hplain
      simp [hplain.1, hplain.2.2.1]
    · obtain rfl := Option.some.inj hc
      rfl
  rw [call, hspan]
  simp only [String.ofList_toList]

theorem call_or (s : List Char) :
    call (n + 1) ('o' :: 'r' :: '(' :: s) =
      (list (call n) n ('(' :: s)).map fun (calls, rest) => (.anyOf calls, rest) := by
  have hspan : (['o', 'r'] ++ '(' :: s).span (fun c => c != '.' && c != '(') =
      (['o', 'r'], '(' :: s) := by
    refine span_append (by simp) fun c hc => ?_
    obtain rfl := Option.some.inj hc
    rfl
  rw [List.cons_append, List.cons_append, List.nil_append] at hspan
  rw [call, hspan]
  rfl

/-- An operator with its operands after a column. -/
theorem call_operation (op : Operator)
    (hcolumn : ∀ c ∈ column.toList, c ∉ ['.', ',', '(', ')']) (s rest : List Char) :
    call (n + 1) (column.toList ++ '.' :: FilterCall.operation op.name s ++ rest) =
      operands text n column (s ++ rest) op := by
  rw [List.append_assoc, List.cons_append, call_column hcolumn, operation_eq]

end Call

/-- The written form of a filter does not start with the end of a list. -/
theorem expression_head {c : FilterCall} (h : c.PlainColumns) :
    ∃ first more, c.expression = first :: more ∧ first ≠ ')' := by
  have hcolumn (column : String) (s : List Char)
      (hplain : ∀ c ∈ column.toList, c ∉ ['.', ',', '(', ')']) :
      ∃ first more, column.toList ++ '.' :: s = first :: more ∧ first ≠ ')' := by
    cases hchars : column.toList with
    | nil => exact ⟨'.', s, rfl, by decide⟩
    | cons first more =>
      refine ⟨first, _, rfl, ?_⟩
      rintro rfl
      rw [hchars] at hplain
      exact hplain ')' List.mem_cons_self (by decide)
  cases c with
  | anyOf branches => exact ⟨'o', _, rfl, by decide⟩
  | _ =>
    rw [FilterCall.expression]
    exact hcolumn _ _ (h _ List.mem_cons_self)

/-- Branches are read back if each of them is. -/
theorem list_branches {read : List Char → Option (FilterCall × List Char)}
    {branches : List FilterCall}
    (hread : ∀ b ∈ branches, ∀ rest, Closes rest →
      read (b.expression ++ rest) = some (b.textual, rest))
    (h : (FilterCall.anyOf branches).PlainColumns) {n : Nat} (hn : branches.length ≤ n)
    (rest : List Char) :
    list read n (FilterCall.parenthesized (branches.map FilterCall.expression) ++ rest) =
      some (branches.map FilterCall.textual, rest) :=
  list_parenthesized hread (fun _ hb => expression_head (h.branch hb)) hn rest

/-- A filter on one column is written as the column, an operator and its operands, and the
operands are read back. -/
theorem exists_operands {c : FilterCall} {column : String} (hc : c.column? = some column) :
    ∃ op s, c.expression = column.toList ++ '.' :: FilterCall.operation op.name s ∧
      op.mark <+: '.' :: FilterCall.operation op.name s ∧
      ∀ n, c.expression.length ≤ n → ∀ rest, Closes rest →
        operands text n column (s ++ rest) op = some (c.textual, rest) := by
  cases c with
  | anyOf branches => cases hc
  | compare op column v =>
    obtain rfl := Option.some.inj hc
    refine ⟨.comparison op, FilterCall.quote v.plain, rfl, ?_, fun n _ rest hrest => ?_⟩
    · exact ⟨FilterCall.quote v.plain, by simp [Operator.mark, Operator.name, FilterCall.operation]⟩
    · rw [operands, text_quote _ hrest]
      rfl
  | like column pattern =>
    obtain rfl := Option.some.inj hc
    refine ⟨.like, FilterCall.quote pattern.toList, rfl, ⟨_, rfl⟩, fun n _ rest hrest => ?_⟩
    rw [operands, text_quote _ hrest]
    simp [FilterCall.textual]
  | among column vs =>
    obtain rfl := Option.some.inj hc
    have hlength := length_lt_operation "in" vs
    refine ⟨.among, FilterCall.valueList vs, rfl, ⟨_, rfl⟩, fun n hn rest _ => ?_⟩
    rw [FilterCall.expression, List.length_append, List.length_cons] at hn
    rw [operands, list_valueList (by omega)]
    simp [FilterCall.textual]
  | notAmong column vs =>
    obtain rfl := Option.some.inj hc
    have hlength := length_lt_operation "not.in" vs
    refine ⟨.notAmong, FilterCall.valueList vs, rfl, ⟨_, rfl⟩, fun n hn rest _ => ?_⟩
    rw [FilterCall.expression, List.length_append, List.length_cons] at hn
    rw [operands, list_valueList (by omega)]
    simp [FilterCall.textual]

/-- **A filter within a disjunction is read back**, by induction on the number of its
characters. -/
theorem call_expression {n : Nat} {c : FilterCall} (hn : c.expression.length < n)
    (h : c.PlainColumns) {rest : List Char} (hrest : Closes rest) :
    call n (c.expression ++ rest) = some (c.textual, rest) := by
  induction n generalizing c rest with
  | zero => omega
  | succ n ih =>
    cases hcolumn : c.column? with
    | some column =>
      obtain ⟨op, s, hwritten, -, hoperands⟩ := exists_operands hcolumn
      have hplain := h column (FilterCall.mem_columns hcolumn)
      have hread := call_operation (n := n) op hplain s rest
      rw [hwritten, hread]
      exact hoperands n (by omega) rest hrest
    | none =>
      obtain ⟨branches, rfl⟩ := FilterCall.exists_anyOf hcolumn
      rw [FilterCall.expression, FilterCall.expressions_eq_map] at hn ⊢
      simp only [List.length_cons] at hn
      have hbranches :
          list (call n) n
              (FilterCall.parenthesized (branches.map FilterCall.expression) ++ rest) =
            some (branches.map FilterCall.textual, rest) := by
        refine list_branches (fun b hb more hmore => ih ?_ (h.branch hb) hmore) h ?_ rest
        · have hmem := List.mem_map_of_mem (f := FilterCall.expression) hb
          have hpart := part_lt_parenthesized hmem
          omega
        · have hlength := length_lt_parenthesized FilterCall.expression branches
          omega
      rw [List.cons_append, List.cons_append, parenthesized_append, call_or,
        ← parenthesized_append, hbranches, Option.map_some, FilterCall.textual,
        FilterCall.textualOf_eq_map]

/-- A filter that is a whole text is read back. -/
theorem readExpression_expression {c : FilterCall} (h : c.PlainColumns) :
    readExpression c.expression = some c.textual := by
  have hcall : call (c.expression.length + 1) (c.expression ++ []) = some (c.textual, []) :=
    call_expression (Nat.lt_succ_self _) h trivial
  rw [List.append_nil] at hcall
  rw [readExpression, hcall]
  rfl

/-- In a parameter an operator has all that comes after it. -/
theorem readParam_operation (op : Operator) (column : String) (s : List Char) :
    readParam (column.toList, FilterCall.operation op.name s) =
      complete (operands (fun t => some (t, []))
        ((FilterCall.operation op.name s).length + 1) column s op) := by
  have hread : readParam (column.toList, FilterCall.operation op.name s) =
      complete (operation (fun t => some (t, []))
        ((FilterCall.operation op.name s).length + 1) (String.ofList column.toList)
        (FilterCall.operation op.name s)) := by
    cases op with
    | comparison op => cases op <;> rfl
    | _ => rfl
  have hoperands := operation_eq (fun t => some (t, []))
    ((FilterCall.operation op.name s).length + 1) column op s []
  rw [List.append_nil, List.append_nil] at hoperands
  rw [hread, String.ofList_toList, hoperands]

/-- The list of values after an operator is read back. -/
theorem list_operation (op : String) (vs : List Value) :
    list text ((FilterCall.operation op (FilterCall.valueList vs)).length + 1)
      (FilterCall.valueList vs) = some (vs.map Value.plain, []) := by
  have hlist := list_valueList (Nat.le_succ_of_le (Nat.le_of_lt (length_lt_operation op vs))) []
  rwa [List.append_nil] at hlist

/-- The parameter of a filter on one column is read back, whatever the column. -/
theorem readParam_column {c : FilterCall} {column : String} (hc : c.column? = some column) :
    readParam c.param = some c.textual := by
  cases c with
  | anyOf branches => cases hc
  | compare op column v => exact readParam_operation (.comparison op) column v.plain
  | like column pattern =>
    refine (readParam_operation .like column pattern.toList).trans ?_
    simp [operands, complete, FilterCall.textual]
  | among column vs =>
    refine (readParam_operation .among column (FilterCall.valueList vs)).trans ?_
    rw [operands, list_operation]
    simp [complete, FilterCall.textual]
  | notAmong column vs =>
    refine (readParam_operation .notAmong column (FilterCall.valueList vs)).trans ?_
    rw [operands, list_operation]
    simp [complete, FilterCall.textual]

/-- The parameter of a filter is read back. -/
theorem readParam_param {c : FilterCall} (h : c.PlainColumns) :
    readParam c.param = some c.textual := by
  cases hcolumn : c.column? with
  | some column => exact readParam_column hcolumn
  | none =>
    obtain ⟨branches, rfl⟩ := FilterCall.exists_anyOf hcolumn
    have hbranches :
        list (call (FilterCall.parenthesized (branches.map FilterCall.expression)).length)
            (FilterCall.parenthesized (branches.map FilterCall.expression)).length
            (FilterCall.parenthesized (branches.map FilterCall.expression) ++ []) =
          some (branches.map FilterCall.textual, []) := by
      refine list_branches (fun b hb more hmore => ?_) h ?_ []
      · have hmem := List.mem_map_of_mem (f := FilterCall.expression) hb
        exact call_expression (part_lt_parenthesized hmem) (h.branch hb) hmore
      · have hlength := length_lt_parenthesized FilterCall.expression branches
        omega
    rw [List.append_nil] at hbranches
    rw [FilterCall.param, FilterCall.expressions_eq_map, FilterCall.textual,
      FilterCall.textualOf_eq_map, FilterCall.parenthesized, readParam]
    rw [FilterCall.parenthesized, List.length_cons] at hbranches
    rw [if_pos rfl, hbranches]
    rfl

end Notation

namespace FilterCall

/-- **What is written is read back**: a filter as an expression and as a parameter, with
the texts of its operands whatever they are.  So filters that are written alike are the
same tree with the same texts. -/
theorem read_expression_and_param {c : FilterCall} (h : c.PlainColumns) :
    Notation.readExpression c.expression = some c.textual ∧
      Notation.readParam c.param = some c.textual ∧
      ∀ other : FilterCall, other.PlainColumns →
        other.expression = c.expression ∨ other.param = c.param →
        other.textual = c.textual := by
  have hexpression := Notation.readExpression_expression h
  have hparam := Notation.readParam_param h
  refine ⟨hexpression, hparam, fun other hother heq => ?_⟩
  rcases heq with heq | heq
  · have hread := Notation.readExpression_expression hother
    rw [heq, hexpression] at hread
    exact (Option.some.inj hread).symm
  · have hread := Notation.readParam_param hother
    rw [heq, hparam] at hread
    exact (Option.some.inj hread).symm

/-- A disjunction in a disjunction, with operands that look like the end of a list, a
branch and an operator. -/
theorem read_nested_disjunction :
    let c : FilterCall := anyOf
      [compare .eq "name" (.text "x),id.neq.1"), anyOf [],
        anyOf [among "or" [], notAmong "tag" [.text "", .text "a,\"b\\", .null]],
        like "note" "%in.(a)%"]
    c.PlainColumns ∧ Notation.readExpression c.expression = some c.textual ∧
      Notation.readParam c.param = some c.textual := by
  intro c
  have hplain : c.PlainColumns := by
    simp [c, PlainColumns, columns, columnsOf]
  obtain ⟨hexpression, hparam, -⟩ := read_expression_and_param hplain
  exact ⟨hplain, hexpression, hparam⟩

end FilterCall

end TabularQuery
