import TabularQuery.Proofs.Filter.Disjunction
import TabularQuery.Query.Params

/-!
# Parameters that tell queries apart

The parameters of a query stand in one list: columns, filters, order and window.  The
numbers of the window are told from everything else by their digits.  The keys of an order
stand in one text without quotation, from which they are read back if no column looks like
several keys.

## Main definitions

* `orderMarks` — what ends the columns of an order.
* `orderText_injective` — orders are told apart by their texts.
* `PageWindow.range_eq_of_windowParams_eq` — windows are told apart by their numbers.
-/

namespace TabularQuery

/-! ## Orders -/

/-- What stands behind a column of an order that has another key after it. -/
def Direction.mark (d : Direction) : List Char :=
  '.' :: (d.name.toList ++ [','])

/-- What ends the columns of an order. -/
def orderMarks : List (List Char) :=
  [Direction.asc.mark, Direction.desc.mark]

theorem terminal_orderMarks : Notation.Terminal orderMarks := by
  unfold Notation.Terminal
  decide

theorem Direction.mark_mem (d : Direction) : d.mark ∈ orderMarks := by
  cases d <;> decide

/-- No mark of an order begins in a name and ends behind it. -/
theorem inert_of_no_mark {s : List Char} (h : ∀ m ∈ orderMarks, ¬ m <:+: s) :
    Notation.Inert orderMarks s := by
  refine Notation.inert_of_markless ?_ h
  unfold Notation.Separate
  decide

/-- Keys with a comma behind each of them. -/
def orderKeys (terms : List OrderTerm) : List Char :=
  terms.flatMap fun t => t.column.toList ++ t.direction.mark

theorem orderText_append {t : OrderTerm} {rest : List OrderTerm} :
    Query.orderText (t :: rest) ++ [','] = orderKeys (t :: rest) := by
  induction rest generalizing t with
  | nil => simp [Query.orderText, orderKeys, Text.join, Direction.mark]
  | cons u more ih =>
    have htail : Query.orderText (u :: more) ++ [','] = orderKeys (u :: more) := ih
    have hjoin : Query.orderText (t :: u :: more) =
        t.column.toList ++ '.' :: t.direction.name.toList ++ [','] ++
          Query.orderText (u :: more) := rfl
    rw [hjoin, List.append_assoc, htail]
    simp [orderKeys, Direction.mark]

theorem orderKeys_injective {terms other : List OrderTerm}
    (h : ∀ t ∈ terms, Notation.Inert orderMarks t.column.toList)
    (hother : ∀ t ∈ other, Notation.Inert orderMarks t.column.toList)
    (heq : orderKeys terms = orderKeys other) : terms = other := by
  induction terms generalizing other with
  | nil =>
    cases other with
    | nil => rfl
    | cons u more => simp [orderKeys, Direction.mark] at heq
  | cons t rest ih =>
    cases other with
    | nil => simp [orderKeys, Direction.mark] at heq
    | cons u more =>
      obtain ⟨ht, hrest⟩ := List.forall_mem_cons.1 h
      obtain ⟨hu, hmore⟩ := List.forall_mem_cons.1 hother
      -- both texts are cut at the first mark, which gives the first column of each
      have hsplit (t : OrderTerm) (rest : List OrderTerm) : orderKeys (t :: rest) =
          t.column.toList ++ (t.direction.mark ++ orderKeys rest) := by
        simp [orderKeys]
      rw [hsplit, hsplit] at heq
      have hcut := Notation.cut_append terminal_orderMarks t.direction.mark_mem ht
        (orderKeys rest)
      rw [heq, Notation.cut_append terminal_orderMarks u.direction.mark_mem hu] at hcut
      obtain ⟨hcolumn, hkeys⟩ := Prod.mk.inj (Option.some.inj hcut)
      obtain ⟨column, direction⟩ := t
      obtain ⟨column', direction'⟩ := u
      obtain rfl : column' = column := String.toList_inj.1 hcolumn
      have hdirection : direction' = direction ∧ orderKeys more = orderKeys rest := by
        cases direction <;> cases direction' <;>
          simp [Direction.mark, Direction.name] at hkeys ⊢ <;> exact hkeys
      rw [hdirection.1, ih hrest hmore hdirection.2.symm]

/-- **Orders are told apart by their texts** if no column has the mark of a key in its
name. -/
theorem orderText_injective {terms other : List OrderTerm} (hne : terms ≠ [])
    (hne' : other ≠ [])
    (h : ∀ t ∈ terms, ∀ m ∈ orderMarks, ¬ m <:+: t.column.toList)
    (hother : ∀ t ∈ other, ∀ m ∈ orderMarks, ¬ m <:+: t.column.toList)
    (heq : Query.orderText terms = Query.orderText other) : terms = other := by
  have hkeys : orderKeys terms = orderKeys other := by
    cases terms with
    | nil => exact absurd rfl hne
    | cons t rest =>
      cases other with
      | nil => exact absurd rfl hne'
      | cons u more => rw [← orderText_append, ← orderText_append, heq]
  exact orderKeys_injective (fun t ht => inert_of_no_mark (h t ht))
    (fun t ht => inert_of_no_mark (hother t ht)) hkeys

/-- The text of an order ends with a direction. -/
theorem direction_suffix_orderText {terms : List OrderTerm} (hne : terms ≠ []) :
    ∃ d : Direction, '.' :: d.name.toList <:+ Query.orderText terms := by
  induction terms with
  | nil => exact absurd rfl hne
  | cons t rest ih =>
    cases rest with
    | nil => exact ⟨t.direction, t.column.toList, rfl⟩
    | cons u more =>
      obtain ⟨d, hd⟩ := ih (List.cons_ne_nil u more)
      have hjoin : Query.orderText (t :: u :: more) =
          t.column.toList ++ '.' :: t.direction.name.toList ++ [','] ++
            Query.orderText (u :: more) := rfl
      refine ⟨d, ?_⟩
      rw [hjoin]
      exact hd.trans (List.suffix_append _ _)

/-! ## Windows -/

theorem Text.digits_injective {m n : Nat} (h : Text.digits m = Text.digits n) : m = n := by
  have hread := congrArg (Nat.ofDigitChars 10 · 0) h
  simpa [Text.digits, Nat.ofDigitChars_ten_toDigits] using hread

/-- Whether the value of a parameter is a number. -/
def isNumberParam (p : List Char × List Char) : Bool :=
  p.2.all Char.isDigit

theorem isNumberParam_eq_false {key value : List Char} {c : Char} (hc : c ∈ value)
    (hdigit : c.isDigit = false) : isNumberParam (key, value) = false := by
  rw [isNumberParam, List.all_eq_false]
  exact ⟨c, hc, by simp [hdigit]⟩

theorem isNumberParam_digits (key : List Char) (n : Nat) :
    isNumberParam (key, Text.digits n) = true := by
  rw [isNumberParam, List.all_eq_true]
  intro c hc
  exact Nat.isDigit_of_mem_toDigits (b := 10) (by decide) (by decide) hc

theorem isNumberParam_windowParams (q : Query) :
    ∀ p ∈ q.windowParams, isNumberParam p = true := by
  intro p hp
  unfold Query.windowParams at hp
  split at hp
  · rcases List.mem_cons.1 hp with rfl | hp
    · exact isNumberParam_digits _ _
    · rw [List.mem_singleton.1 hp]
      exact isNumberParam_digits _ _
  · rw [List.mem_singleton.1 hp]
    exact isNumberParam_digits _ _
  · simp at hp

theorem isNumberParam_param (c : FilterCall) : isNumberParam c.param = false := by
  cases hcolumn : c.column? with
  | some column =>
    obtain ⟨op, s, hparam⟩ := FilterCall.param_column hcolumn
    rw [hparam]
    exact isNumberParam_eq_false (List.mem_append_right _ List.mem_cons_self) (by decide)
  | none =>
    obtain ⟨branches, rfl⟩ := FilterCall.exists_anyOf hcolumn
    exact isNumberParam_eq_false List.mem_cons_self (by decide : '('.isDigit = false)

theorem isNumberParam_orderText {terms : List OrderTerm} (hne : terms ≠ []) (key : List Char) :
    isNumberParam (key, Query.orderText terms) = false := by
  obtain ⟨d, hd⟩ := direction_suffix_orderText hne
  exact isNumberParam_eq_false (hd.subset List.mem_cons_self) (by decide)

namespace PageWindow

/-- The window of counts that are in range has as many rows as its numbers tell. -/
theorem windowSize_of_range {w : PageWindow} (hoffset : w.offset ≤ greatestCount)
    (hlimit : w.limit ≤ greatestCount) {first last : Nat} (h : w.range = some (first, last)) :
    windowSize first last + first = last + 1 := by
  rw [range] at h
  split at h
  · cases h
  · obtain ⟨rfl, rfl⟩ := Prod.mk.inj (Option.some.inj h)
    simp only [windowSize]
    omega

/-- **Windows are told apart by their numbers.** -/
theorem range_eq_of_windowParams_eq {w other : PageWindow} (hoffset : w.offset ≤ greatestCount)
    (hlimit : w.limit ≤ greatestCount) (hoffset' : other.offset ≤ greatestCount)
    (hlimit' : other.limit ≤ greatestCount) {q r : Query} (hq : q.range = w.range)
    (hr : r.range = other.range) (hqlimit : q.limit = none) (hrlimit : r.limit = none)
    (heq : q.windowParams = r.windowParams) : w.range = other.range := by
  rw [Query.windowParams, Query.windowParams, hq, hr, hqlimit, hrlimit] at heq
  cases hw : w.range with
  | none =>
    cases hother : other.range with
    | none => rfl
    | some p =>
      rw [hw, hother] at heq
      cases heq
  | some p =>
    obtain ⟨first, last⟩ := p
    cases hother : other.range with
    | none =>
      rw [hw, hother] at heq
      cases heq
    | some p' =>
      obtain ⟨first', last'⟩ := p'
      rw [hw, hother] at heq
      simp only [List.cons.injEq, Prod.mk.injEq, true_and, and_true] at heq
      have hfirst : first = first' := Text.digits_injective heq.1
      have hsize : windowSize first last = windowSize first' last' :=
        Text.digits_injective heq.2
      have hlast := windowSize_of_range hoffset hlimit hw
      have hlast' := windowSize_of_range hoffset' hlimit' hother
      have hsame : last = last' := by omega
      rw [hfirst, hsame]

end PageWindow

end TabularQuery
