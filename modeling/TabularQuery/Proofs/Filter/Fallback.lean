import TabularQuery.Proofs.Filter.Clause
import TabularQuery.Proofs.Store.Comparison

/-!
# Constraints with an unknown verb

An operation that does not know the verb of a constraint compares the column with the
descriptor form of the constraint, an object with the verb and its operand.  The text of
such an object is no number, so only the cell with this very text is equal to it.  It is
also never the text of the operand, nor of an item of it: it holds that text and more.  So
the cell differs from everything that `not` and `notIn` exclude, and meets them; whether it
meets another verb depends on the operand.

## Main definitions

* `Constraint.compareTexts_verbObject_ne` — a constraint never reads like its operand.
* `Where.accepts_fieldCall_iff` — what is asked of a column instead of an unknown verb.
* `Where.Echoed` — a row that has the text of a constraint which it does not meet.
* `Where.admits_full_or_echoed` — no other row is reached without meeting the clause.
-/

namespace TabularQuery

/-! ## Texts that are no numbers -/

/-- A text that begins with a brace denotes no number. -/
theorem Binary64.read?_brace (s : List Char) : read? ('\x7b' :: s) = none := by
  have hdigit : Text.isDigit '\x7b' = false := by decide
  have hlower : Char.toLower '\x7b' = '\x7b' := by decide
  simp [read?, readSign, lowerAscii, readUnsigned, hdigit, hlower]

/-! ## The text of a value and its JSON text -/

namespace Json

theorem length_escapedChar_pos (c : Char) : 0 < (escapedChar c).length := by
  unfold escapedChar
  split_ifs <;> simp [controlEscape]

/-- Quotes make a text longer, and escapes do not make it shorter. -/
theorem length_lt_quoted (s : String) : s.toList.length < (quoted s).length := by
  have hescaped (cs : List Char) : cs.length ≤ (cs.flatMap escapedChar).length := by
    induction cs with
    | nil => simp
    | cons c rest ih =>
      have hc := length_escapedChar_pos c
      rw [List.flatMap_cons, List.length_append, List.length_cons]
      omega
  have hlength := hescaped s.toList
  simp only [quoted, List.length_cons, List.length_append, List.length_nil]
  omega

theorem length_le_compactItems {v : Json} {items : List Json} (h : v ∈ items) :
    v.compact.length ≤ (compactItems items).length := by
  induction items with
  | nil => simp at h
  | cons w rest ih =>
    rw [compactItems, List.length_cons, List.length_append]
    rcases List.mem_cons.1 h with rfl | hmem
    · omega
    · have hrest := ih hmem
      omega

/-- The text of a list is longer than that of its items. -/
theorem length_le_compact_array {v : Json} {items : List Json} (h : v ∈ items) :
    v.compact.length ≤ (compact (.array items)).length := by
  cases items with
  | nil => simp at h
  | cons w rest =>
    rw [compact, List.length_cons, List.length_append]
    rcases List.mem_cons.1 h with rfl | hmem
    · omega
    · have hrest := length_le_compactItems hmem
      omega

end Json

namespace Decimal

theorem isDigit_of_mem_digits {n : Nat} {c : Char} (h : c ∈ Text.digits n) :
    c.isDigit = true :=
  Nat.isDigit_of_mem_toDigits (b := 10) (by decide) (by decide) h

/-- A decimal that is written positionally has only digits and a point. -/
theorem mem_positional {d : Decimal} {c : Char} (h : c ∈ d.positional []) :
    c.isDigit = true ∨ c = '.' := by
  have hdigits {ds : List Char} (hds : c ∈ ds) (hsub : ds ⊆ Text.digits d.coefficient) :
      c.isDigit = true ∨ c = '.' := .inl (isDigit_of_mem_digits (hsub hds))
  have hzeros {n : Nat} (hc : c ∈ List.replicate n '0') : c.isDigit = true ∨ c = '.' := by
    rw [List.eq_of_mem_replicate hc]
    exact .inl (by decide)
  simp only [positional, point, List.append_nil] at h
  split at h
  · rcases List.mem_cons.1 h with rfl | h
    · exact .inl (by decide)
    · rcases List.mem_cons.1 h with rfl | h
      · exact .inr rfl
      · rcases List.mem_append.1 h with h | h
        · exact hzeros h
        · exact hdigits h (List.Subset.refl _)
  · split at h
    · rcases List.mem_append.1 h with h | h
      · exact hdigits h (List.Subset.refl _)
      · exact hzeros h
    · rcases List.mem_append.1 h with h | h
      · exact hdigits h (List.take_subset _ _)
      · rcases List.mem_cons.1 h with rfl | h
        · exact .inr rfl
        · exact hdigits h (List.drop_subset _ _)

end Decimal

/-- The text of a number has no quotes. -/
theorem Binary64.quote_not_mem_plain (x : Binary64) : '"' ∉ x.plain := by
  have hbody (m : Nat) (e : Int) :
      '"' ∉ (if m = 0 then ['0'] else (Decimal.shortest .up m e).positional []) := by
    intro h
    split at h
    · simp at h
    · rcases Decimal.mem_positional h with h | h
      · exact absurd h (by decide)
      · exact absurd h (by decide)
  cases x with
  | nan => decide
  | infinite negative => cases negative <;> decide
  | finite negative m e =>
    have hm := hbody m e
    cases negative
    · exact hm
    · simp only [plain, if_true, List.mem_cons]
      exact fun h => h.elim (by decide) hm

/-- The text of a value with quotes in it is no longer than its JSON text. -/
theorem Value.length_plain_le {v : Value} (h : '"' ∈ v.plain) :
    v.plain.length ≤ v.toJson.compact.length := by
  cases v with
  | null => exact le_refl _
  | bool b => cases b <;> exact le_refl _
  | int i => exact le_refl _
  | float x => exact absurd h (Binary64.quote_not_mem_plain x)
  | text s => exact le_of_lt (Json.length_lt_quoted s)
  | timestamp t =>
    have hquoted := Json.length_lt_quoted (String.ofList t.text)
    rw [String.toList_ofList] at hquoted
    exact le_of_lt hquoted
  | array items => exact le_refl _
  | object fields => exact le_refl _

/-! ## The descriptor form of a constraint -/

namespace Constraint

theorem plain_verbObject (verb : Verb) (operand : Value) :
    (verbObject verb operand).plain =
      '\x7b' :: (Json.quoted verb.name ++ ':' :: (operand.toJson.compact ++ ['\x7d'])) :=
  rfl

/-- Only the text of the object itself is equal to it. -/
theorem compareTexts_verbObject_eq_iff {t : List Char} {verb : Verb} {operand : Value} :
    compareTexts t (verbObject verb operand).plain = .eq ↔
      t = (verbObject verb operand).plain := by
  refine compareTexts_eq_iff (.inr ?_)
  rw [plain_verbObject]
  exact Binary64.read?_brace _

/-- An object with a verb does not read like a value whose JSON text is no longer than that
of its operand. -/
theorem compareTexts_verbObject_ne {verb : Verb} {operand v : Value}
    (h : v.toJson.compact.length ≤ operand.toJson.compact.length) :
    compareTexts (verbObject verb operand).plain v.plain ≠ .eq := by
  have hnumber : Binary64.read? (verbObject verb operand).plain = none := by
    rw [plain_verbObject]
    exact Binary64.read?_brace _
  rw [Ne, compareTexts_eq_iff (.inl hnumber)]
  intro heq
  have hquote : '"' ∈ v.plain := by
    rw [← heq, plain_verbObject]
    exact List.mem_cons_of_mem _ (List.mem_append_left _ List.mem_cons_self)
  have hlength := Value.length_plain_le hquote
  rw [← heq, plain_verbObject] at hlength
  simp only [List.length_cons, List.length_append, List.length_nil] at hlength
  omega

/-- Only a constraint with a verb may be unknown. -/
theorem exists_verb_of_not_supports {d : Dispatch} {c : Constraint}
    (h : d.supports c = false) : ∃ verb operand, c.verb? = some verb ∧
      c.toValue = verbObject verb operand := by
  cases c with
  | literal v => cases h
  | whole v => cases h
  | _ => exact ⟨_, _, rfl, rfl⟩

end Constraint

/-- The verbs that only exclude values. -/
def Verb.excludes : Verb → Bool
  | differs | notAmong => true
  | _ => false

/-- A cell with the text of a constraint meets it if its verb only excludes values: none of
them reads like the constraint. -/
theorem Constraint.accepts_call_of_excludes {c : Constraint} {verb : Verb} {column : String}
    {row : Row} (hverb : c.verb? = some verb) (hexcludes : verb.excludes = true)
    (hcell : row.cell? column = some c.toValue.plain) :
    (c.call column).accepts row = true := by
  cases c with
  | differs v =>
    have hne : compareTexts (verbObject .differs v).plain v.plain ≠ .eq :=
      compareTexts_verbObject_ne (le_refl _)
    refine FilterCall.accepts_compare_iff.2 ⟨_, hcell, ?_⟩
    exact bne_iff_ne.2 hne
  | notAmong vs =>
    refine FilterCall.accepts_notAmong_iff.2 ⟨_, hcell, fun v hv => ?_⟩
    have hitem : v.toJson ∈ Value.toJsonItems vs := by
      rw [Value.toJsonItems_eq_map]
      exact List.mem_map_of_mem hv
    exact compareTexts_verbObject_ne (Json.length_le_compact_array hitem)
  | literal v => cases hverb
  | whole v => cases hverb
  | _ =>
    obtain rfl := Option.some.inj hverb
    cases hexcludes

/-! ## Clauses with such constraints -/

namespace Where

variable {d : Dispatch} {w : Where} {row : Row}

/-- Instead of an unknown verb, the column is asked for the text of the constraint. -/
theorem accepts_fieldCall_iff {column : String} {c : Constraint}
    (h : d.supports c = false) :
    (fieldCall d column c).accepts row = true ↔ row.cell? column = some c.toValue.plain := by
  obtain ⟨verb, operand, -, hvalue⟩ := Constraint.exists_verb_of_not_supports h
  have hcall : fieldCall d column c = .compare .eq column c.toValue := by
    rw [fieldCall, h]
    rfl
  rw [hcall, FilterCall.accepts_compare_iff, hvalue]
  simp only [Comparison.holds, beq_iff_eq, Constraint.compareTexts_verbObject_eq_iff]
  constructor
  · rintro ⟨t, ht, rfl⟩
    exact ht
  · intro ht
    exact ⟨_, ht, rfl⟩

/-- A row whose cell has the text of a constraint with an unknown verb, one that does not
only exclude values, and does not meet the constraint. -/
def Echoed (d : Dispatch) (w : Where) (row : Row) : Prop :=
  ∃ f ∈ w.fields, ∃ verb, f.2.verb? = some verb ∧ d.supports f.2 = false ∧
    verb.excludes = false ∧ row.cell? f.1 = some f.2.toValue.plain ∧
    (f.2.call f.1).accepts row = false

/-- **Unknown verbs reach no further than known ones**, apart from the rows that have the
text of a constraint. -/
theorem admits_full_or_echoed (h : w.admits d row = true) :
    w.admits .full row = true ∨ w.Echoed d row := by
  rw [admits_iff_fieldCall] at h
  obtain ⟨hdisjunction, hfields⟩ := h
  by_cases hall : ∀ f ∈ w.fields, f.2.isVoid = false → (f.2.call f.1).accepts row = true
  · exact .inl (admits_iff.2 ⟨hdisjunction, hall⟩)
  · right
    push Not at hall
    obtain ⟨f, hf, hvoid, hcall⟩ := hall
    have hasked := hfields f hf hvoid
    -- a constraint whose verb is known asks for the same here as there
    have hunknown : d.supports f.2 = false := by
      rw [← Bool.not_eq_true]
      intro hknown
      rw [fieldCall, if_pos hknown] at hasked
      exact hcall hasked
    obtain ⟨verb, _, hverb, -⟩ := Constraint.exists_verb_of_not_supports hunknown
    have hcell := (accepts_fieldCall_iff hunknown).1 hasked
    refine ⟨f, hf, verb, hverb, hunknown, ?_, hcell, Bool.not_eq_true _ ▸ hcall⟩
    rw [← Bool.not_eq_true]
    intro hexcludes
    exact hcall (Constraint.accepts_call_of_excludes hverb hexcludes hcell)

end Where

end TabularQuery
