import Mathlib.Data.List.Infix
import TabularQuery.Text.Blank

/-!
# Texts that end at a mark

A name that is written without quotation, with a mark behind it, ends where a mark begins
for the first time.  It is read back if no mark begins inside it.  A mark may begin in a
name and end in the mark behind it, so that the mark counts as a part of the text.

## Main definitions

* `Notation.cut` — a text up to the first mark.
* `Notation.Inert` — names in which no mark begins.
* `Notation.cut_append` — such a name is read back.
-/

namespace TabularQuery.Notation

/-- A text up to the first place where one of some marks begins, and what stands from
there on. -/
def cut (marks : List (List Char)) : List Char → Option (List Char × List Char)
  | [] => if marks.any (·.isPrefixOf []) then some ([], []) else none
  | c :: s =>
    if marks.any (·.isPrefixOf (c :: s)) then some ([], c :: s)
    else (cut marks s).map fun (t, rest) => (c :: t, rest)

/-- At no place of a text one of some marks begins, also with a mark behind the text. -/
def Inert (marks : List (List Char)) : List Char → Prop
  | [] => True
  | c :: s => (∀ m ∈ marks, ∀ own ∈ marks, ¬ own <+: c :: (s ++ m)) ∧ Inert marks s

instance Inert.instDecidable (marks : List (List Char)) :
    (s : List Char) → Decidable (Inert marks s)
  | [] => inferInstanceAs (Decidable True)
  | c :: s =>
    have := Inert.instDecidable marks s
    inferInstanceAs (Decidable ((∀ m ∈ marks, ∀ own ∈ marks, ¬ own <+: c :: (s ++ m)) ∧ _))

/-- In none of some marks another one begins and ends before its end. -/
def Terminal (marks : List (List Char)) : Prop :=
  ∀ own ∈ marks, ∀ m ∈ marks, ∀ t ∈ own.tails, m <+: t → m = t

variable {marks : List (List Char)} {m s : List Char}

/-- What stands behind the mark of a text does not make a mark begin in the text. -/
theorem not_prefix_append (hmarks : Terminal marks) {own : List Char} (hown : own ∈ marks)
    (hm : m ∈ marks) (h : ¬ own <+: s ++ m) (rest : List Char) :
    ¬ own <+: s ++ (m ++ rest) := by
  intro hprefix
  have hall : s ++ m <+: s ++ (m ++ rest) := by
    rw [← List.append_assoc]
    exact List.prefix_append _ _
  rcases List.prefix_or_prefix_of_prefix hprefix hall with hshort | ⟨after, hafter⟩
  · exact h hshort
  -- the mark behind the text would lie inside the other one, and so be its end
  · have htail : m ++ after ∈ own.tails := by
      rw [List.mem_tails, ← hafter, List.append_assoc]
      exact List.suffix_append s (m ++ after)
    have hend : m = m ++ after := hmarks own hown m hm _ htail (List.prefix_append m after)
    rw [List.append_assoc, ← hend] at hafter
    exact h (hafter ▸ List.prefix_rfl)

/-- **A text in which no mark begins ends at its mark.** -/
theorem cut_append (hmarks : Terminal marks) (hm : m ∈ marks) (h : Inert marks s)
    (rest : List Char) : cut marks (s ++ (m ++ rest)) = some (s, m ++ rest) := by
  induction s with
  | nil =>
    have hbegins : marks.any (·.isPrefixOf (m ++ rest)) = true := by
      refine List.any_eq_true.2 ⟨m, hm, ?_⟩
      rw [List.isPrefixOf_iff_prefix]
      exact List.prefix_append m rest
    rw [List.nil_append]
    -- the two ways of `cut` to look for a mark, at the end of a text and before it
    cases htext : m ++ rest with
    | nil =>
      rw [htext] at hbegins
      rw [cut, if_pos hbegins]
    | cons c more =>
      rw [htext] at hbegins
      rw [cut, if_pos hbegins]
  | cons c s ih =>
    obtain ⟨hfirst, hrest⟩ := h
    have hnone : ¬ marks.any (·.isPrefixOf (c :: (s ++ (m ++ rest)))) = true := by
      intro hany
      obtain ⟨own, hown, hbegins⟩ := List.any_eq_true.1 hany
      rw [List.isPrefixOf_iff_prefix] at hbegins
      exact not_prefix_append (s := c :: s) hmarks hown hm (hfirst m hm own hown) rest hbegins
    rw [List.cons_append, cut, if_neg hnone, ih hrest]
    rfl

/-! ## Names without marks -/

/-- No mark begins in front of another one and ends in it. -/
def Separate (marks : List (List Char)) : Prop :=
  ∀ own ∈ marks, ∀ m ∈ marks, ∀ t ∈ own.inits, t ≠ [] → own <+: t ++ m → own <+: t

/-- Between such marks, a name needs only to have none of them in it. -/
theorem inert_of_markless (hmarks : Separate marks) (h : ∀ m ∈ marks, ¬ m <:+: s) :
    Inert marks s := by
  induction s with
  | nil => trivial
  | cons c s ih =>
    refine ⟨fun m hm own hown hprefix => ?_, ih fun m hm hmark => ?_⟩
    · have hnone : ¬ own <+: c :: s := fun hown' => h own hown hown'.isInfix
      rcases List.prefix_or_prefix_of_prefix hprefix (List.prefix_append (c :: s) m) with
        hshort | hlong
      · exact hnone hshort
      · have hinit : c :: s ∈ own.inits := by
          rw [List.mem_inits]
          exact hlong
        exact hnone (hmarks own hown m hm _ hinit (List.cons_ne_nil c s) hprefix)
    · exact h m hm (hmark.trans (List.suffix_cons c s).isInfix)

end TabularQuery.Notation
