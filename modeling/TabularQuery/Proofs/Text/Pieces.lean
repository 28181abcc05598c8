import TabularQuery.Text.Blank

/-!
# Pieces of a text

A text that is taken apart at a character and the pieces that are put together with it.

## Main definitions

* `Text.splitOn_append` — a text with the separator in it, taken apart.
* `Text.exists_splitOn_eq` — the last piece.
* `Text.splitOn_join` — pieces that are put together and taken apart.
-/

namespace TabularQuery.Text

variable {sep : Char} {piece : List Char}

theorem splitOn_of_notMem (h : sep ∉ piece) : splitOn sep piece = [piece] := by
  induction piece with
  | nil => rfl
  | cons c rest ih =>
    have hc : sep ≠ c := List.ne_of_not_mem_cons h
    rw [splitOn, if_neg (by simpa using hc.symm), ih (List.not_mem_of_not_mem_cons h)]

/-- A separator ends the pieces before it. -/
theorem splitOn_append (sep : Char) (s rest : List Char) :
    splitOn sep (s ++ sep :: rest) = splitOn sep s ++ splitOn sep rest := by
  induction s with
  | nil =>
    have hhead : splitOn sep (sep :: rest) = [] :: splitOn sep rest := by
      rw [splitOn, if_pos (beq_self_eq_true sep)]
    exact hhead
  | cons c more ih =>
    rw [List.cons_append, splitOn, splitOn, ih]
    by_cases hc : (c == sep) = true
    · rw [if_pos hc, if_pos hc, List.cons_append]
    · rw [if_neg hc, if_neg hc]
      cases hmore : splitOn sep more with
      | nil => exact absurd hmore (splitOn_ne_nil sep more)
      | cons piece pieces => rfl

/-- The last piece of a text. -/
theorem exists_splitOn_eq (sep : Char) (s : List Char) :
    ∃ pieces last, splitOn sep s = pieces ++ [last] ∧ last.Sublist s ∧ sep ∉ last := by
  induction s with
  | nil => exact ⟨[], [], rfl, List.Sublist.refl [], List.not_mem_nil⟩
  | cons c rest ih =>
    obtain ⟨pieces, last, hsplit, hsub, hsep⟩ := ih
    by_cases hc : c = sep
    · refine ⟨[] :: pieces, last, ?_, hsub.cons c, hsep⟩
      rw [splitOn, if_pos (by simpa using hc), hsplit, List.cons_append]
    · rw [splitOn, if_neg (by simpa using hc), hsplit]
      cases pieces with
      | nil =>
        refine ⟨[], c :: last, rfl, hsub.cons_cons c, ?_⟩
        rw [List.mem_cons, not_or]
        exact ⟨fun h => hc h.symm, hsep⟩
      | cons piece pieces => exact ⟨(c :: piece) :: pieces, last, rfl, hsub.cons c, hsep⟩

/-- What comes after the last separator of a text. -/
theorem eq_of_append_cons_eq {s t last last' : List Char} (h : s ++ sep :: last = t ++ sep :: last')
    (hlast : sep ∉ last) (hlast' : sep ∉ last') : last = last' := by
  have hpieces := congrArg (splitOn sep) h
  rw [splitOn_append, splitOn_append, splitOn_of_notMem hlast, splitOn_of_notMem hlast'] at hpieces
  exact List.singleton_inj.1 (List.append_inj' hpieces rfl).2

/-- **Pieces without the separator are found again** when they are put together with it. -/
theorem splitOn_join {pieces : List (List Char)} (hne : pieces ≠ [])
    (h : ∀ piece ∈ pieces, sep ∉ piece) : splitOn sep (join [sep] pieces) = pieces := by
  induction pieces with
  | nil => exact absurd rfl hne
  | cons piece rest ih =>
    obtain ⟨hpiece, hrest⟩ := List.forall_mem_cons.1 h
    cases rest with
    | nil => exact splitOn_of_notMem hpiece
    | cons next more =>
      have hjoin : join [sep] (piece :: next :: more) =
          piece ++ [sep] ++ join [sep] (next :: more) := rfl
      rw [hjoin, List.append_assoc, List.singleton_append, splitOn_append,
        splitOn_of_notMem hpiece, ih (List.cons_ne_nil next more) hrest, List.singleton_append]

end TabularQuery.Text
