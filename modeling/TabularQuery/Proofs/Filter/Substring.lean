import TabularQuery.Proofs.Filter.Meaning
import TabularQuery.Proofs.Store.Pattern
import TabularQuery.Proofs.Text.Lower

/-!
# Parts of a text

A constraint with `contains` asks for a cell of which its text is a part, in any case of the
letters.  Its call puts the text between two wildcards.  So two things come between the call
and the parts of the cell: the small letters of a capital sigma at an end of the text, which
may be others within the cell, and wildcards in the text itself, which stand for other
characters too.

## Main definitions

* `Json.containing`, `Where.CompilesTo` — the descriptor of such a constraint, and its call.
* `Where.containing_finds_parts` — which cells with the text are found.
* `Where.containing_finds_only_parts_iff` — which cells are found at all.
-/

namespace TabularQuery

namespace Pattern

/-! ## Patterns between wildcards -/

/-- A wildcard is no letter, so a text between wildcards has its own small letters. -/
theorem lower_around (s : List Char) :
    Text.lower ('%' :: (s ++ ['%'])) = '%' :: (Text.lower s ++ ['%']) := by
  have hwildcard : Text.casedFirst ['%'] = false := by decide +kernel
  have hfirst (rest : List Char) :
      Text.lowerBetween [] ('%' :: rest) [] = '%' :: Text.lowerBetween ['%'] rest [] := rfl
  have hlast (before : List Char) : Text.lowerBetween before ['%'] [] = ['%'] := rfl
  rw [Text.lower_eq, hfirst, Text.lowerBetween_append, List.append_nil, hlast,
    Text.lowerBetween_of_not_cased hwildcard hwildcard]

/-- A text between wildcards accepts the texts with a part that it matches as a pattern. -/
theorem accepts_around_iff {t s : List Char} :
    accepts t ('%' :: (s ++ ['%'])) = true ↔
      ∃ part, part <:+: Text.lower t ∧ Matches part (Text.lower s) := by
  rw [accepts, acceptsExact_iff, lower_around, matches_around_iff]

/-! ## Wildcards in small letters -/

/-- Puts a digit in the place of a character that does not stand for itself only. -/
def filled (c : Char) : Char :=
  if isPlain c then c else '0'

theorem filled_eq_self_iff {c : Char} : filled c = c ↔ isPlain c = true := by
  rw [filled]
  split
  · rename_i hc
    simp [hc]
  · rename_i hc
    refine iff_of_false ?_ hc
    rintro rfl
    exact hc rfl

theorem isPlain_eq_false_iff {c : Char} :
    isPlain c = false ↔ c = '%' ∨ c = '*' ∨ c = '_' := by
  simp only [isPlain, isWildcard, Bool.and_eq_false_iff, Bool.not_eq_false', Bool.or_eq_true,
    beq_iff_eq, bne_eq_false_iff_eq, or_assoc]

/-- No small letter of the tables lies before the letters of the seven-bit code. -/
theorem le_of_smallLetter? {n m : Nat} (h : Text.smallLetter? n = some m) : 0x60 ≤ m := by
  have hruns : ∀ r ∈ Text.smallLetterRuns, (0x60 : Int) ≤ r.first + r.shift := by
    decide +kernel
  obtain ⟨r, hr, hrun⟩ := List.exists_of_findSome?_eq_some h
  split at hrun
  · rename_i hin
    obtain rfl := Option.some.inj hrun
    have hfirst := hruns r hr
    simp only [Bool.and_eq_true, decide_eq_true_eq] at hin
    omega
  · cases hrun

theorem isPlain_ofNat {n : Nat} (h : 0x60 ≤ n) : isPlain (Char.ofNat n) = true := by
  -- a number that is no code point makes the character zero
  have hvalue : (Char.ofNat n).toNat = n ∨ (Char.ofNat n).toNat = 0 := by
    by_cases hn : n.isValidChar
    · exact .inl (congrArg Char.toNat (dif_pos hn))
    · exact .inr (congrArg Char.toNat (dif_neg hn))
  by_contra hplain
  rcases isPlain_eq_false_iff.1 (by simpa using hplain) with hc | hc | hc
  all_goals
    rw [hc] at hvalue
    simp at hvalue
    omega

/-- The small letters of a character that stands for itself only do so too. -/
theorem isPlain_of_mem_lowerChar {c d : Char} (hc : isPlain c = true)
    (hd : d ∈ Text.lowerChar c) : isPlain d = true := by
  simp only [Text.lowerChar] at hd
  split at hd
  · rw [List.mem_singleton] at hd
    split at hd
    · rename_i hcapital
      have hfirst : 65 ≤ c.toNat := hcapital.1
      rw [hd]
      exact isPlain_ofNat (by omega)
    · rw [hd]
      exact hc
  · split at hd
    · simp only [List.mem_cons, List.not_mem_nil, or_false] at hd
      rcases hd with rfl | rfl <;> rfl
    · split at hd
      · rename_i hsmall
        rw [List.mem_singleton.1 hd]
        exact isPlain_ofNat (le_of_smallLetter? hsmall)
      · rw [List.mem_singleton.1 hd]
        exact hc

theorem lowerChar_filled (c : Char) :
    Text.lowerChar (filled c) = (Text.lowerChar c).map filled := by
  cases hc : isPlain c with
  | true =>
    have hkept : (Text.lowerChar c).map filled = (Text.lowerChar c).map id :=
      List.map_congr_left fun d hd => filled_eq_self_iff.2 (isPlain_of_mem_lowerChar hc hd)
    rw [filled_eq_self_iff.2 hc, hkept, List.map_id]
  | false =>
    rcases isPlain_eq_false_iff.1 hc with rfl | rfl | rfl <;> rfl

theorem keepsLetters_filled : Text.KeepsLetters filled := by
  refine ⟨?_, ?_, lowerChar_filled, ?_, rfl, rfl⟩
  all_goals
    intro c
    cases hc : isPlain c with
    | true => rw [filled_eq_self_iff.2 hc]
    | false => rcases isPlain_eq_false_iff.1 hc with rfl | rfl | rfl <;> decide +kernel

/-- Filling a text and putting it into small letters can be done in either order. -/
theorem lower_map_filled (s : List Char) :
    Text.lower (s.map filled) = (Text.lower s).map filled :=
  keepsLetters_filled.lower_map s

theorem map_filled_eq_self_iff {s : List Char} :
    s.map filled = s ↔ ∀ c ∈ s, isPlain c = true := by
  induction s with
  | nil => simp
  | cons c rest ih => simp [filled_eq_self_iff, ih]

/-- A text has characters that do not stand for themselves only in small letters too, and
only if it has some itself. -/
theorem isPlain_lower_iff {s : List Char} :
    (∀ c ∈ Text.lower s, isPlain c = true) ↔ ∀ c ∈ s, isPlain c = true := by
  constructor
  · intro h c hc
    by_contra hplain
    have hself : Text.lowerChar c = [c] := by
      rcases isPlain_eq_false_iff.1 (by simpa using hplain) with rfl | rfl | rfl <;> rfl
    have hsigma : c ≠ 'Σ' := by
      rintro rfl
      exact hplain rfl
    have hmem : c ∈ Text.lower s := by
      rw [Text.lower_eq]
      exact Text.mem_lowerBetween hsigma (by simp [hself]) hc _ _
    exact hplain (h c hmem)
  · intro h
    rw [← map_filled_eq_self_iff] at h ⊢
    rw [← lower_map_filled, h]

/-- A text with digits in the place of its wildcards matches it as a pattern. -/
theorem matches_filled (s : List Char) : Matches (s.map filled) s := by
  induction s with
  | nil => exact .nil
  | cons c rest ih =>
    cases hc : isWildcard c with
    | true =>
      have hpiece : Matches ([filled c] ++ rest.map filled) (c :: rest) :=
        .any (isWildcard_iff.1 hc) ih
      exact hpiece
    | false =>
      refine .one (isWildcard_eq_false_iff.1 hc) ?_ ih
      cases hplain : isPlain c with
      | true => exact .inr (filled_eq_self_iff.2 hplain).symm
      | false =>
        rcases isPlain_eq_false_iff.1 hplain with rfl | rfl | rfl
        · cases hc
        · cases hc
        · exact .inl rfl

/-- **A text between wildcards accepts only texts of which it is a part** if all its
characters stand for themselves only, and not otherwise. -/
theorem accepts_around_only_parts_iff {s : List Char} :
    (∀ t, accepts t ('%' :: (s ++ ['%'])) = true → Text.lower s <:+: Text.lower t) ↔
      ∀ c ∈ s, isPlain c = true := by
  constructor
  · intro h
    have haccepts : accepts (s.map filled) ('%' :: (s ++ ['%'])) = true := by
      rw [accepts_around_iff]
      refine ⟨_, List.infix_rfl, ?_⟩
      rw [lower_map_filled]
      exact matches_filled _
    have hpart := h _ haccepts
    rw [lower_map_filled] at hpart
    have hsame := hpart.eq_of_length (by simp)
    rw [← isPlain_lower_iff]
    exact map_filled_eq_self_iff.1 hsame.symm
  · intro h t haccepts
    obtain ⟨part, hpart, hmatches⟩ := accepts_around_iff.1 haccepts
    obtain rfl := (matches_plain_iff (isPlain_lower_iff.2 h)).1 hmatches
    exact hpart

/-- **A text between wildcards accepts all texts of which it is a part** if its capital
sigmas keep their small letters everywhere, and not otherwise. -/
theorem accepts_around_all_parts_iff {s : List Char} :
    (∀ u v, accepts (u ++ s ++ v) ('%' :: (s ++ ['%'])) = true) ↔
      ∀ u v, Text.KeepsSigmas u s v := by
  constructor
  · intro h u v
    by_contra hchanges
    obtain ⟨u', v', x, hx, hfewer⟩ := Text.exists_count_lt hchanges
    have hplain : isPlain x = true := by
      rcases hx with rfl | rfl <;> rfl
    obtain ⟨part, hpart, hmatches⟩ := accepts_around_iff.1 (h u' v')
    have hpattern := hmatches.count_le hplain
    have htext := hpart.sublist.count_le x
    omega
  · intro h u v
    exact accepts_around_iff.2 ⟨_, Text.lower_part (h u v), matches_self _⟩

end Pattern

/-! ## The call of a constraint -/

theorem Row.cell?_of_text {row : Row} {column t : String}
    (h : Fields.get? column row = some (.text t)) : row.cell? column = some t.toList := by
  rw [Row.cell?, h]
  rfl

/-- Every text can be the cell of a row. -/
theorem Row.exists_cell? (column : String) (t : List Char) :
    ∃ row : Row, Fields.get? column row = some (.text (String.ofList t)) ∧
      row.cell? column = some t := by
  have hcell : Fields.get? column [(column, Json.text (String.ofList t))] =
      some (.text (String.ofList t)) := by
    rw [Fields.get?_cons, if_pos rfl]
  refine ⟨_, hcell, ?_⟩
  rw [Row.cell?_of_text hcell, String.toList_ofList]

/-- The descriptor that asks for a text as a part of a column. -/
def Json.containing (column s : String) : Json :=
  .object [(column, .object [("contains", .text s)])]

/-- A descriptor that becomes one filter call where all verbs are known. -/
def Where.CompilesTo (w : Json) (call : FilterCall) : Prop :=
  ∃ clause, Where.ofJson w = .ok clause ∧ clause.calls .full = [call]

namespace Where

theorem compilesTo_containing {column : String} (hcolumn : column ≠ "OR") (s : String) :
    CompilesTo (.containing column s) (.like column ("%" ++ s ++ "%")) := by
  have hconstraint : Constraint.ofJson column (.object [("contains", .text s)]) =
      .ok (.contains s) := by
    have hverbs : Constraint.verbsIn [("contains", Json.text s)] = [.contains] := rfl
    have hoperand : Fields.get? "contains" [("contains", Json.text s)] = some (.text s) := rfl
    simp only [Constraint.ofJson, hverbs, Verb.name, hoperand, Option.getD_some,
      Constraint.ofVerb, Value.ofJson, Value.plain, String.ofList_toList]
  refine ⟨Where.empty.field column (.contains s), ?_, rfl⟩
  simp only [Json.containing, ofJson, ofMembers, if_neg hcolumn, hconstraint]
  rfl

/-- The call accepts the rows whose cell has a part that matches the text as a pattern. -/
theorem accepts_containing_iff {row : Row} {column s : String} :
    (FilterCall.like column ("%" ++ s ++ "%")).accepts row = true ↔
      ∃ t ∈ row.cell? column, Pattern.accepts t ('%' :: (s.toList ++ ['%'])) = true := by
  simp [FilterCall.accepts_like_iff]

theorem accepts_containing_of_keepsSigmas {row : Row} {column s t : String} {u v : List Char}
    (hcell : Fields.get? column row = some (.text t)) (ht : t.toList = u ++ s.toList ++ v)
    (hkeeps : Text.KeepsSigmas u s.toList v) :
    (FilterCall.like column ("%" ++ s ++ "%")).accepts row = true := by
  rw [accepts_containing_iff, Row.cell?_of_text hcell]
  refine ⟨_, rfl, Pattern.accepts_around_iff.2 ⟨_, ?_, Pattern.matches_self _⟩⟩
  rw [ht]
  exact Text.lower_part hkeeps

/-- A text without a capital sigma is found in all cells of which it is a part. -/
theorem accepts_containing_of_not_mem {row : Row} {column s t : String} (hs : 'Σ' ∉ s.toList)
    (hcell : Fields.get? column row = some (.text t)) (hpart : s.toList <:+: t.toList) :
    (FilterCall.like column ("%" ++ s ++ "%")).accepts row = true := by
  obtain ⟨u, v, ht⟩ := hpart
  exact accepts_containing_of_keepsSigmas hcell ht.symm (Text.keepsSigmas_of_not_mem hs u v)

/-- **A text is found in the cells of which it is a part,** if its capital sigmas keep their
small letters there.  It is found in all of them exactly if they keep them everywhere. -/
theorem containing_finds_parts {column : String} (hcolumn : column ≠ "OR") (s : String) :
    ∃ call, CompilesTo (.containing column s) call ∧
      (∀ (row : Row) (t : String) (u v : List Char), Fields.get? column row = some (.text t) →
        t.toList = u ++ s.toList ++ v → Text.KeepsSigmas u s.toList v →
          call.accepts row = true) ∧
      ((∀ (row : Row) (t : String), Fields.get? column row = some (.text t) →
        s.toList <:+: t.toList → call.accepts row = true) ↔
          ∀ u v, Text.KeepsSigmas u s.toList v) := by
  refine ⟨_, compilesTo_containing hcolumn s, ?_, ?_⟩
  · intro row t u v hcell ht hkeeps
    exact accepts_containing_of_keepsSigmas hcell ht hkeeps
  · rw [← Pattern.accepts_around_all_parts_iff]
    constructor
    · intro h u v
      obtain ⟨row, hcell, htext⟩ := Row.exists_cell? column (u ++ s.toList ++ v)
      have haccepts := h row _ hcell ⟨u, v, by rw [String.toList_ofList]⟩
      rw [accepts_containing_iff, htext] at haccepts
      simpa using haccepts
    · rintro h row t hcell ⟨u, v, ht⟩
      rw [accepts_containing_iff, Row.cell?_of_text hcell]
      refine ⟨_, rfl, ?_⟩
      rw [← ht]
      exact h u v

/-- A word with a final sigma is found as a word of a longer text. -/
theorem containing_finds_word :
    let row : Row := [("name", .text "ΟΔΟΣ ΑΣ!")]
    "name" ≠ "OR" ∧ Fields.get? "name" row = some (.text "ΟΔΟΣ ΑΣ!") ∧
      Text.KeepsSigmas "ΟΔΟΣ ".toList "ΑΣ".toList "!".toList ∧
      ∃ call, CompilesTo (.containing "name" "ΑΣ") call ∧ call.accepts row = true := by
  intro row
  have hcolumn : "name" ≠ "OR" := by decide
  have hkeeps : Text.KeepsSigmas "ΟΔΟΣ ".toList "ΑΣ".toList "!".toList := by
    intro a b hs
    rcases a with _ | ⟨c, _ | ⟨d, a⟩⟩
    · cases hs
    · cases hs
      decide +kernel
    · simp at hs
  obtain ⟨call, hcall, hfinds, -⟩ := containing_finds_parts hcolumn "ΑΣ"
  exact ⟨hcolumn, rfl, hkeeps, call, hcall, hfinds row _ _ _ rfl rfl hkeeps⟩

/-- A capital sigma is not found at the end of a word. -/
theorem containing_misses_sigma :
    let row : Row := [("name", .text "ΑΣ")]
    Fields.get? "name" row = some (.text "ΑΣ") ∧ "Σ".toList <:+: "ΑΣ".toList ∧
      ∃ call, CompilesTo (.containing "name" "Σ") call ∧ call.accepts row = false := by
  intro row
  refine ⟨rfl, ⟨['Α'], [], rfl⟩, _, compilesTo_containing (by decide) "Σ", ?_⟩
  decide +kernel

/-- **A text is found only in cells of which it is a part,** apart from the case of the
letters, exactly if no character of it is a wildcard.  Otherwise it is read as a pattern. -/
theorem containing_finds_only_parts_iff {column : String} (hcolumn : column ≠ "OR")
    (s : String) :
    ∃ call, CompilesTo (.containing column s) call ∧
      (∀ row : Row, call.accepts row = true ↔ ∃ t ∈ row.cell? column,
        ∃ part, part <:+: Text.lower t ∧ Pattern.Matches part (Text.lower s.toList)) ∧
      ((∀ row : Row, call.accepts row = true →
        ∃ t ∈ row.cell? column, Text.lower s.toList <:+: Text.lower t) ↔
          ∀ c ∈ s.toList, c ≠ '%' ∧ c ≠ '*' ∧ c ≠ '_') := by
  refine ⟨_, compilesTo_containing hcolumn s, ?_, ?_⟩
  · intro row
    simp only [accepts_containing_iff, Pattern.accepts_around_iff]
  · have hplain : (∀ c ∈ s.toList, c ≠ '%' ∧ c ≠ '*' ∧ c ≠ '_') ↔
        ∀ c ∈ s.toList, Pattern.isPlain c = true := by
      refine forall₂_congr fun c _ => ?_
      rw [← Bool.not_eq_false, Pattern.isPlain_eq_false_iff]
      simp only [not_or]
    rw [hplain, ← Pattern.accepts_around_only_parts_iff]
    constructor
    · intro h t haccepts
      obtain ⟨row, -, htext⟩ := Row.exists_cell? column t
      have hfound := h row
      rw [accepts_containing_iff, htext] at hfound
      simpa using hfound ⟨t, rfl, haccepts⟩
    · intro h row haccepts
      obtain ⟨t, ht, hmatches⟩ := accepts_containing_iff.1 haccepts
      exact ⟨t, ht, h t hmatches⟩

/-- Letters are found only where they are. -/
theorem containing_finds_only_letters :
    "name" ≠ "OR" ∧ ∃ call, CompilesTo (.containing "name" "oak") call ∧
      ∀ row : Row, call.accepts row = true →
        ∃ t ∈ row.cell? "name", Text.lower "oak".toList <:+: Text.lower t := by
  have hcolumn : "name" ≠ "OR" := by decide
  have hplain : ∀ c ∈ "oak".toList, c ≠ '%' ∧ c ≠ '*' ∧ c ≠ '_' := by simp
  obtain ⟨call, hcall, -, honly⟩ := containing_finds_only_parts_iff hcolumn "oak"
  exact ⟨hcolumn, call, hcall, honly.2 hplain⟩

/-- An underscore is found where another character is. -/
theorem containing_finds_underscore :
    let row : Row := [("name", .text "abc")]
    (∃ call, CompilesTo (.containing "name" "a_c") call ∧ call.accepts row = true) ∧
      row.cell? "name" = some "abc".toList ∧
      ¬ Text.lower "a_c".toList <:+: Text.lower "abc".toList := by
  intro row
  refine ⟨⟨_, compilesTo_containing (by decide) "a_c", by decide +kernel⟩, rfl, ?_⟩
  decide +kernel

end Where

end TabularQuery
