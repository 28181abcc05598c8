import TabularQuery.Store.Pattern

/-!
# What the matcher accepts

A wildcard may stand for any start of the text that is left, so the pattern behind it has
to be tried from every end of this text.  The matcher tries them one after the other, but
it only ever goes back to the last wildcard that it has passed.  That is enough: where an
earlier wildcard could stand for more and lead to a match, the last one could as well.

## Main definitions

* `Pattern.MatchesLater` — a pattern matches a text without some of its first characters.
* `Scan.Succeeds` — what a state of the matcher can still lead to.
* `Scan.LastSuffices` — earlier wildcards need no further trial.
* `Scan.after` — the matcher after a number of steps.
* `Pattern.accepts_iff_matches` — the matcher ends, and it accepts what matches.
-/

namespace TabularQuery.Pattern

/-! ## Characters of patterns -/

theorem isWildcard_iff {p : Char} : isWildcard p = true ↔ p = '%' ∨ p = '*' := by
  rw [isWildcard, Bool.or_eq_true, beq_iff_eq, beq_iff_eq]

theorem isWildcard_eq_false_iff {p : Char} : isWildcard p = false ↔ p ≠ '%' ∧ p ≠ '*' := by
  rw [← Bool.not_eq_true, isWildcard_iff, not_or]

theorem standsFor_iff {p c : Char} : standsFor p c = true ↔ p = '_' ∨ p = c := by
  rw [standsFor, Bool.or_eq_true, beq_iff_eq, beq_iff_eq]

/-! ## Texts that match -/

theorem matches_nil_iff {text : List Char} : Matches text [] ↔ text = [] := by
  constructor
  · rintro ⟨⟩
    rfl
  · rintro rfl
    exact .nil

/-- A wildcard leaves any end of the text to the pattern behind it. -/
theorem matches_wildcard_iff {p : Char} {ps text : List Char} (hp : isWildcard p = true) :
    Matches text (p :: ps) ↔ ∃ rest, rest <:+ text ∧ Matches rest ps := by
  constructor
  · intro h
    cases h with
    | any _ hrest => exact ⟨_, List.suffix_append _ _, hrest⟩
    | one hone =>
      rw [isWildcard_eq_false_iff.2 hone] at hp
      cases hp
  · rintro ⟨rest, ⟨piece, rfl⟩, hrest⟩
    exact .any (isWildcard_iff.1 hp) hrest

/-- Any other character takes one character of the text. -/
theorem matches_one_iff {p : Char} {ps text : List Char} (hp : isWildcard p = false) :
    Matches text (p :: ps) ↔
      ∃ c rest, text = c :: rest ∧ standsFor p c = true ∧ Matches rest ps := by
  constructor
  · intro h
    cases h with
    | any hany =>
      rw [isWildcard_iff.2 hany] at hp
      cases hp
    | one _ hc hrest => exact ⟨_, _, rfl, standsFor_iff.2 hc, hrest⟩
  · rintro ⟨c, rest, rfl, hc, hrest⟩
    exact .one (isWildcard_eq_false_iff.1 hp) (standsFor_iff.1 hc) hrest

/-- A character that stands for the first one of the text is passed with it. -/
theorem matches_cons_iff {p c : Char} {ps rest : List Char} (hp : isWildcard p = false)
    (hc : standsFor p c = true) : Matches (c :: rest) (p :: ps) ↔ Matches rest ps := by
  rw [matches_one_iff hp]
  constructor
  · rintro ⟨d, more, hcons, -, hmore⟩
    obtain ⟨rfl, rfl⟩ := List.cons.inj hcons
    exact hmore
  · intro hrest
    exact ⟨c, rest, rfl, hc, hrest⟩

/-- The empty text matches wildcards only. -/
theorem nil_matches_iff {pattern : List Char} :
    Matches [] pattern ↔ pattern.all isWildcard = true := by
  induction pattern with
  | nil => simp [matches_nil_iff]
  | cons p ps ih =>
    cases hp : isWildcard p with
    | true => simp [matches_wildcard_iff hp, hp, ih]
    | false => simp [matches_one_iff hp, hp]

/-- Every text matches itself as a pattern. -/
theorem matches_self (s : List Char) : Matches s s := by
  induction s with
  | nil => exact .nil
  | cons c rest ih =>
    cases hc : isWildcard c with
    | true =>
      have hpiece : Matches ([c] ++ rest) (c :: rest) := .any (isWildcard_iff.1 hc) ih
      exact hpiece
    | false => exact .one (isWildcard_eq_false_iff.1 hc) (.inr rfl) ih

/-- A text that matches two patterns one after the other has a part for each. -/
theorem matches_append_iff {ps qs text : List Char} :
    Matches text (ps ++ qs) ↔ ∃ front back, text = front ++ back ∧ Matches front ps ∧
      Matches back qs := by
  induction ps generalizing text with
  | nil =>
    simp only [matches_nil_iff, List.nil_append]
    constructor
    · intro h
      exact ⟨[], text, rfl, rfl, h⟩
    · rintro ⟨_, _, rfl, rfl, h⟩
      exact h
  | cons p ps ih =>
    rw [List.cons_append]
    cases hp : isWildcard p with
    | true =>
      simp only [matches_wildcard_iff hp, ih]
      constructor
      · rintro ⟨rest, ⟨piece, rfl⟩, front, back, rfl, hfront, hback⟩
        exact ⟨piece ++ front, back, by simp, ⟨front, List.suffix_append _ _, hfront⟩, hback⟩
      · rintro ⟨front, back, rfl, ⟨rest, ⟨piece, rfl⟩, hrest⟩, hback⟩
        exact ⟨rest ++ back, ⟨piece, by simp⟩, rest, back, rfl, hrest, hback⟩
    | false =>
      simp only [matches_one_iff hp, ih]
      constructor
      · rintro ⟨c, rest, rfl, hc, front, back, rfl, hfront, hback⟩
        exact ⟨c :: front, back, rfl, ⟨c, front, rfl, hc, hfront⟩, hback⟩
      · rintro ⟨front, back, rfl, ⟨c, rest, rfl, hc, hrest⟩, hback⟩
        exact ⟨c, rest ++ back, rfl, hc, rest, back, rfl, hrest, hback⟩

/-- A pattern between two wildcards matches the texts that have a part that matches it. -/
theorem matches_around_iff {pattern text : List Char} :
    Matches text ('%' :: (pattern ++ ['%'])) ↔
      ∃ part, part <:+: text ∧ Matches part pattern := by
  rw [matches_wildcard_iff (by rfl)]
  simp only [matches_append_iff]
  constructor
  · rintro ⟨rest, ⟨piece, rfl⟩, front, back, rfl, hfront, -⟩
    exact ⟨front, ⟨piece, back, by simp⟩, hfront⟩
  · rintro ⟨part, ⟨piece, back, rfl⟩, hpart⟩
    refine ⟨part ++ back, ⟨piece, by simp⟩, part, back, rfl, hpart, ?_⟩
    rw [matches_wildcard_iff (by rfl)]
    exact ⟨[], List.nil_suffix, .nil⟩

/-- Whether a character of a pattern stands for itself only. -/
def isPlain (p : Char) : Bool :=
  !isWildcard p && p != '_'

theorem standsFor_of_isPlain {p : Char} (hp : isPlain p = true) (c : Char) :
    standsFor p c = true ↔ p = c := by
  have hp' : p ≠ '_' := by
    rintro rfl
    simp [isPlain] at hp
  simp [standsFor, hp']

theorem not_isWildcard_of_isPlain {p : Char} (hp : isPlain p = true) : isWildcard p = false := by
  rw [isPlain, Bool.and_eq_true, Bool.not_eq_true'] at hp
  exact hp.1

/-- A pattern of such characters matches itself only. -/
theorem matches_plain_iff {pattern text : List Char} (h : ∀ p ∈ pattern, isPlain p = true) :
    Matches text pattern ↔ text = pattern := by
  induction pattern generalizing text with
  | nil => exact matches_nil_iff
  | cons p ps ih =>
    obtain ⟨hp, hps⟩ := List.forall_mem_cons.1 h
    simp only [matches_one_iff (not_isWildcard_of_isPlain hp), standsFor_of_isPlain hp, ih hps]
    constructor
    · rintro ⟨c, rest, rfl, rfl, rfl⟩
      rfl
    · rintro rfl
      exact ⟨p, ps, rfl, rfl, rfl⟩

/-- A character that stands for itself only is in a text that matches as often as in the
pattern, or more often. -/
theorem Matches.count_le {x : Char} (hx : isPlain x = true) {text pattern : List Char}
    (h : Matches text pattern) : pattern.count x ≤ text.count x := by
  induction h with
  | nil => exact Nat.le_refl _
  | @any p ps piece rest hp _ ih =>
    have hne : p ≠ x := by
      rintro rfl
      rw [← isWildcard_iff, not_isWildcard_of_isPlain hx] at hp
      cases hp
    rw [List.count_cons_of_ne hne, List.count_append]
    exact Nat.le_trans ih (Nat.le_add_left _ _)
  | @one p c ps rest _ hc _ ih =>
    by_cases hpx : p = x
    · subst hpx
      obtain rfl := (standsFor_of_isPlain hx c).1 (standsFor_iff.2 hc)
      rw [List.count_cons_self, List.count_cons_self]
      exact Nat.succ_le_succ ih
    · rw [List.count_cons_of_ne hpx]
      exact Nat.le_trans ih List.count_le_count_cons

/-- A pattern matches a text from one of its later characters on, or its empty end. -/
def MatchesLater (text pattern : List Char) : Prop :=
  ∃ rest, rest <:+ text.tail ∧ Matches rest pattern

/-- A pattern matches an end of a text: the text itself, or a later one. -/
theorem matches_or_later_iff {text pattern : List Char} :
    Matches text pattern ∨ MatchesLater text pattern ↔
      ∃ rest, rest <:+ text ∧ Matches rest pattern := by
  constructor
  · rintro (h | ⟨rest, hrest, h⟩)
    · exact ⟨text, List.suffix_rfl, h⟩
    · exact ⟨rest, hrest.trans (List.tail_suffix text), h⟩
  · rintro ⟨rest, hrest, h⟩
    cases text with
    | nil =>
      obtain rfl := List.suffix_nil.1 hrest
      exact .inl h
    | cons c tail =>
      rcases List.suffix_cons_iff.1 hrest with rfl | hlater
      · exact .inl h
      · exact .inr ⟨rest, hlater, h⟩

theorem MatchesLater.of_nil {pattern : List Char} (h : MatchesLater [] pattern) :
    Matches [] pattern := by
  obtain ⟨rest, hrest, hmatches⟩ := h
  obtain rfl := List.suffix_nil.1 hrest
  exact hmatches

/-- A wildcard at the start of a pattern can stand for what comes before the later match. -/
theorem MatchesLater.of_wildcard {p : Char} {ps text : List Char} (hp : isWildcard p = true)
    (h : MatchesLater text (p :: ps)) : Matches text (p :: ps) := by
  obtain ⟨later, hlater, hmatches⟩ := h
  rw [matches_wildcard_iff hp] at hmatches ⊢
  obtain ⟨left, hleft, hrest⟩ := hmatches
  exact ⟨left, hleft.trans (hlater.trans (List.tail_suffix _)), hrest⟩

/-- Without its first character a pattern matches from one character further on. -/
theorem MatchesLater.of_one {p c : Char} {ps rest : List Char} (hp : isWildcard p = false)
    (h : MatchesLater (c :: rest) (p :: ps)) : MatchesLater rest ps := by
  obtain ⟨later, hlater, hmatches⟩ := h
  obtain ⟨d, after, rfl, -, hafter⟩ := (matches_one_iff hp).1 hmatches
  refine ⟨after, ?_, hafter⟩
  obtain ⟨passed, hpassed⟩ := hlater
  rw [List.tail_cons] at hpassed
  cases passed with
  | nil =>
    rw [← hpassed]
    exact List.suffix_rfl
  | cons e more =>
    rw [← hpassed]
    exact (List.suffix_cons d after).trans (List.suffix_append more _)

namespace Scan

/-! ## One step -/

/-- What is left of the text matches what is left of the pattern, or the last wildcard can
stand for more. -/
def Succeeds (s : Scan) : Prop :=
  Matches s.text s.pattern ∨ ∃ r ∈ s.trial, MatchesLater r.text r.pattern

/-- If the last wildcard can stand for more, what is left of the pattern matches further on
in the text.  So a wildcard in it has all the choices that the last one has. -/
def LastSuffices (s : Scan) : Prop :=
  ∀ r ∈ s.trial, MatchesLater r.text r.pattern → MatchesLater s.text s.pattern

/-- What comes out of a step answers a question: the verdict does, or the next state can
lead to success exactly if the answer is yes. -/
def Answers (outcome : Bool ⊕ Scan) (question : Prop) : Prop :=
  match outcome with
  | .inl verdict => verdict = true ↔ question
  | .inr next => next.LastSuffices ∧ (next.Succeeds ↔ question)

theorem lastSuffices_start (text pattern : List Char) : (start text pattern).LastSuffices := by
  simp [LastSuffices, start]

theorem succeeds_start_iff {text pattern : List Char} :
    (start text pattern).Succeeds ↔ Matches text pattern := by
  simp [Succeeds, start]

theorem lastSuffices_attempt (pattern text : List Char) :
    (attempt pattern text).LastSuffices := by
  simp [LastSuffices, attempt]

theorem succeeds_attempt_iff {pattern text : List Char} :
    (attempt pattern text).Succeeds ↔ ∃ rest, rest <:+ text ∧ Matches rest pattern := by
  rw [← matches_or_later_iff]
  simp [Succeeds, attempt]

/-- Going back to the last wildcard answers whether it can stand for more. -/
theorem answers_retry {trial : Option Trial} {question : Prop}
    (h : question ↔ ∃ r ∈ trial, MatchesLater r.text r.pattern) :
    Answers (retry trial) question := by
  cases trial with
  | none => simp [retry, Answers, h]
  | some r =>
    refine ⟨lastSuffices_attempt _ _, ?_⟩
    rw [succeeds_attempt_iff, h]
    simp [MatchesLater]

/-- **A step answers whether its state can lead to success.** -/
theorem answers_step {s : Scan} (h : s.LastSuffices) : Answers s.step s.Succeeds := by
  obtain ⟨text, pattern, trial, hpattern, htext⟩ := s
  have hlater : (∃ r ∈ trial, MatchesLater r.text r.pattern) → MatchesLater text pattern :=
    fun ⟨r, hr, hmatches⟩ => h r hr hmatches
  cases text with
  | nil =>
    simp only [step, Answers, Succeeds, ← nil_matches_iff]
    exact ⟨.inl, fun hsucceeds => hsucceeds.elim id fun hmore => (hlater hmore).of_nil⟩
  | cons c rest =>
    cases pattern with
    | nil => exact answers_retry (or_iff_right (by simp [matches_nil_iff]))
    | cons p ps =>
      cases hp : isWildcard p with
      | true =>
        -- the new wildcard stands for whatever the last one could stand for in addition
        simp only [step, hp, if_true, Answers]
        refine ⟨lastSuffices_attempt _ _, ?_⟩
        rw [succeeds_attempt_iff, ← matches_wildcard_iff hp, Succeeds]
        exact ⟨.inl, fun hsucceeds => hsucceeds.elim id fun hmore => (hlater hmore).of_wildcard hp⟩
      | false =>
        cases hc : standsFor p c with
        | true =>
          simp only [step, hp, hc, if_true, Bool.false_eq_true, if_false, Answers]
          refine ⟨fun r hr hmatches => (h r hr hmatches).of_one hp, ?_⟩
          simp only [Succeeds, matches_cons_iff hp hc]
        | false =>
          have hstuck : ¬ Matches (c :: rest) (p :: ps) := by
            simp [matches_one_iff hp, hc]
          simp only [step, hp, hc, Bool.false_eq_true, if_false]
          exact answers_retry (or_iff_right hstuck)

/-! ## A whole run -/

/-- The matcher accepts if its state can lead to success. -/
theorem run_iff_succeeds {s : Scan} (h : s.LastSuffices) : s.run = true ↔ s.Succeeds := by
  induction s using run.induct with
  | case1 s verdict hstep =>
    have hanswers := answers_step h
    rw [hstep] at hanswers
    rw [run_of_step_inl hstep]
    exact hanswers
  | case2 s next hstep _ ih =>
    have hanswers := answers_step h
    rw [hstep] at hanswers
    obtain ⟨hnext, hsame⟩ := hanswers
    rw [run_of_step_inr hstep]
    exact (ih hnext).trans hsame

/-- The matcher after a number of steps, or its verdict if it has come to one. -/
def after : Nat → Scan → Bool ⊕ Scan
  | 0, s => .inr s
  | n + 1, s =>
    match s.step with
    | .inl verdict => .inl verdict
    | .inr next => after n next

/-- The matcher comes to its verdict in as many steps as its size allows. -/
theorem exists_after_eq_run (s : Scan) : ∃ n ≤ s.size + 1, after n s = .inl s.run := by
  induction s using run.induct with
  | case1 s verdict hstep =>
    refine ⟨1, by omega, ?_⟩
    rw [run_of_step_inl hstep, after, hstep]
  | case2 s next hstep hsize ih =>
    obtain ⟨n, hn, hafter⟩ := ih
    refine ⟨n + 1, by omega, ?_⟩
    rw [run_of_step_inr hstep, after, hstep]
    exact hafter

end Scan

theorem acceptsExact_iff {text pattern : List Char} :
    acceptsExact text pattern = true ↔ Matches text pattern := by
  rw [acceptsExact, Scan.run_iff_succeeds (Scan.lastSuffices_start _ _), Scan.succeeds_start_iff]

/-- **The matcher ends, and it accepts exactly the texts that match.** -/
theorem accepts_iff_matches (text pattern : List Char) :
    (∃ n ≤ (Text.lower pattern).length + (Text.lower text).length * (Text.lower text).length +
        (Text.lower text).length + 2,
      Scan.after n (.start (Text.lower text) (Text.lower pattern)) =
        .inl (accepts text pattern)) ∧
      (accepts text pattern = true ↔ Matches (Text.lower text) (Text.lower pattern)) := by
  constructor
  · obtain ⟨n, hn, hafter⟩ :=
      Scan.exists_after_eq_run (.start (Text.lower text) (Text.lower pattern))
    refine ⟨n, ?_, hafter⟩
    simp only [Scan.size, Scan.start] at hn
    omega
  · exact acceptsExact_iff

end TabularQuery.Pattern
