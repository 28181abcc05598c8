import Mathlib.Data.List.Basic
import TabularQuery.Text.Lower

/-!
# Small letters in context

A character has the same small letters wherever it stands, except the capital sigma, which
looks at what is around it.  So a part of a text has in it the small letters that it has
alone, unless one of its capital sigmas ends a word in one of the two places only.

## Main definitions

* `Text.smallSigma` — the small letter of a capital sigma between two texts.
* `Text.lowerBetween` — the small letters of a text between two others.
* `Text.KeepsSigmas` — the capital sigmas of a text are between two others as they are alone.
* `Text.lower_part` — then so are all its small letters.
* `Text.KeepsLetters` — replacements of characters that change neither letters nor sigmas.
-/

namespace TabularQuery.Text

/-! ## The next letter -/

@[simp] theorem casedFirst_nil : casedFirst [] = false := rfl

@[simp] theorem casedFirst_cons (c : Char) (s : List Char) :
    casedFirst (c :: s) = if isPassedOver c then casedFirst s else isCased c := by
  cases hc : isPassedOver c <;> simp [casedFirst, hc]

/-- What comes after a text counts only if all of the text is passed over. -/
theorem casedFirst_append (s t : List Char) :
    casedFirst (s ++ t) = (casedFirst s || (s.all isPassedOver && casedFirst t)) := by
  induction s with
  | nil => simp
  | cons c s ih =>
    rw [List.cons_append, casedFirst_cons, casedFirst_cons, List.all_cons]
    cases isPassedOver c <;> simp [ih]

/-- Without a letter at its start, what comes after a text does not count. -/
theorem casedFirst_append_of_not {t : List Char} (h : casedFirst t = false) (s : List Char) :
    casedFirst (s ++ t) = casedFirst s := by
  simp [casedFirst_append, h]

/-! ## Parts of a text -/

/-- The small letter of a capital sigma between two texts, of which the first is given
from its end. -/
def smallSigma (before after : List Char) : Char :=
  if casedFirst before && !casedFirst after then 'ς' else 'σ'

/-- The small letters of a text between two others, of which the first is given from its
end. -/
def lowerBetween (before : List Char) : List Char → List Char → List Char
  | [], _ => []
  | c :: rest, after =>
    (if c == 'Σ' then [smallSigma before (rest ++ after)] else lowerChar c) ++
      lowerBetween (c :: before) rest after

theorem lowerAfter_eq (before s : List Char) : lowerAfter before s = lowerBetween before s [] := by
  induction s generalizing before with
  | nil => rfl
  | cons c rest ih =>
    rw [lowerAfter, lowerBetween, ih, List.append_nil]
    split <;> rfl

theorem lower_eq (s : List Char) : lower s = lowerBetween [] s [] :=
  lowerAfter_eq [] s

/-- The small letters of a text are those of its parts, each in its place. -/
theorem lowerBetween_append (before s t after : List Char) :
    lowerBetween before (s ++ t) after =
      lowerBetween before s (t ++ after) ++ lowerBetween (s.reverse ++ before) t after := by
  induction s generalizing before with
  | nil => rfl
  | cons c rest ih =>
    simp only [List.cons_append, lowerBetween, ih, List.append_assoc, List.reverse_cons,
      List.nil_append]

/-- The small letters of a character of a text are among those of the text. -/
theorem mem_lowerBetween {c d : Char} (hsigma : c ≠ 'Σ') (hd : d ∈ lowerChar c)
    {s : List Char} (hc : c ∈ s) (before after : List Char) :
    d ∈ lowerBetween before s after := by
  induction s generalizing before with
  | nil => cases hc
  | cons e rest ih =>
    rw [lowerBetween, List.mem_append]
    rcases List.mem_cons.1 hc with rfl | hrest
    · left
      simpa [hsigma] using hd
    · exact .inr (ih hrest _)

/-- A text between two others has the small letters that it has between two more, if its
capital sigmas have. -/
theorem lowerBetween_congr {s before after before' after' : List Char}
    (h : ∀ a b, s = a ++ 'Σ' :: b →
      smallSigma (a.reverse ++ before) (b ++ after) =
        smallSigma (a.reverse ++ before') (b ++ after')) :
    lowerBetween before s after = lowerBetween before' s after' := by
  induction s generalizing before before' with
  | nil => rfl
  | cons c rest ih =>
    rw [lowerBetween, lowerBetween]
    congr 1
    · by_cases hc : c = 'Σ'
      · have hhead := h [] rest (by rw [hc]; rfl)
        simp only [List.reverse_nil, List.nil_append] at hhead
        rw [hhead]
      · simp [hc]
    · apply ih
      intro a b hrest
      have hlater := h (c :: a) b (by rw [hrest]; rfl)
      simpa using hlater

/-- The capital sigmas of a text have between two others the small letters that they have
in the text alone. -/
def KeepsSigmas (u s v : List Char) : Prop :=
  ∀ a b, s = a ++ 'Σ' :: b →
    smallSigma (a.reverse ++ u.reverse) (b ++ v) = smallSigma a.reverse b

/-- A text without a capital sigma keeps its small letters everywhere. -/
theorem keepsSigmas_of_not_mem {s : List Char} (h : 'Σ' ∉ s) (u v : List Char) :
    KeepsSigmas u s v := by
  rintro a b rfl
  simp at h

theorem lowerBetween_eq_lower {u s v : List Char} (h : KeepsSigmas u s v) :
    lowerBetween u.reverse s v = lower s := by
  rw [lower_eq]
  apply lowerBetween_congr
  intro a b hs
  simpa using h a b hs

/-- The small letters of a text in their place. -/
theorem lower_append_append (u s v : List Char) :
    lower (u ++ s ++ v) =
      lowerBetween [] u (s ++ v) ++ lowerBetween u.reverse s v ++
        lowerBetween (s.reverse ++ u.reverse) v [] := by
  simp only [lower_eq, lowerBetween_append, List.append_nil, List.append_assoc]

/-- **A part of a text has in it the small letters that it has alone,** if its capital sigmas
have. -/
theorem lower_part {u s v : List Char} (h : KeepsSigmas u s v) :
    lower s <:+: lower (u ++ s ++ v) := by
  rw [lower_append_append, lowerBetween_eq_lower h]
  exact List.infix_append _ _ _

/-- Between texts that have no letter where they touch it, a text has the small letters that
it has alone. -/
theorem lowerBetween_of_not_cased {before after : List Char} (hbefore : casedFirst before = false)
    (hafter : casedFirst after = false) (s : List Char) :
    lowerBetween before s after = lower s := by
  rw [lower_eq]
  apply lowerBetween_congr
  intro a b _
  simp [smallSigma, casedFirst_append_of_not, hbefore, hafter]

/-! ## Places where a sigma changes -/

section Count

variable {s before after before' after' : List Char} {x : Char}

/-- If no capital sigma loses a small letter from one place to the other, the small letter is
there at least as often. -/
theorem count_lowerBetween_le
    (h : ∀ a b, s = a ++ 'Σ' :: b → smallSigma (a.reverse ++ before) (b ++ after) = x →
      smallSigma (a.reverse ++ before') (b ++ after') = x) :
    (lowerBetween before s after).count x ≤ (lowerBetween before' s after').count x := by
  induction s generalizing before before' with
  | nil => simp [lowerBetween]
  | cons c rest ih =>
    have hrest : (lowerBetween (c :: before) rest after).count x ≤
        (lowerBetween (c :: before') rest after').count x := by
      refine ih fun a b hs hx => ?_
      have hlater := h (c :: a) b (by rw [hs]; rfl)
      simp only [List.reverse_cons, List.append_assoc, List.singleton_append] at hlater
      exact hlater hx
    rw [lowerBetween, lowerBetween, List.count_append, List.count_append]
    refine Nat.add_le_add ?_ hrest
    by_cases hc : c = 'Σ'
    · have hhead := h [] rest (by rw [hc]; rfl)
      simp only [List.reverse_nil, List.nil_append] at hhead
      simp only [hc, beq_self_eq_true, if_true, List.count_singleton, beq_iff_eq]
      split
      · rename_i hx
        simp [hhead hx]
      · exact Nat.zero_le _
    · simp [hc]

/-- If one of them gains it, it is there more often. -/
theorem count_lowerBetween_lt
    (h : ∀ a b, s = a ++ 'Σ' :: b → smallSigma (a.reverse ++ before) (b ++ after) = x →
      smallSigma (a.reverse ++ before') (b ++ after') = x)
    {a b : List Char} (hs : s = a ++ 'Σ' :: b)
    (hne : smallSigma (a.reverse ++ before) (b ++ after) ≠ x)
    (heq : smallSigma (a.reverse ++ before') (b ++ after') = x) :
    (lowerBetween before s after).count x < (lowerBetween before' s after').count x := by
  subst hs
  have hfront : (lowerBetween before a ('Σ' :: b ++ after)).count x ≤
      (lowerBetween before' a ('Σ' :: b ++ after')).count x := by
    refine count_lowerBetween_le ?_
    rintro a' b' rfl hx
    have hlater := h a' (b' ++ 'Σ' :: b) (by simp)
    simp only [List.append_assoc] at hlater
    exact hlater hx
  have hback : (lowerBetween ('Σ' :: (a.reverse ++ before)) b after).count x ≤
      (lowerBetween ('Σ' :: (a.reverse ++ before')) b after').count x := by
    refine count_lowerBetween_le ?_
    rintro a' b' rfl hx
    have hlater := h (a ++ 'Σ' :: a') b' (by simp)
    simp only [List.reverse_append, List.reverse_cons, List.append_assoc, List.singleton_append]
      at hlater
    exact hlater hx
  simp only [lowerBetween_append, lowerBetween, List.count_append, beq_self_eq_true, if_true,
    List.count_singleton, beq_iff_eq, if_neg hne, if_pos heq]
  omega

end Count

theorem smallSigma_eq_final_iff {before after : List Char} :
    smallSigma before after = 'ς' ↔ casedFirst before = true ∧ casedFirst after = false := by
  rw [smallSigma]
  split
  · rename_i h
    simpa using h
  · rename_i h
    simpa using h

theorem smallSigma_eq_inner_iff {before after : List Char} :
    smallSigma before after = 'σ' ↔ smallSigma before after ≠ 'ς' := by
  rw [smallSigma]
  split <;> simp

/-- A capital sigma that ends a word with the end of the text no longer does if a letter
follows. -/
theorem count_final_lt {s a b : List Char} (hs : s = a ++ 'Σ' :: b)
    (hfinal : smallSigma a.reverse b = 'ς') (hopen : b.all isPassedOver = true) :
    (lower (s ++ ['a'])).count 'ς' < (lower s).count 'ς' := by
  have hletter : casedFirst ['a'] = true := by decide +kernel
  have hsmall : lowerBetween s.reverse ['a'] [] = ['a'] := rfl
  have hlt : (lowerBetween [] s ['a']).count 'ς' < (lowerBetween [] s []).count 'ς' := by
    refine count_lowerBetween_lt ?_ hs ?_ (by simpa using hfinal)
    · intro a' b' _ hlater
      obtain ⟨hcased, hnone⟩ := smallSigma_eq_final_iff.1 hlater
      rw [casedFirst_append, Bool.or_eq_false_iff] at hnone
      rw [List.append_nil b']
      exact smallSigma_eq_final_iff.2 ⟨hcased, hnone.1⟩
    · simp [smallSigma_eq_final_iff, casedFirst_append, hopen, hletter]
  rw [lower_eq, lower_eq, lowerBetween_append, List.append_nil, List.append_nil, hsmall]
  simpa using hlt

/-- A capital sigma with no letter before it in the text becomes the end of a word if one
precedes. -/
theorem count_inner_lt {s a b : List Char} (hs : s = a ++ 'Σ' :: b)
    (hinner : smallSigma a.reverse b = 'σ') (hopen : a.reverse.all isPassedOver = true)
    (hafter : casedFirst b = false) :
    (lower ('a' :: s)).count 'σ' < (lower s).count 'σ' := by
  have hletter : casedFirst ['a'] = true := by decide +kernel
  have hsmall : lower ('a' :: s) = 'a' :: lowerBetween ['a'] s [] := by
    rw [lower_eq]
    rfl
  have hlt : (lowerBetween ['a'] s []).count 'σ' < (lowerBetween [] s []).count 'σ' := by
    refine count_lowerBetween_lt ?_ hs ?_ (by simpa using hinner)
    · intro a' b' _ hlater
      rw [smallSigma_eq_inner_iff, Ne, smallSigma_eq_final_iff] at hlater ⊢
      rintro ⟨hcased, hnone⟩
      rw [List.append_nil] at hcased
      exact hlater ⟨by rw [casedFirst_append, hcased, Bool.true_or], hnone⟩
    · rw [Ne, smallSigma_eq_inner_iff, not_not, smallSigma_eq_final_iff]
      simp [casedFirst_append, hopen, hletter, hafter]
  rw [hsmall, lower_eq s]
  simpa using hlt

/-- **A text whose capital sigmas do not keep their small letters everywhere** loses one of
them next to a letter: there it has one of the two small sigmas less often than alone. -/
theorem exists_count_lt {u s v : List Char} (h : ¬ KeepsSigmas u s v) :
    ∃ u' v' x, (x = 'σ' ∨ x = 'ς') ∧ (lower (u' ++ s ++ v')).count x < (lower s).count x := by
  simp only [KeepsSigmas, not_forall] at h
  obtain ⟨a, b, hs, hchanges⟩ := h
  by_cases hfinal : smallSigma a.reverse b = 'ς'
  · obtain ⟨hbefore, hafter⟩ := smallSigma_eq_final_iff.1 hfinal
    rw [hfinal, smallSigma_eq_final_iff, casedFirst_append, casedFirst_append, hbefore,
      hafter] at hchanges
    simp only [Bool.true_or, Bool.false_or, true_and, Bool.not_eq_false,
      Bool.and_eq_true] at hchanges
    exact ⟨[], ['a'], 'ς', .inr rfl, count_final_lt hs hfinal hchanges.1⟩
  · have hinner : smallSigma a.reverse b = 'σ' := smallSigma_eq_inner_iff.2 hfinal
    rw [hinner, smallSigma_eq_inner_iff, not_not, smallSigma_eq_final_iff, casedFirst_append,
      casedFirst_append, Bool.or_eq_false_iff] at hchanges
    obtain ⟨hbefore, hafter, -⟩ := hchanges
    rw [smallSigma_eq_final_iff] at hfinal
    simp only [hafter, and_true, Bool.not_eq_true] at hfinal
    rw [hfinal, Bool.false_or, Bool.and_eq_true] at hbefore
    have hlt := count_inner_lt hs hinner hbefore.1 hafter
    exact ⟨['a'], [], 'σ', .inl rfl, by simpa using hlt⟩

/-! ## Characters replaced one by one -/

/-- A replacement of characters that changes neither letters nor sigmas. -/
structure KeepsLetters (f : Char → Char) : Prop where
  cased : ∀ c, isCased (f c) = isCased c
  passed : ∀ c, isPassedOver (f c) = isPassedOver c
  small : ∀ c, lowerChar (f c) = (lowerChar c).map f
  capital : ∀ c, f c = 'Σ' ↔ c = 'Σ'
  inner : f 'σ' = 'σ'
  final : f 'ς' = 'ς'

namespace KeepsLetters

variable {f : Char → Char}

theorem casedFirst_map (hf : KeepsLetters f) (s : List Char) :
    casedFirst (s.map f) = casedFirst s := by
  induction s with
  | nil => rfl
  | cons c rest ih => rw [List.map_cons, casedFirst_cons, casedFirst_cons, hf.passed, hf.cased, ih]

theorem smallSigma_map (hf : KeepsLetters f) (before after : List Char) :
    smallSigma (before.map f) (after.map f) = f (smallSigma before after) := by
  rw [smallSigma, smallSigma, hf.casedFirst_map, hf.casedFirst_map]
  split
  · exact hf.final.symm
  · exact hf.inner.symm

theorem lowerBetween_map (hf : KeepsLetters f) (before s after : List Char) :
    lowerBetween (before.map f) (s.map f) (after.map f) = (lowerBetween before s after).map f := by
  induction s generalizing before with
  | nil => rfl
  | cons c rest ih =>
    have hrest := ih (c :: before)
    rw [List.map_cons] at hrest
    rw [List.map_cons, lowerBetween, lowerBetween, List.map_append, hrest, ← List.map_append,
      hf.smallSigma_map]
    congr 1
    by_cases hc : c = 'Σ'
    · simp [hc, (hf.capital 'Σ').2 rfl]
    · simp [hc, mt (hf.capital c).1 hc, hf.small]

/-- It can be made before or after a text is put into small letters. -/
theorem lower_map (hf : KeepsLetters f) (s : List Char) :
    lower (s.map f) = (lower s).map f := by
  rw [lower_eq, lower_eq]
  exact hf.lowerBetween_map [] s []

end KeepsLetters

end TabularQuery.Text
