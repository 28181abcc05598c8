import TabularQuery.Text.Lower

/-!
# Patterns

Matching a text against a pattern in which `%` and `*` stand for any text and `_` for
any one character, without regard to the case of letters.  The matcher goes through both
from the left.  It remembers the last wildcard that it has passed; when it is stuck, it
goes back there and lets that wildcard stand for one character more.

## Main definitions

* `Pattern.Matches` — the cutting of a text into pieces that match a pattern.
* `Pattern.Scan` — the state of the matcher, with `Scan.step` and `Scan.run`.
* `Pattern.accepts` — the matcher.
-/

namespace TabularQuery.Pattern

/-- The characters that stand for any text. -/
def isWildcard (p : Char) : Bool :=
  p == '%' || p == '*'

/-- Whether a character of a pattern that stands for one character stands for this one. -/
def standsFor (p c : Char) : Bool :=
  p == '_' || p == c

/-- A text can be cut into pieces that match the characters of a pattern one by one: `%` and
`*` match any piece, `_` matches any one character, and every other character matches itself. -/
inductive Matches : List Char → List Char → Prop where
  | nil : Matches [] []
  | any {p : Char} {ps piece rest : List Char} :
      p = '%' ∨ p = '*' → Matches rest ps → Matches (piece ++ rest) (p :: ps)
  | one {p c : Char} {ps rest : List Char} :
      p ≠ '%' ∧ p ≠ '*' → p = '_' ∨ p = c → Matches rest ps → Matches (c :: rest) (p :: ps)

/-- The last wildcard that was passed: the pattern behind it, and the end of the text from
which this pattern is tried. -/
structure Trial where
  pattern : List Char
  text : List Char

/-- The state of the matcher: what is left of the text and of the pattern, and the last
wildcard. -/
structure Scan where
  text : List Char
  pattern : List Char
  trial : Option Trial
  pattern_suffix : ∀ r ∈ trial, pattern <:+ r.pattern
  text_suffix : ∀ r ∈ trial, text <:+ r.text

namespace Scan

/-- Nothing is done yet. -/
def start (text pattern : List Char) : Scan where
  text := text
  pattern := pattern
  trial := none
  pattern_suffix := by simp
  text_suffix := by simp

/-- A pattern is tried from an end of the text. -/
def attempt (pattern text : List Char) : Scan where
  text := text
  pattern := pattern
  trial := some ⟨pattern, text⟩
  pattern_suffix := by simp
  text_suffix := by simp

/-- Goes back to the last wildcard and leaves it one character more; without a wildcard
there is no match. -/
def retry : Option Trial → Bool ⊕ Scan
  | none => .inl false
  | some r => .inr (attempt r.pattern r.text.tail)

/-- One step of the matcher: a verdict or the next state. -/
def step : Scan → Bool ⊕ Scan
  | ⟨[], pattern, _, _, _⟩ => .inl (pattern.all isWildcard)
  | ⟨_ :: _, [], trial, _, _⟩ => retry trial
  | ⟨c :: rest, p :: ps, trial, hpattern, htext⟩ =>
    if isWildcard p then .inr (attempt ps (c :: rest))
    else if standsFor p c then
      .inr
        { text := rest
          pattern := ps
          trial
          pattern_suffix := fun r hr => (List.suffix_cons p ps).trans (hpattern r hr)
          text_suffix := fun r hr => (List.suffix_cons c rest).trans (htext r hr) }
    else retry trial

/-- A bound for the steps that are still to come.  A wildcard that is passed makes the
pattern behind it shorter, and each new trial of it starts further on in the text. -/
def size (s : Scan) : Nat :=
  match s.trial with
  | none => s.pattern.length + 1 + s.text.length * s.text.length + s.text.length
  | some r => r.pattern.length + r.text.length * r.text.length + s.text.length

/-- The next trial starts further on, as long as there is text left. -/
theorem size_retry_lt {s t : Scan} (hs : s.text ≠ []) (h : retry s.trial = .inr t) :
    t.size < s.size := by
  cases htrial : s.trial with
  | none => simp [retry, htrial] at h
  | some r =>
    rw [htrial] at h
    obtain rfl := Sum.inr.inj h
    have hsuffix : s.text <:+ r.text := s.text_suffix r htrial
    have hpos : 0 < s.text.length := List.length_pos_iff.2 hs
    obtain ⟨n, hn⟩ : ∃ n, r.text.length = n + 1 :=
      Nat.exists_eq_add_one.2 (Nat.lt_of_lt_of_le hpos hsuffix.length_le)
    simp only [size, attempt, htrial, List.length_tail, hn, Nat.add_sub_cancel, Nat.add_mul,
      Nat.mul_add]
    omega

/-- Every step comes closer to a verdict. -/
theorem size_lt_of_step {s t : Scan} (h : s.step = .inr t) : t.size < s.size := by
  obtain ⟨text, pattern, trial, hpattern, htext⟩ := s
  cases text with
  | nil => simp [step] at h
  | cons c rest =>
    have hsquare : rest.length * rest.length ≤ (rest.length + 1) * (rest.length + 1) :=
      Nat.mul_le_mul (Nat.le_succ _) (Nat.le_succ _)
    cases pattern with
    | nil => exact size_retry_lt (List.cons_ne_nil c rest) h
    | cons p ps =>
      simp only [step] at h
      split at h
      · -- a wildcard is passed, and the text behind the last one is no shorter than this
        obtain rfl := Sum.inr.inj h
        cases trial with
        | none =>
          simp only [size, attempt, List.length_cons]
          omega
        | some r =>
          have hlonger : ps.length < r.pattern.length := (hpattern r rfl).length_le
          have hends : (c :: rest).length ≤ r.text.length := (htext r rfl).length_le
          have hsquares := Nat.mul_le_mul hends hends
          simp only [size, attempt]
          omega
      · split at h
        · obtain rfl := Sum.inr.inj h
          cases trial <;> simp only [size, List.length_cons] <;> omega
        · exact size_retry_lt (List.cons_ne_nil c rest) h

/-- The verdict of the matcher.  It can be computed on closed texts. -/
@[semireducible] def run (s : Scan) : Bool :=
  match h : s.step with
  | .inl verdict => verdict
  | .inr next =>
    have : next.size < s.size := size_lt_of_step h
    run next
termination_by s.size

theorem run_of_step_inl {s : Scan} {verdict : Bool} (h : s.step = .inl verdict) :
    s.run = verdict := by
  rw [run]
  split <;> simp_all

theorem run_of_step_inr {s next : Scan} (h : s.step = .inr next) : s.run = next.run := by
  rw [run]
  split <;> simp_all

end Scan

/-- Whether a text matches a pattern, letter by letter. -/
def acceptsExact (text pattern : List Char) : Bool :=
  (Scan.start text pattern).run

/-- Whether a text matches a pattern when both are in small letters. -/
def accepts (text pattern : List Char) : Bool :=
  acceptsExact (Text.lower text) (Text.lower pattern)

example : accepts "aXbXc".toList "a%c".toList = true := by decide +kernel
example : accepts "abc".toList "a_".toList = false := by decide +kernel

end TabularQuery.Pattern
