/-!
# The order of texts

Texts in the order of their characters, and those in the order of their code points.

## Main definitions

* `compareCharacters` — the order of two texts, with `compareCharacters_eq_iff`.
-/

namespace TabularQuery

/-- The order of two texts by their characters: at the first place where they differ, by
code point. -/
def compareCharacters : List Char → List Char → Ordering
  | [], [] => .eq
  | [], _ :: _ => .lt
  | _ :: _, [] => .gt
  | a :: as, b :: bs =>
    match compare a.toNat b.toNat with
    | .eq => compareCharacters as bs
    | o => o

@[simp] theorem compareCharacters_self (a : List Char) : compareCharacters a a = .eq := by
  induction a with
  | nil => rfl
  | cons c rest ih => simp [compareCharacters, ih]

/-- Texts are equal by their characters exactly when they are the same. -/
theorem compareCharacters_eq_iff {a b : List Char} : compareCharacters a b = .eq ↔ a = b := by
  constructor
  · intro h
    induction a generalizing b with
    | nil => cases b <;> simp_all [compareCharacters]
    | cons c rest ih =>
      cases b with
      | nil => simp [compareCharacters] at h
      | cons d more =>
        simp only [compareCharacters] at h
        split at h
        · rename_i hcd
          have hcd : c = d := Char.toNat_inj.1 (Nat.compare_eq_eq.1 hcd)
          rw [hcd, ih h]
        · rename_i hne
          exact absurd h hne
  · rintro rfl
    exact compareCharacters_self a

end TabularQuery
