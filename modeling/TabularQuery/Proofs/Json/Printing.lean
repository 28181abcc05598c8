import TabularQuery.Json.Printer
import TabularQuery.Proofs.Json.Limits
import TabularQuery.Proofs.Number.Notation

/-!
# The text of a value without blanks

The text of a JSON value is a text of the grammar, and its tree spells the value: texts in
their characters, integers in their digits, and other numbers with a point or an exponent, so
that they are never spelled like integers.  A text has one tree, and a tree spells one value;
so two values with the same text are the same.

## Main definitions

* `Json.InRange` — the numbers of a value are numbers of JSON.
* `Json.Source.Spells` — the value that a tree spells.
* `Json.exists_spelling` — the text of a value has a tree that spells it.
* `Json.compact_injective` — values with the same text are the same.
-/

namespace TabularQuery

/-! ## Numbers -/

namespace JsonNumber

/-- The numbers of JSON: integers of 64 bits, signed or unsigned, and finite numbers. -/
def InRange : JsonNumber → Prop
  | integer i => fitsSigned i = true ∨ fitsUnsigned i = true
  | real x => x.Proper

theorem InRange.natAbs_lt {i : ℤ} (h : InRange (integer i)) : i.natAbs < 10 ^ 20 := by
  simp only [InRange, fitsSigned, fitsUnsigned, Bool.and_eq_true, decide_eq_true_eq] at h
  omega

end JsonNumber

namespace Json

namespace NumberText

variable {n : NumberText}

theorem ofInteger_injective {i j : ℤ} (h : ofInteger i = ofInteger j) : i = j := by
  simp only [ofInteger, mk.injEq, decide_eq_decide, and_true] at h
  have habs : i.natAbs = j.natAbs := by
    rw [← Text.readDigits_digits i.natAbs, h.2, Text.readDigits_digits]
  omega

/-- The number that a text spells: an integer in its digits, another number with a point or
an exponent. -/
def Spells (n : NumberText) : JsonNumber → Prop
  | .integer i => n = ofInteger i
  | .real x => n.nearest = x ∧ (n.fraction.isSome ∨ n.exponent.isSome)

theorem Spells.unique {x y : JsonNumber} (hx : n.Spells x) (hy : n.Spells y) : x = y := by
  have hinteger (i : ℤ) : ¬ ((ofInteger i).fraction.isSome ∨ (ofInteger i).exponent.isSome) := by
    simp [ofInteger]
  cases x with
  | integer i =>
    cases y with
    | integer j => rw [ofInteger_injective (hx.symm.trans hy)]
    | real y => exact absurd (hx ▸ hy.2) (hinteger i)
  | real x =>
    cases y with
    | integer j => exact absurd (hy ▸ hx.2) (hinteger j)
    | real y => rw [← hx.1, ← hy.1]

end NumberText

theorem exists_numberText {x : JsonNumber} (hx : x.InRange) :
    ∃ n : NumberText, n.Writes (numberText x) ∧ n.Spells x := by
  cases x with
  | integer i => exact ⟨.ofInteger i, NumberText.writes_integer i, rfl⟩
  | real x =>
    obtain ⟨n, htext, hnearest, hmark⟩ := Binary64.exists_json hx
    exact ⟨n, htext, hnearest, hmark⟩

/-! ## Quoted texts -/

/-- A character is written as an escape of one letter, as its code, or as it is. -/
theorem escapedChar_cases (c : Char) :
    (∃ d, shortEscape? d = some c ∧ escapedChar c = ['\\', d]) ∨
      c.toNat < 0x20 ∧ escapedChar c = controlEscape c ∨
      c ≠ '"' ∧ c ≠ '\\' ∧ ¬ c.toNat < 0x20 ∧ escapedChar c = [c] := by
  unfold escapedChar
  split_ifs with hquote hbackslash h h h h h h
  · exact .inl ⟨'"', by rw [eq_of_beq hquote]; rfl, rfl⟩
  · exact .inl ⟨'\\', by rw [eq_of_beq hbackslash]; rfl, rfl⟩
  · exact .inl ⟨'b', by rw [eq_of_beq h]; rfl, rfl⟩
  · exact .inl ⟨'f', by rw [eq_of_beq h]; rfl, rfl⟩
  · exact .inl ⟨'n', by rw [eq_of_beq h]; rfl, rfl⟩
  · exact .inl ⟨'r', by rw [eq_of_beq h]; rfl, rfl⟩
  · exact .inl ⟨'t', by rw [eq_of_beq h]; rfl, rfl⟩
  · exact .inr (.inl ⟨h, rfl⟩)
  · exact .inr (.inr ⟨by simpa using hquote, by simpa using hbackslash, h, rfl⟩)

/-- The code of a control character in four digits. -/
theorem unit?_control {n : ℕ} (h : n < 0x20) :
    unit? '0' '0' (Nat.digitChar (n / 16)) (Nat.digitChar (n % 16)) = some n := by
  have hall : ∀ n < 0x20,
      unit? '0' '0' (Nat.digitChar (n / 16)) (Nat.digitChar (n % 16)) = some n := by decide
  exact hall n h

/-- The code of a control character is not a part of a pair. -/
theorem assemble_control {n : ℕ} (h : n < 0x20) (stop : Stop) (ps : List Piece) :
    assemble stop (.unit n :: ps) =
      (Char.ofNat n :: (assemble stop ps).1, (assemble stop ps).2) := by
  have hhigh : isHigh n = false := by
    rw [isHigh, Bool.and_eq_false_iff, decide_eq_false_iff_not]
    omega
  have hlow : isLow n = false := by
    rw [isLow, Bool.and_eq_false_iff, decide_eq_false_iff_not]
    omega
  cases ps with
  | nil => simp [assemble, hhigh, hlow]
  | cons p rest => cases p <;> simp [assemble, hhigh, hlow]

/-- The characters of a text are written as pieces that make up the text again. -/
theorem exists_pieces (s : List Char) :
    ∃ ps, PiecesText ps (s.flatMap escapedChar) ∧ assemble .closed ps = (s, none) := by
  induction s with
  | nil => exact ⟨[], .nil, rfl⟩
  | cons c rest ih =>
    obtain ⟨ps, htext, hassemble⟩ := ih
    rw [List.flatMap_cons]
    rcases escapedChar_cases c with ⟨d, hd, hc⟩ | ⟨hcontrol, hc⟩ | ⟨hquote, hbackslash, hcode, hc⟩
    · exact ⟨.char c :: ps, hc ▸ .short hd htext, by rw [assemble, hassemble]⟩
    · refine ⟨.unit c.toNat :: ps, ?_, ?_⟩
      · rw [hc]
        exact .unit (unit?_control hcontrol) htext
      · rw [assemble_control hcontrol, hassemble, Char.ofNat_toNat]
    · exact ⟨.char c :: ps, hc ▸ .char hquote hbackslash hcode htext, by rw [assemble, hassemble]⟩

theorem writes_quoted (s : String) : QuotedText.Writes ⟨s, none⟩ (quoted s) := by
  obtain ⟨ps, htext, hassemble⟩ := exists_pieces s.toList
  exact ⟨ps, _, htext, rfl, by rw [hassemble, String.ofList_toList]⟩

/-! ## Values -/

mutual

/-- The numbers in a value, at every depth, are numbers of JSON. -/
def InRange : Json → Prop
  | number n => n.InRange
  | array items => InRangeItems items
  | object members => InRangeMembers members
  | _ => True

/-- The same of items. -/
def InRangeItems : List Json → Prop
  | [] => True
  | v :: rest => InRange v ∧ InRangeItems rest

/-- The same of members. -/
def InRangeMembers : List (String × Json) → Prop
  | [] => True
  | (_, v) :: rest => InRange v ∧ InRangeMembers rest

end

theorem inRangeMembers_iff {members : List (String × Json)} :
    InRangeMembers members ↔ ∀ m ∈ members, m.2.InRange := by
  induction members with
  | nil => simp [InRangeMembers]
  | cons m rest ih =>
    obtain ⟨k, v⟩ := m
    rw [InRangeMembers, List.forall_mem_cons, ih]

namespace Source

mutual

/-- The value that a tree spells. -/
def Spells : Source → Json → Prop
  | null, .null => True
  | bool a, .bool b => a = b
  | number n, .number x => n.Spells x
  | text t, .text s => t.value = s
  | list items _, .array vs => SpellsItems items vs
  | object members _, .object ms => SpellsMembers members ms
  | _, _ => False

/-- The items that trees spell. -/
def SpellsItems : List Source → List Json → Prop
  | [], [] => True
  | v :: rest, w :: ws => Spells v w ∧ SpellsItems rest ws
  | _, _ => False

/-- The members that names and trees spell. -/
def SpellsMembers : List (QuotedText × Source) → List (String × Json) → Prop
  | [], [] => True
  | (key, v) :: rest, (k, w) :: ms => key.value = k ∧ Spells v w ∧ SpellsMembers rest ms
  | _, _ => False

end

mutual

/-- A tree spells one value. -/
theorem Spells.unique {v : Source} {a b : Json} (ha : v.Spells a) (hb : v.Spells b) : a = b := by
  cases v with
  | null =>
    cases a with
    | null =>
      cases b with
      | null => rfl
      | _ => exact hb.elim
    | _ => exact ha.elim
  | bool x =>
    cases a with
    | bool y =>
      cases b with
      | bool z => exact congrArg Json.bool (Eq.trans (Eq.symm ha) hb)
      | _ => exact hb.elim
    | _ => exact ha.elim
  | number n =>
    cases a with
    | number x =>
      cases b with
      | number y => exact congrArg Json.number (NumberText.Spells.unique ha hb)
      | _ => exact hb.elim
    | _ => exact ha.elim
  | text t =>
    cases a with
    | text x =>
      cases b with
      | text y => exact congrArg Json.text (Eq.trans (Eq.symm ha) hb)
      | _ => exact hb.elim
    | _ => exact ha.elim
  | list items ending =>
    cases a with
    | array vs =>
      cases b with
      | array ws => exact congrArg Json.array (SpellsItems.unique ha hb)
      | _ => exact hb.elim
    | _ => exact ha.elim
  | object members ending =>
    cases a with
    | object ms =>
      cases b with
      | object ns => exact congrArg Json.object (SpellsMembers.unique ha hb)
      | _ => exact hb.elim
    | _ => exact ha.elim
  | value w => exact ha.elim
  | broken at' => exact ha.elim

/-- Trees spell the same items. -/
theorem SpellsItems.unique {items : List Source} {as bs : List Json} (ha : SpellsItems items as)
    (hb : SpellsItems items bs) : as = bs := by
  cases items with
  | nil =>
    cases as with
    | nil =>
      cases bs with
      | nil => rfl
      | cons b bs => exact hb.elim
    | cons a as => exact ha.elim
  | cons v rest =>
    cases as with
    | nil => exact ha.elim
    | cons a as =>
      cases bs with
      | nil => exact hb.elim
      | cons b bs => rw [Spells.unique ha.1 hb.1, SpellsItems.unique ha.2 hb.2]

/-- Names and trees spell the same members. -/
theorem SpellsMembers.unique {members : List (QuotedText × Source)}
    {as bs : List (String × Json)} (ha : SpellsMembers members as)
    (hb : SpellsMembers members bs) : as = bs := by
  cases members with
  | nil =>
    cases as with
    | nil =>
      cases bs with
      | nil => rfl
      | cons b bs => exact hb.elim
    | cons a as => exact ha.elim
  | cons m rest =>
    obtain ⟨key, v⟩ := m
    cases as with
    | nil => exact ha.elim
    | cons a as =>
      cases bs with
      | nil => exact hb.elim
      | cons b bs =>
        obtain ⟨k, a⟩ := a
        obtain ⟨l, b⟩ := b
        obtain ⟨rfl, hv, hrest⟩ := ha
        obtain ⟨rfl, hv', hrest'⟩ := hb
        rw [Spells.unique hv hv', SpellsMembers.unique hrest hrest']

end

end Source

/-! ## The text of a value -/

mutual

/-- **The text of a value is the text of a tree that spells it.** -/
theorem exists_spelling {v : Json} (h : v.InRange) :
    ∃ t : Source, t.Writes v.compact ∧ t.Spells v := by
  cases v with
  | null => exact ⟨.null, rfl, trivial⟩
  | bool b => exact ⟨.bool b, by cases b <;> rfl, rfl⟩
  | number x =>
    obtain ⟨n, htext, hn⟩ := exists_numberText h
    exact ⟨.number n, htext, hn⟩
  | text s => exact ⟨.text ⟨s, none⟩, writes_quoted s, rfl⟩
  | array items =>
    cases items with
    | nil => exact ⟨.list [] .closed, ⟨_, rfl, [], space_nil, rfl⟩, trivial⟩
    | cons v rest =>
      obtain ⟨t, ht, hspells⟩ := exists_spelling h.1
      obtain ⟨ts, hts, hspells'⟩ := exists_spellingItems h.2
      exact ⟨.list (t :: ts) .closed,
        ⟨_, rfl, [], [], _, _, rfl, space_nil, ht, hts, rfl⟩, hspells, hspells'⟩
  | object members =>
    cases members with
    | nil => exact ⟨.object [] .closed, ⟨_, rfl, [], space_nil, rfl⟩, trivial⟩
    | cons m rest =>
      obtain ⟨k, v⟩ := m
      obtain ⟨t, ht, hspells⟩ := exists_spelling h.1
      obtain ⟨ts, hts, hspells'⟩ := exists_spellingMembers h.2
      exact ⟨.object ((⟨k, none⟩, t) :: ts) .closed,
        ⟨_, rfl, [], [], _, [], [], _, _, rfl, space_nil, writes_quoted k, space_nil, space_nil,
          ht, hts, rfl⟩, rfl, hspells, hspells'⟩

/-- The text of items after the first. -/
theorem exists_spellingItems {items : List Json} (h : InRangeItems items) :
    ∃ ts, Source.WritesItems false ts (compactItems items) ∧ Source.SpellsItems ts items := by
  cases items with
  | nil => exact ⟨[], ⟨[], space_nil, rfl⟩, trivial⟩
  | cons v rest =>
    obtain ⟨t, ht, hspells⟩ := exists_spelling h.1
    obtain ⟨ts, hts, hspells'⟩ := exists_spellingItems h.2
    exact ⟨t :: ts, ⟨[','], [], _, _, ⟨[], space_nil, rfl⟩, space_nil, ht, hts, rfl⟩,
      hspells, hspells'⟩

/-- The text of members after the first. -/
theorem exists_spellingMembers {members : List (String × Json)} (h : InRangeMembers members) :
    ∃ ts, Source.WritesMembers false ts (compactMembers members) ∧
      Source.SpellsMembers ts members := by
  cases members with
  | nil => exact ⟨[], ⟨[], space_nil, rfl⟩, trivial⟩
  | cons m rest =>
    obtain ⟨k, v⟩ := m
    obtain ⟨t, ht, hspells⟩ := exists_spelling h.1
    obtain ⟨ts, hts, hspells'⟩ := exists_spellingMembers h.2
    exact ⟨(⟨k, none⟩, t) :: ts, ⟨[','], [], _, [], [], _, _, ⟨[], space_nil, rfl⟩, space_nil,
      writes_quoted k, space_nil, space_nil, ht, hts, rfl⟩, rfl, hspells, hspells'⟩

end

/-- **Values with the same text are the same.** -/
theorem compact_injective {v w : Json} (hv : v.InRange) (hw : w.InRange)
    (h : v.compact = w.compact) : v = w := by
  obtain ⟨t, ht, hspells⟩ := exists_spelling hv
  obtain ⟨u, hu, hspells'⟩ := exists_spelling hw
  have htext (s : List Char) (t : Source) (ht : t.Writes s) : IsText s t :=
    ⟨[], s, [], space_nil, ht, space_nil, by simp⟩
  obtain rfl := (htext _ t ht).unique (h ▸ htext _ u hu)
  exact hspells.unique hspells'

end Json

end TabularQuery
