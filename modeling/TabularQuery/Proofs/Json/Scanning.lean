import TabularQuery.Proofs.Json.Tokens

/-!
# Scanning JSON texts

The texts of a tree are scanned as that tree, and what is scanned up to its end is a text of
its tree.  What is scanned without an end has no value for anyone.  So a text is read exactly
if it is JSON and its tree has a value.

## Main definitions

* `Json.Source.scanValue_append` — the texts of a tree are scanned as that tree.
* `Json.Source.scanValue_cases` — what a scan can be.
* `Json.Source.ScansTexts` — what is scanned to its end is a text of its tree.
* `Json.Source.EndsBroken` — what is scanned without an end has no value.
* `Json.read_eq_ok_iff` — the texts that are read.
-/

namespace TabularQuery.Json

open Text (Stops)

/-! ## Values that are scanned -/

/-- The blanks of JSON are blank characters. -/
theorem isSpace_of_not_isBlank {c : Char} (hc : Text.isBlank c = false) : isSpace c = false := by
  rw [isSpace, Bool.or_eq_false_iff, Bool.or_eq_false_iff, Bool.or_eq_false_iff]
  simp only [beq_eq_false_iff_ne]
  refine ⟨⟨⟨?_, ?_⟩, ?_⟩, ?_⟩ <;> rintro rfl <;> cases hc

namespace Source

theorem exists_head_of_unsigned {n : NumberText} {u : List Char} (hu : n.Unsigned u) :
    ∃ c t, u = c :: t ∧ Text.isDigit c = true := by
  obtain ⟨hwhole, -, -, -⟩ := hu
  obtain ⟨c, t, rfl⟩ := List.exists_cons_of_ne_nil hwhole.1
  exact ⟨c, _, rfl, hwhole.2 c List.mem_cons_self⟩

/-- The text of a value begins with what is neither blank nor the end of a list. -/
theorem exists_head_of_writes {v : Source} {s : List Char} (h : v.Writes s) :
    ∃ c t, s = c :: t ∧ Text.isBlank c = false ∧ c ≠ ']' := by
  cases v with
  | null =>
    obtain rfl := h
    exact ⟨_, _, rfl, rfl, by decide⟩
  | bool b =>
    cases b <;> obtain rfl := h <;> exact ⟨_, _, rfl, rfl, by decide⟩
  | number n =>
    have h : n.Writes s := h
    rw [NumberText.Writes] at h
    split at h
    · obtain ⟨u, rfl, -⟩ := h
      exact ⟨_, _, rfl, rfl, by decide⟩
    · obtain ⟨c, t, rfl, hc⟩ := exists_head_of_unsigned h
      exact ⟨c, t, rfl, Text.isBlank_of_isDigit hc, by rintro rfl; exact absurd hc (by decide)⟩
  | text t =>
    obtain ⟨ps, u, -, rfl, -⟩ := h
    exact ⟨_, _, rfl, rfl, by decide⟩
  | list items ending =>
    cases ending with
    | closed =>
      obtain ⟨u, rfl, -⟩ := h
      exact ⟨_, _, rfl, rfl, by decide⟩
    | broken b => exact h.elim
  | object members ending =>
    cases ending with
    | closed =>
      obtain ⟨u, rfl, -⟩ := h
      exact ⟨_, _, rfl, rfl, by decide⟩
    | broken b => exact h.elim
  | value w => exact h.elim
  | broken b => exact h.elim

theorem stops_of_space {ws t : List Char} (hws : Space ws) (ht : Stops goesOn t) :
    Stops goesOn (ws ++ t) := by
  cases ws with
  | nil => exact ht
  | cons c more =>
    have hc := hws c List.mem_cons_self
    refine Text.stops_cons.2 ?_
    simp only [isSpace, Bool.or_eq_true, beq_iff_eq] at hc
    rcases hc with ((rfl | rfl) | rfl) | rfl <;> rfl

/-- Behind an item no number goes on. -/
theorem stops_of_writesItems {items : List Source} {u : List Char}
    (h : WritesItems false items u) (rest : List Char) : Stops goesOn (u ++ rest) := by
  cases items with
  | nil =>
    obtain ⟨ws, hws, rfl⟩ := h
    rw [List.append_assoc]
    exact stops_of_space hws (Text.stops_cons.2 rfl)
  | cons v more =>
    obtain ⟨mark, ws, t, u, ⟨before, hbefore, rfl⟩, -, -, -, rfl⟩ := h
    rw [List.append_assoc, List.append_assoc]
    exact stops_of_space hbefore (Text.stops_cons.2 rfl)

/-- Behind a member no number goes on. -/
theorem stops_of_writesMembers {members : List (QuotedText × Source)} {u : List Char}
    (h : WritesMembers false members u) (rest : List Char) : Stops goesOn (u ++ rest) := by
  cases members with
  | nil =>
    obtain ⟨ws, hws, rfl⟩ := h
    rw [List.append_assoc]
    exact stops_of_space hws (Text.stops_cons.2 rfl)
  | cons m more =>
    obtain ⟨key, v⟩ := m
    obtain ⟨mark, ws, k, gap, ws', t, u, ⟨before, hbefore, rfl⟩, -, -, -, -, -, -, rfl⟩ := h
    rw [List.append_assoc, List.append_assoc]
    exact stops_of_space hbefore (Text.stops_cons.2 rfl)

theorem length_pos_of_writesItems {first : Bool} {items : List Source} {u : List Char}
    (h : WritesItems first items u) : 0 < u.length := by
  cases items with
  | nil =>
    obtain ⟨ws, -, rfl⟩ := h
    simp
  | cons v more =>
    obtain ⟨mark, ws, t, u, -, -, ht, -, rfl⟩ := h
    obtain ⟨c, t, rfl, -⟩ := exists_head_of_writes ht
    simp only [List.length_append, List.length_cons]
    omega

theorem length_pos_of_writesMembers {first : Bool} {members : List (QuotedText × Source)}
    {u : List Char} (h : WritesMembers first members u) : 0 < u.length := by
  cases members with
  | nil =>
    obtain ⟨ws, -, rfl⟩ := h
    simp
  | cons m more =>
    obtain ⟨key, v⟩ := m
    obtain ⟨mark, ws, k, gap, ws', t, u, -, -, -, -, -, -, -, rfl⟩ := h
    simp only [List.length_append, List.length_cons]
    omega

mutual

/-- A text of a value is scanned, with blanks before it, up to its end. -/
theorem scanValue_append (fuel : Nat) {v : Source} {ws s rest : List Char} (h : v.Writes s)
    (hws : Space ws) (hrest : Stops goesOn rest) (hfuel : 2 * s.length ≤ fuel + 1) :
    scanValue fuel (ws ++ (s ++ rest)) = (v, some rest) := by
  obtain ⟨c, t, hs, hblank, -⟩ := exists_head_of_writes h
  obtain ⟨fuel, rfl⟩ : ∃ n, fuel = n + 1 := by
    refine ⟨fuel - 1, ?_⟩
    rw [hs, List.length_cons] at hfuel
    omega
  have hskip : skipSpace (ws ++ (s ++ rest)) = s ++ rest := by
    rw [hs, List.cons_append]
    exact skipSpace_append hws (isSpace_of_not_isBlank hblank) _
  rw [scanValue, hskip]
  clear hskip hs hblank
  cases v with
  | null =>
    obtain rfl := h
    simp [scanWord]
  | bool b =>
    cases b <;> obtain rfl := h <;> simp [scanWord]
  | number n =>
    have h : n.Writes s := h
    rw [NumberText.Writes] at h
    split at h
    · rename_i hnegative
      obtain ⟨u, rfl, hu⟩ := h
      have hscan := scanNumber_append hu hrest
      rw [hnegative] at hscan
      simp [hscan]
    · rename_i hnegative
      have hscan := scanNumber_append h hrest
      obtain ⟨d, u, rfl, hd⟩ := exists_head_of_unsigned h
      rw [Bool.not_eq_true] at hnegative
      rw [hnegative, List.cons_append] at hscan
      simp only [List.cons_append, Text.beq_of_isDigit hd (d := 'n') rfl,
        Text.beq_of_isDigit hd (d := 't') rfl, Text.beq_of_isDigit hd (d := 'f') rfl,
        Text.beq_of_isDigit hd (d := '-') rfl, hd, hscan, Bool.false_eq_true, if_false, if_true]
  | text t =>
    obtain ⟨u, rfl, hscan⟩ := scanText_append h rest
    simp [hscan, Text.isDigit]
  | list items ending =>
    cases ending with
    | closed =>
      obtain ⟨u, rfl, hitems⟩ := h
      have hscan := scanItems_append fuel hitems rest (by simp at hfuel; omega)
      simp [hscan, Text.isDigit]
    | broken b => exact h.elim
  | object members ending =>
    cases ending with
    | closed =>
      obtain ⟨u, rfl, hmembers⟩ := h
      have hscan := scanMembers_append fuel hmembers rest (by simp at hfuel; omega)
      simp [hscan, Text.isDigit]
    | broken b => exact h.elim
  | value w => exact h.elim
  | broken b => exact h.elim

theorem scanItems_append (fuel : Nat) {items : List Source} {first : Bool} {s : List Char}
    (h : WritesItems first items s) (rest : List Char) (hfuel : 2 * s.length ≤ fuel) :
    scanItems fuel first (s ++ rest) = (items, .closed, some rest) := by
  cases items with
  | nil =>
    obtain ⟨ws, hws, rfl⟩ := h
    obtain ⟨fuel, rfl⟩ : ∃ n, fuel = n + 1 := ⟨fuel - 1, by simp at hfuel; omega⟩
    rw [List.append_assoc, List.singleton_append, scanItems, skipSpace_append hws rfl rest]
    rfl
  | cons v more =>
    obtain ⟨mark, ws, t, u, hmark, hws, ht, hu, rfl⟩ := h
    obtain ⟨c, t, rfl, hblank, hclose⟩ := exists_head_of_writes ht
    have hpos : 0 < u.length := length_pos_of_writesItems hu
    obtain ⟨fuel, rfl⟩ : ∃ n, fuel = n + 1 := ⟨fuel - 1, by simp at hfuel; omega⟩
    simp only [List.length_append, List.length_cons] at hfuel
    have hv := scanValue_append fuel ht space_nil
      (stops_of_writesItems hu rest) (by simp only [List.length_cons]; omega)
    have hmore := scanItems_append fuel hu rest (by omega)
    simp only [List.nil_append, List.cons_append] at hv
    have hskip := skipSpace_append hws (isSpace_of_not_isBlank hblank) (t ++ (u ++ rest))
    cases first with
    | true =>
      obtain rfl := hmark
      simp only [List.nil_append, List.append_assoc, List.cons_append, scanItems, hskip]
      simp [hclose, hv, hmore]
    | false =>
      obtain ⟨before, hbefore, rfl⟩ := hmark
      simp only [List.nil_append, List.append_assoc, List.cons_append, scanItems,
        skipSpace_append hbefore (c := ',') rfl _, hskip]
      simp [hclose, hv, hmore]

theorem scanMembers_append (fuel : Nat) {members : List (QuotedText × Source)} {first : Bool}
    {s : List Char} (h : WritesMembers first members s) (rest : List Char)
    (hfuel : 2 * s.length ≤ fuel) :
    scanMembers fuel first (s ++ rest) = (members, .closed, some rest) := by
  cases members with
  | nil =>
    obtain ⟨ws, hws, rfl⟩ := h
    obtain ⟨fuel, rfl⟩ : ∃ n, fuel = n + 1 := ⟨fuel - 1, by simp at hfuel; omega⟩
    rw [List.append_assoc, List.singleton_append, scanMembers, skipSpace_append hws rfl rest]
    rfl
  | cons m more =>
    obtain ⟨key, v⟩ := m
    obtain ⟨mark, ws, k, gap, ws', t, u, hmark, hws, hkey, hgap, hws', ht, hu, rfl⟩ := h
    have hpos : 0 < u.length := length_pos_of_writesMembers hu
    obtain ⟨fuel, rfl⟩ : ∃ n, fuel = n + 1 := ⟨fuel - 1, by simp at hfuel; omega⟩
    obtain ⟨k, rfl, hscan⟩ :=
      scanText_append hkey (gap ++ ':' :: (ws' ++ (t ++ (u ++ rest))))
    simp only [List.length_append, List.length_cons] at hfuel
    have hv := scanValue_append fuel ht hws'
      (stops_of_writesMembers hu rest) (by omega)
    have hmore := scanMembers_append fuel hu rest (by omega)
    have hcolon := skipSpace_append (c := ':') hgap rfl (ws' ++ (t ++ (u ++ rest)))
    have hskip := skipSpace_append (c := '"') hws rfl
      (k ++ (gap ++ ':' :: (ws' ++ (t ++ (u ++ rest)))))
    cases first with
    | true =>
      obtain rfl := hmark
      simp only [List.nil_append, List.append_assoc, List.cons_append, scanMembers, hskip,
        hscan, hcolon, hv, hmore]
      rfl
    | false =>
      obtain ⟨before, hbefore, rfl⟩ := hmark
      simp only [List.nil_append, List.append_assoc, List.cons_append, scanMembers,
        skipSpace_append hbefore (c := ',') rfl _, hskip, hscan, hcolon, hv, hmore]
      rfl

end

/-! ## What a scan can be -/

/-- What is scanned where an item is expected. -/
def itemStep (fuel : Nat) (s : List Char) : List Source × Ending × Option (List Char) :=
  match scanValue fuel s with
  | (v, none) => ([v], .closed, none)
  | (v, some rest) =>
    let (items, ending, rest) := scanItems fuel false rest
    (v :: items, ending, rest)

/-- What is scanned behind the first quote of a member. -/
def memberStep (fuel : Nat) (s : List Char) :
    List (QuotedText × Source) × Ending × Option (List Char) :=
  match scanText s with
  | .error b => ([], .broken b, none)
  | .ok (key, rest) =>
    match skipSpace rest with
    | [] => ([(key, .broken (.both .endInObject))], .closed, none)
    | c :: rest =>
      if c == ':' then
        match scanValue fuel rest with
        | (v, none) => ([(key, v)], .closed, none)
        | (v, some rest) =>
          let (members, ending, rest) := scanMembers fuel false rest
          ((key, v) :: members, ending, rest)
      else ([(key, .broken (.both .expectedColon))], .closed, none)

/-- A value is a break, a word, number or text with what follows it, a list or an object. -/
theorem scanValue_cases (fuel : Nat) (s : List Char) :
    (∃ b, scanValue (fuel + 1) s = .broken b) ∨
    (∃ v ws t rest, Space ws ∧ Writes v t ∧ s = ws ++ (t ++ rest) ∧
      scanValue (fuel + 1) s = (v, some rest)) ∨
    (∃ ws tail items ending rest, Space ws ∧ s = ws ++ '[' :: tail ∧
      scanItems fuel true tail = (items, ending, rest) ∧
      scanValue (fuel + 1) s = (list items ending, rest)) ∨
    ∃ ws tail members ending rest, Space ws ∧ s = ws ++ '\x7b' :: tail ∧
      scanMembers fuel true tail = (members, ending, rest) ∧
      scanValue (fuel + 1) s = (object members ending, rest) := by
  obtain ⟨ws, hws, hs⟩ := exists_space s
  generalize hscan : scanValue (fuel + 1) s = scanned
  rw [scanValue] at hscan
  generalize skipSpace s = tail at hscan hs
  subst hs
  cases tail with
  | nil => exact .inl ⟨_, hscan.symm⟩
  | cons c tail =>
    -- a word, a number or a text that is scanned up to its end
    have hleaf {v : Source} {t rest : List Char} (hv : v.Writes t) (ht : c :: tail = t ++ rest)
        (h : scanned = (v, some rest)) :
        ∃ v ws' t rest, Space ws' ∧ Writes v t ∧ ws ++ c :: tail = ws' ++ (t ++ rest) ∧
          scanned = (v, some rest) :=
      ⟨v, ws, t, rest, hws, hv, by rw [ht], h⟩
    have hword {word rest : List Char} {w : Source} {d : Char} (hd : (c == d) = true)
        (hw : w.Writes (d :: word)) (hrest : scanWord word tail = .ok rest)
        (h : scanned = (w, some rest)) :
        ∃ v ws' t rest, Space ws' ∧ Writes v t ∧ ws ++ c :: tail = ws' ++ (t ++ rest) ∧
          scanned = (v, some rest) := by
      rw [beq_iff_eq] at hd
      subst hd
      exact hleaf hw (by rw [of_scanWord hrest]; rfl) h
    dsimp only at hscan
    split at hscan
    · split at hscan
      · exact .inr (.inl (hword (w := .null) ‹_› rfl ‹_› hscan.symm))
      · exact .inl ⟨_, hscan.symm⟩
    split at hscan
    · split at hscan
      · exact .inr (.inl (hword (w := .bool true) ‹_› rfl ‹_› hscan.symm))
      · exact .inl ⟨_, hscan.symm⟩
    split at hscan
    · split at hscan
      · exact .inr (.inl (hword (w := .bool false) ‹_› rfl ‹_› hscan.symm))
      · exact .inl ⟨_, hscan.symm⟩
    split at hscan
    · rename_i hc
      rw [beq_iff_eq] at hc
      subst hc
      split at hscan
      · rename_i n after hnumber
        obtain ⟨u, hnegative, hu, rfl⟩ := of_scanNumber hnumber
        have hn : n.Writes ('-' :: u) := by
          rw [NumberText.Writes, if_pos hnegative]
          exact ⟨u, rfl, hu⟩
        exact .inr (.inl (hleaf (v := .number n) hn rfl hscan.symm))
      · exact .inl ⟨_, hscan.symm⟩
    split at hscan
    · split at hscan
      · rename_i n after hnumber
        obtain ⟨u, hnegative, hu, heq⟩ := of_scanNumber hnumber
        have hn : n.Writes u := by
          rw [NumberText.Writes, hnegative, if_neg Bool.false_ne_true]
          exact hu
        exact .inr (.inl (hleaf (v := .number n) hn heq hscan.symm))
      · exact .inl ⟨_, hscan.symm⟩
    split at hscan
    · rename_i hc
      rw [beq_iff_eq] at hc
      subst hc
      split at hscan
      · rename_i t after htext
        obtain ⟨u, hu, rfl⟩ := of_scanText htext
        exact .inr (.inl (hleaf (v := .text t) hu rfl hscan.symm))
      · exact .inl ⟨_, hscan.symm⟩
    split at hscan
    · rename_i hc
      rw [beq_iff_eq] at hc
      subst hc
      exact .inr (.inr (.inl ⟨ws, tail, _, _, _, hws, rfl, rfl, hscan.symm⟩))
    split at hscan
    · rename_i hc
      rw [beq_iff_eq] at hc
      subst hc
      exact .inr (.inr (.inr ⟨ws, tail, _, _, _, hws, rfl, rfl, hscan.symm⟩))
    · exact .inl ⟨_, hscan.symm⟩

/-- The items are a break, the end of the list, or an item behind its mark. -/
theorem scanItems_cases (fuel : Nat) (first : Bool) (s : List Char) :
    (∃ b, scanItems (fuel + 1) first s = ([], .broken b, none)) ∨
    (∃ ws rest, Space ws ∧ s = ws ++ ']' :: rest ∧
      scanItems (fuel + 1) first s = ([], .closed, some rest)) ∨
    ∃ mark ws after,
      (if first then mark = [] else ∃ before, Space before ∧ mark = before ++ [',']) ∧
      Space ws ∧ s = mark ++ (ws ++ after) ∧
      scanItems (fuel + 1) first s = itemStep fuel after := by
  obtain ⟨ws, hws, hs⟩ := exists_space s
  generalize hscan : scanItems (fuel + 1) first s = scanned
  rw [scanItems] at hscan
  generalize skipSpace s = tail at hscan hs
  subst hs
  cases tail with
  | nil => exact .inl ⟨_, hscan.symm⟩
  | cons c tail =>
    dsimp only at hscan
    split at hscan
    · rename_i hc
      rw [beq_iff_eq] at hc
      subst hc
      exact .inr (.inl ⟨ws, tail, hws, rfl, hscan.symm⟩)
    split at hscan
    · rename_i hfirst
      exact .inr (.inr ⟨[], ws, c :: tail, by rw [hfirst]; rfl, hws, rfl, hscan.symm⟩)
    split at hscan
    · rename_i hfirst hc
      rw [beq_iff_eq] at hc
      subst hc
      obtain ⟨blank, hblank, hs⟩ := exists_space tail
      generalize skipSpace tail = after at hscan hs
      subst hs
      cases after with
      | nil => exact .inl ⟨_, hscan.symm⟩
      | cons d after =>
        dsimp only at hscan
        split at hscan
        · exact .inl ⟨_, hscan.symm⟩
        · refine .inr (.inr ⟨ws ++ [','], blank, d :: after, ?_, hblank, by simp, hscan.symm⟩)
          rw [if_neg hfirst]
          exact ⟨ws, hws, rfl⟩
    · exact .inl ⟨_, hscan.symm⟩

/-- The members are a break, the end of the object, or a member behind its mark. -/
theorem scanMembers_cases (fuel : Nat) (first : Bool) (s : List Char) :
    (∃ b, scanMembers (fuel + 1) first s = ([], .broken b, none)) ∨
    (∃ ws rest, Space ws ∧ s = ws ++ '\x7d' :: rest ∧
      scanMembers (fuel + 1) first s = ([], .closed, some rest)) ∨
    ∃ mark ws after,
      (if first then mark = [] else ∃ before, Space before ∧ mark = before ++ [',']) ∧
      Space ws ∧ s = mark ++ (ws ++ '"' :: after) ∧
      scanMembers (fuel + 1) first s = memberStep fuel after := by
  obtain ⟨ws, hws, hs⟩ := exists_space s
  generalize hscan : scanMembers (fuel + 1) first s = scanned
  rw [scanMembers] at hscan
  generalize skipSpace s = tail at hscan hs
  subst hs
  cases tail with
  | nil => exact .inl ⟨_, hscan.symm⟩
  | cons c tail =>
    dsimp only at hscan
    split at hscan
    · rename_i hc
      rw [beq_iff_eq] at hc
      subst hc
      exact .inr (.inl ⟨ws, tail, hws, rfl, hscan.symm⟩)
    split at hscan
    · rename_i hfirst
      split at hscan
      · rename_i hc
        rw [beq_iff_eq] at hc
        subst hc
        exact .inr (.inr ⟨[], ws, tail, by rw [hfirst]; rfl, hws, rfl, hscan.symm⟩)
      · exact .inl ⟨_, hscan.symm⟩
    split at hscan
    · rename_i hfirst hc
      rw [beq_iff_eq] at hc
      subst hc
      obtain ⟨blank, hblank, hs⟩ := exists_space tail
      generalize skipSpace tail = after at hscan hs
      subst hs
      cases after with
      | nil => exact .inl ⟨_, hscan.symm⟩
      | cons d after =>
        dsimp only at hscan
        split at hscan
        · rename_i hd
          rw [beq_iff_eq] at hd
          subst hd
          refine .inr (.inr ⟨ws ++ [','], blank, after, ?_, hblank, by simp, hscan.symm⟩)
          rw [if_neg hfirst]
          exact ⟨ws, hws, rfl⟩
        · split at hscan <;> exact .inl ⟨_, hscan.symm⟩
    · exact .inl ⟨_, hscan.symm⟩

/-! ## Texts that are scanned to their end -/

/-- With some fuel, what is scanned to its end is the text of its tree. -/
structure ScansTexts (fuel : Nat) : Prop where
  value : ∀ {s v rest}, scanValue fuel s = (v, some rest) →
    ∃ ws t, Space ws ∧ v.Writes t ∧ s = ws ++ (t ++ rest)
  items : ∀ {first s items ending rest}, scanItems fuel first s = (items, ending, some rest) →
    ending = .closed ∧ ∃ t, WritesItems first items t ∧ s = t ++ rest
  members : ∀ {first s members ending rest},
    scanMembers fuel first s = (members, ending, some rest) →
    ending = .closed ∧ ∃ t, WritesMembers first members t ∧ s = t ++ rest

namespace ScansTexts

variable {fuel : Nat}

theorem value_succ (ih : ScansTexts fuel) {s rest : List Char} {v : Source}
    (h : scanValue (fuel + 1) s = (v, some rest)) :
    ∃ ws t, Space ws ∧ v.Writes t ∧ s = ws ++ (t ++ rest) := by
  rcases scanValue_cases fuel s with ⟨b, hb⟩ | ⟨w, ws, t, after, hws, hw, hs, hv⟩ |
    ⟨ws, tail, items, ending, after, hws, hs, hitems, hv⟩ |
    ⟨ws, tail, members, ending, after, hws, hs, hmembers, hv⟩
  · rw [hb] at h
    cases h
  · rw [hv] at h
    cases h
    exact ⟨ws, t, hws, hw, hs⟩
  · rw [hv] at h
    cases h
    obtain ⟨rfl, t, ht, rfl⟩ := ih.items hitems
    exact ⟨ws, '[' :: t, hws, ⟨t, rfl, ht⟩, hs⟩
  · rw [hv] at h
    cases h
    obtain ⟨rfl, t, ht, rfl⟩ := ih.members hmembers
    exact ⟨ws, '\x7b' :: t, hws, ⟨t, rfl, ht⟩, hs⟩

theorem items_succ (ih : ScansTexts fuel) {first : Bool} {s rest : List Char}
    {items : List Source} {ending : Ending}
    (h : scanItems (fuel + 1) first s = (items, ending, some rest)) :
    ending = .closed ∧ ∃ t, WritesItems first items t ∧ s = t ++ rest := by
  rcases scanItems_cases fuel first s with ⟨b, hb⟩ | ⟨ws, after, hws, rfl, hend⟩ |
    ⟨mark, ws, after, hmark, hws, rfl, hitem⟩
  · rw [hb] at h
    cases h
  · rw [hend] at h
    cases h
    exact ⟨rfl, ws ++ [']'], ⟨ws, hws, rfl⟩, by simp⟩
  · rw [hitem, itemStep] at h
    split at h
    · cases h
    · rename_i v more hvalue
      generalize hmore : scanItems fuel false more = scanned at h
      obtain ⟨others, end', last⟩ := scanned
      cases h
      obtain ⟨blank, t, hblank, ht, rfl⟩ := ih.value hvalue
      obtain ⟨rfl, u, hu, rfl⟩ := ih.items hmore
      exact ⟨rfl, _, ⟨mark, ws ++ blank, t, u, hmark, space_append hws hblank, ht, hu, rfl⟩,
        by simp⟩

theorem members_succ (ih : ScansTexts fuel) {first : Bool} {s rest : List Char}
    {members : List (QuotedText × Source)} {ending : Ending}
    (h : scanMembers (fuel + 1) first s = (members, ending, some rest)) :
    ending = .closed ∧ ∃ t, WritesMembers first members t ∧ s = t ++ rest := by
  rcases scanMembers_cases fuel first s with ⟨b, hb⟩ | ⟨ws, after, hws, rfl, hend⟩ |
    ⟨mark, ws, after, hmark, hws, rfl, hmember⟩
  · rw [hb] at h
    cases h
  · rw [hend] at h
    cases h
    exact ⟨rfl, ws ++ ['\x7d'], ⟨ws, hws, rfl⟩, by simp⟩
  · rw [hmember, memberStep] at h
    split at h
    · cases h
    · rename_i key tail hkey
      obtain ⟨k, hk, rfl⟩ := of_scanText hkey
      obtain ⟨gap, hgap, hs⟩ := exists_space tail
      generalize skipSpace tail = colon at h hs
      subst hs
      cases colon with
      | nil => cases h
      | cons c tail =>
        dsimp only at h
        split at h
        · rename_i hc
          rw [beq_iff_eq] at hc
          subst hc
          split at h
          · cases h
          · rename_i v more hvalue
            generalize hmore : scanMembers fuel false more = scanned at h
            obtain ⟨others, end', last⟩ := scanned
            cases h
            obtain ⟨blank, t, hblank, ht, rfl⟩ := ih.value hvalue
            obtain ⟨rfl, u, hu, rfl⟩ := ih.members hmore
            exact ⟨rfl, _, ⟨mark, ws, _, gap, blank, t, u, hmark, hws, hk, hgap, hblank, ht, hu,
              rfl⟩, by simp⟩
        · cases h

end ScansTexts

theorem scansTexts (fuel : Nat) : ScansTexts fuel := by
  induction fuel with
  | zero =>
    constructor
    · intro s v rest h
      cases h
    · intro first s items ending rest h
      cases h
    · intro first s members ending rest h
      cases h
  | succ fuel ih => exact ⟨ih.value_succ, ih.items_succ, ih.members_succ⟩

/-! ## Texts without an end -/

/-- With some fuel, what is scanned without an end has no value, whoever reads it. -/
structure EndsBroken (fuel : Nat) : Prop where
  value : ∀ {s v}, scanValue fuel s = (v, none) → ∀ depth w, v.toJson depth ≠ .ok w
  items : ∀ {first s items ending}, scanItems fuel first s = (items, ending, none) →
    ∀ {depth vs}, toJsonItems depth items = .ok vs → ∃ b, ending = .broken b
  members : ∀ {first s members ending}, scanMembers fuel first s = (members, ending, none) →
    ∀ {depth done ms}, toJsonMembers depth done members = .ok ms → ∃ b, ending = .broken b

namespace EndsBroken

variable {fuel : Nat}

theorem value_succ (ih : EndsBroken fuel) {s : List Char} {v : Source}
    (h : scanValue (fuel + 1) s = (v, none)) (depth : Nat) (w : Json) :
    v.toJson depth ≠ .ok w := by
  rcases scanValue_cases fuel s with ⟨b, hb⟩ | ⟨w, ws, t, after, -, -, -, hv⟩ |
    ⟨ws, tail, items, ending, after, -, -, hitems, hv⟩ |
    ⟨ws, tail, members, ending, after, -, -, hmembers, hv⟩
  · rw [hb] at h
    cases h
    simp [toJson]
  · rw [hv] at h
    cases h
  · rw [hv] at h
    cases h
    intro heq
    rw [toJson] at heq
    split at heq
    · cases heq
    · obtain ⟨vs, hvs, heq⟩ := Except.bind_eq_ok_iff.1 heq
      obtain ⟨b, rfl⟩ := ih.items hitems hvs
      cases heq
  · rw [hv] at h
    cases h
    intro heq
    rw [toJson] at heq
    split at heq
    · cases heq
    · obtain ⟨ms, hms, heq⟩ := Except.bind_eq_ok_iff.1 heq
      obtain ⟨b, rfl⟩ := ih.members hmembers hms
      cases heq

theorem items_succ (ih : EndsBroken fuel) {first : Bool} {s : List Char} {items : List Source}
    {ending : Ending} (h : scanItems (fuel + 1) first s = (items, ending, none)) {depth : Nat}
    {vs : List Json} (hvs : toJsonItems depth items = .ok vs) : ∃ b, ending = .broken b := by
  rcases scanItems_cases fuel first s with ⟨b, hb⟩ | ⟨ws, after, -, -, hend⟩ |
    ⟨mark, ws, after, -, -, -, hitem⟩
  · rw [hb] at h
    cases h
    exact ⟨b, rfl⟩
  · rw [hend] at h
    cases h
  · rw [hitem, itemStep] at h
    split at h
    · rename_i v hvalue
      cases h
      obtain ⟨w, hw, -⟩ := Except.bind_eq_ok_iff.1 hvs
      exact absurd hw (ih.value hvalue depth w)
    · rename_i v more hvalue
      generalize hmore : scanItems fuel false more = scanned at h
      obtain ⟨others, end', last⟩ := scanned
      cases h
      obtain ⟨w, -, hvs⟩ := Except.bind_eq_ok_iff.1 hvs
      obtain ⟨ws, hws, -⟩ := Except.bind_eq_ok_iff.1 hvs
      exact ih.items hmore hws

/-- A member without a value leaves the members without values. -/
theorem members_ne_of_value {depth : Nat} {key : QuotedText} {v : Source}
    {rest : List (QuotedText × Source)} {done ms : List (String × Json)}
    (hv : ∀ w, v.toJson depth ≠ .ok w) : toJsonMembers depth done ((key, v) :: rest) ≠ .ok ms := by
  intro hms
  obtain ⟨k, -, hms⟩ := Except.bind_eq_ok_iff.1 hms
  obtain ⟨w, hw, -⟩ := Except.bind_eq_ok_iff.1 hms
  exact hv w hw

theorem members_succ (ih : EndsBroken fuel) {first : Bool} {s : List Char}
    {members : List (QuotedText × Source)} {ending : Ending}
    (h : scanMembers (fuel + 1) first s = (members, ending, none)) {depth : Nat}
    {done ms : List (String × Json)} (hms : toJsonMembers depth done members = .ok ms) :
    ∃ b, ending = .broken b := by
  have hbroken (b : Break) (w : Json) : (Source.broken b).toJson depth ≠ .ok w := by
    simp [toJson]
  rcases scanMembers_cases fuel first s with ⟨b, hb⟩ | ⟨ws, after, -, -, hend⟩ |
    ⟨mark, ws, after, -, -, -, hmember⟩
  · rw [hb] at h
    cases h
    exact ⟨b, rfl⟩
  · rw [hend] at h
    cases h
  · rw [hmember, memberStep] at h
    split at h
    · cases h
      exact ⟨_, rfl⟩
    split at h
    · cases h
      exact absurd hms (members_ne_of_value (hbroken _))
    split at h
    · split at h
      · rename_i v hvalue
        cases h
        exact absurd hms (members_ne_of_value (ih.value hvalue depth))
      · rename_i v more hvalue
        generalize hmore : scanMembers fuel false more = scanned at h
        obtain ⟨others, end', last⟩ := scanned
        cases h
        obtain ⟨k, -, hms⟩ := Except.bind_eq_ok_iff.1 hms
        obtain ⟨w, -, hms⟩ := Except.bind_eq_ok_iff.1 hms
        exact ih.members hmore hms
    · cases h
      exact absurd hms (members_ne_of_value (hbroken _))

end EndsBroken

theorem endsBroken (fuel : Nat) : EndsBroken fuel := by
  induction fuel with
  | zero =>
    constructor
    · intro s v h depth w
      cases h
      simp [toJson]
    · intro first s items ending h depth vs hvs
      cases h
      exact ⟨_, rfl⟩
    · intro first s members ending h depth done ms hms
      cases h
      exact ⟨_, rfl⟩
  | succ fuel ih => exact ⟨ih.value_succ, ih.items_succ, ih.members_succ⟩

/-! ## Texts that are read -/

/-- The text of a tree is scanned as that tree, to its end. -/
theorem scan_of_isText {s : List Char} {v : Source} (h : IsText s v) : scan s = (v, false) := by
  obtain ⟨before, t, after, hbefore, ht, hafter, rfl⟩ := h
  have hend : Stops goesOn after := by
    rw [← List.append_nil after]
    exact stops_of_space hafter Text.stops_nil
  have hscan := scanValue_append (2 * (before ++ (t ++ after)).length + 2) ht hbefore hend
    (by simp only [List.length_append]; omega)
  have hnil : skipSpace after = [] := List.dropWhile_eq_nil_iff.2 hafter
  rw [scan, hscan]
  simp only [hnil]
  rfl

end Source

/-- **A text has a value exactly if it is JSON and its tree has that value**, with the limit
to its depth. -/
theorem read_eq_ok_iff {s : String} {w : Json} :
    read s = .ok w ↔ ∃ v, IsText s.toList v ∧ v.toJson depthLimit = .ok w := by
  constructor
  · intro h
    rw [read, Source.scan] at h
    generalize hscan : Source.scanValue (2 * s.toList.length + 2) s.toList = scanned at h
    obtain ⟨v, _ | rest⟩ := scanned
    · obtain ⟨w', hw', -⟩ := Except.bind_eq_ok_iff.1 h
      exact absurd hw' ((Source.endsBroken _).value hscan _ _)
    · obtain ⟨w', hw', h⟩ := Except.bind_eq_ok_iff.1 h
      obtain ⟨ws, t, hws, ht, hs⟩ := (Source.scansTexts _).value hscan
      cases hmore : (skipSpace rest).isEmpty with
      | false =>
        simp only [hmore] at h
        cases h
      | true =>
        simp only [hmore] at h
        cases h
        have hrest : Space rest := List.dropWhile_eq_nil_iff.1 (List.isEmpty_iff.1 hmore)
        exact ⟨v, ⟨ws, t, rest, hws, ht, hrest, hs⟩, hw'⟩
  · rintro ⟨v, hs, hv⟩
    rw [read, Source.scan_of_isText hs]
    simp only [hv]
    rfl

/-- A blank text has no value. -/
theorem read_of_allBlank {s : String} (h : Text.allBlank s.toList = true) (w : Json) :
    read s ≠ .ok w := by
  intro hread
  obtain ⟨v, ⟨before, t, after, -, ht, -, hs⟩, -⟩ := read_eq_ok_iff.1 hread
  obtain ⟨c, rest, rfl, hc, -⟩ := Source.exists_head_of_writes ht
  have hblank : Text.isBlank c = true := List.all_eq_true.1 h c (by simp [hs])
  rw [hc] at hblank
  cases hblank

end TabularQuery.Json
