import TabularQuery.Proofs.Json.Grammar
import TabularQuery.Proofs.Except
import TabularQuery.Number.Reading

/-!
# Scanning numbers, quoted texts and words

The parts of a JSON text that have no parts themselves.  Each is scanned up to its end if the
text does not go on with it, and what is scanned up to its end is a text of the grammar.

## Main definitions

* `Json.skipSpace_append`, `Json.exists_space` — blanks.
* `Json.scanNumber_append`, `Json.of_scanNumber` — numbers.
* `Json.scanText_append`, `Json.of_scanText` — quoted texts.
* `Json.scanWord_append`, `Json.of_scanWord` — words.
-/

namespace TabularQuery.Json

open Text (Stops Digits)

/-! ## Blanks -/

theorem space_nil : Space [] := by
  intro c hc
  cases hc

theorem space_append {ws before : List Char} (hws : Space ws) (hbefore : Space before) :
    Space (ws ++ before) := by
  intro c hc
  rcases List.mem_append.1 hc with hc | hc
  · exact hws c hc
  · exact hbefore c hc

theorem skipSpace_append {ws : List Char} {c : Char} (hws : Space ws) (hc : isSpace c = false)
    (rest : List Char) : skipSpace (ws ++ c :: rest) = c :: rest :=
  Text.dropWhile_append hws (Text.stops_cons.2 hc)

/-- A text is what remains of it, after some blanks. -/
theorem exists_space (s : List Char) : ∃ ws, Space ws ∧ s = ws ++ skipSpace s :=
  ⟨s.takeWhile isSpace, fun _ => List.mem_takeWhile_imp, List.takeWhile_append_dropWhile.symm⟩

/-! ## Numbers -/

/-- The characters with which a number may go on. -/
def goesOn (c : Char) : Bool :=
  Text.isDigit c || c == '.' || (c == 'e' || c == 'E')

theorem stops_isDigit {s : List Char} (h : Stops goesOn s) : Stops Text.isDigit s := by
  intro c hc
  have hgo := h c hc
  simp only [goesOn, Bool.or_eq_false_iff] at hgo
  exact hgo.1.1

theorem stops_point {s : List Char} (h : Stops goesOn s) : Stops (· == '.') s := by
  intro c hc
  have hgo := h c hc
  simp only [goesOn, Bool.or_eq_false_iff] at hgo
  exact hgo.1.2

theorem stops_letter {s : List Char} (h : Stops goesOn s) :
    Stops (fun c => c == 'e' || c == 'E') s := by
  intro c hc
  have hgo := h c hc
  simp only [goesOn, Bool.or_eq_false_iff] at hgo
  simpa using hgo.2

theorem readSign_cases (s : List Char) :
    ∃ sign, SignText (Binary64.readSign s).1 sign ∧ s = sign ++ (Binary64.readSign s).2 := by
  unfold Binary64.readSign
  split
  · exact ⟨_, .minus, rfl⟩
  · exact ⟨_, .plus, rfl⟩
  · exact ⟨_, .absent, rfl⟩

theorem readSign_append {below : Bool} {sign s : List Char} (h : SignText below sign)
    (hs : Stops (fun c => c == '+' || c == '-') s) :
    Binary64.readSign (sign ++ s) = (below, s) := by
  cases h with
  | plus => rfl
  | minus => rfl
  | absent =>
    cases s with
    | nil => rfl
    | cons c rest =>
      have hc := Text.stops_cons.1 hs
      simp only [Bool.or_eq_false_iff, beq_eq_false_iff_ne] at hc
      rw [List.nil_append, Binary64.readSign]
      · exact fun _ h => hc.2 (List.cons.inj h).1
      · exact fun _ h => hc.1 (List.cons.inj h).1

theorem stops_sign {ds : List Char} (hds : Digits ds) (rest : List Char) :
    Stops (fun c => c == '+' || c == '-') (ds ++ rest) := by
  obtain ⟨d, more, rfl⟩ := List.exists_cons_of_ne_nil hds.1
  have hd : Text.isDigit d = true := hds.2 d List.mem_cons_self
  refine Text.stops_cons.2 ?_
  rw [Bool.or_eq_false_iff, beq_eq_false_iff_ne, beq_eq_false_iff_ne]
  constructor <;> rintro rfl <;> exact absurd hd (by decide)

theorem scanExponent_eq (s : List Char) :
    scanExponent s =
      if ((Binary64.readSign s).2.takeWhile Text.isDigit).isEmpty
      then .error (missingDigit (Binary64.readSign s).2)
      else .ok (((Binary64.readSign s).1, (Binary64.readSign s).2.takeWhile Text.isDigit),
        (Binary64.readSign s).2.dropWhile Text.isDigit) := by
  unfold scanExponent
  split
  rename_i below t heq
  have hread : Binary64.readSign s = (below, t) := by
    rw [← heq]
    unfold Binary64.readSign
    split
    · rfl
    · rfl
    · rename_i hplus hminus
      split
      · exact absurd rfl (hminus _)
      · exact absurd rfl (hplus _)
      · rfl
  rw [hread]

theorem scanExponent_append {below : Bool} {sign ds rest : List Char} (hsign : SignText below sign)
    (hds : Digits ds) (hrest : Stops Text.isDigit rest) :
    scanExponent (sign ++ (ds ++ rest)) = .ok ((below, ds), rest) := by
  rw [scanExponent_eq, readSign_append hsign (stops_sign hds rest),
    Text.takeWhile_append hds.2 hrest, Text.dropWhile_append hds.2 hrest, hds.isEmpty_eq]
  rfl

theorem of_scanExponent {s rest : List Char} {e : Bool × List Char}
    (h : scanExponent s = .ok (e, rest)) :
    ∃ sign, SignText e.1 sign ∧ Digits e.2 ∧ s = sign ++ (e.2 ++ rest) := by
  obtain ⟨sign, hsign, hs⟩ := readSign_cases s
  rw [scanExponent_eq] at h
  split at h
  · cases h
  · rename_i hempty
    cases h
    refine ⟨sign, hsign, Text.digits_takeWhile (by simpa using hempty), ?_⟩
    rw [List.takeWhile_append_dropWhile]
    exact hs

theorem scanExponent?_append {e : Option (Bool × List Char)} {s rest : List Char}
    (h : ExponentText e s) (hrest : Stops goesOn rest) :
    scanExponent? (s ++ rest) = .ok (e, rest) := by
  cases h with
  | absent =>
    cases rest with
    | nil => rfl
    | cons c rest =>
      have hc := Text.stops_cons.1 (stops_letter hrest)
      rw [List.nil_append, scanExponent?, hc]
      rfl
  | present hletter hsign hds =>
    rw [List.cons_append, List.append_assoc, scanExponent?, if_pos hletter,
      scanExponent_append hsign hds (stops_isDigit hrest)]
    rfl

theorem of_scanExponent? {s rest : List Char} {e : Option (Bool × List Char)}
    (h : scanExponent? s = .ok (e, rest)) : ∃ t, ExponentText e t ∧ s = t ++ rest := by
  cases s with
  | nil =>
    cases h
    exact ⟨[], .absent, rfl⟩
  | cons c more =>
    rw [scanExponent?] at h
    split at h
    · rename_i hletter
      obtain ⟨⟨e, after⟩, hscan, h⟩ := Except.bind_eq_ok_iff.1 h
      cases h
      obtain ⟨sign, hsign, hds, rfl⟩ := of_scanExponent hscan
      exact ⟨_, .present hletter hsign hds, by simp⟩
    · cases h
      exact ⟨[], .absent, rfl⟩

theorem stops_fraction {fraction : Option (List Char)} {exponent : Option (Bool × List Char)}
    {f e rest : List Char} (hf : FractionText fraction f) (he : ExponentText exponent e)
    (hrest : Stops goesOn rest) : Stops Text.isDigit (f ++ (e ++ rest)) := by
  cases hf with
  | present hds => exact Text.stops_cons.2 rfl
  | absent =>
    cases he with
    | present hletter hsign hds =>
      rename_i letter below sign ds
      rw [Bool.or_eq_true, beq_iff_eq, beq_iff_eq] at hletter
      rcases hletter with rfl | rfl <;> exact Text.stops_cons.2 rfl
    | absent => exact stops_isDigit hrest

theorem stops_point_exponent {exponent : Option (Bool × List Char)} {e rest : List Char}
    (he : ExponentText exponent e) (hrest : Stops goesOn rest) :
    Stops (· == '.') (e ++ rest) := by
  cases he with
  | present hletter hsign hds =>
    rename_i letter below sign ds
    rw [Bool.or_eq_true, beq_iff_eq, beq_iff_eq] at hletter
    rcases hletter with rfl | rfl <;> exact Text.stops_cons.2 rfl
  | absent => exact stops_point hrest

theorem scanNumber_append {n : NumberText} {s rest : List Char} (h : n.Unsigned s)
    (hrest : Stops goesOn rest) : scanNumber n.negative (s ++ rest) = .ok (n, rest) := by
  obtain ⟨hwhole, hzero, hf, he⟩ := h
  rename_i negative whole fraction exponent f e
  have hstops := stops_fraction hf he hrest
  rw [List.append_assoc, List.append_assoc, scanNumber]
  simp only [Text.takeWhile_append hwhole.2 hstops, Text.dropWhile_append hwhole.2 hstops]
  split
  · exact absurd rfl hwhole.1
  · exact absurd (hzero _ rfl) (List.cons_ne_nil _ _)
  · cases hf with
    | present hds =>
      have hletter : Stops Text.isDigit (e ++ rest) := stops_fraction .absent he hrest
      simp only [List.cons_append, Text.takeWhile_append hds.2 hletter,
        Text.dropWhile_append hds.2 hletter, hds.isEmpty_eq, Bool.false_eq_true, if_false,
        scanExponent?_append he hrest]
      rfl
    | absent =>
      have hpoint := stops_point_exponent he hrest
      rw [List.nil_append]
      split
      · rename_i heq
        rw [heq] at hpoint
        exact Bool.noConfusion (Text.stops_cons.1 hpoint)
      · rw [scanExponent?_append he hrest]
        rfl

theorem of_scanNumber {negative : Bool} {n : NumberText} {s rest : List Char}
    (h : scanNumber negative s = .ok (n, rest)) :
    ∃ u, n.negative = negative ∧ n.Unsigned u ∧ s = u ++ rest := by
  rw [scanNumber] at h
  have hs : s.takeWhile Text.isDigit ++ s.dropWhile Text.isDigit = s :=
    List.takeWhile_append_dropWhile
  have hdigits : ∀ c ∈ s.takeWhile Text.isDigit, Text.isDigit c = true :=
    fun _ => List.mem_takeWhile_imp
  generalize s.takeWhile Text.isDigit = whole at h hs hdigits
  generalize s.dropWhile Text.isDigit = after at h hs
  subst hs
  split at h
  · cases h
  · cases h
  · rename_i hne hzero
    have hwhole : Digits whole := ⟨hne, hdigits⟩
    have hlone (rest : List Char) (hrest : whole = '0' :: rest) : rest = [] := by
      cases rest with
      | nil => rfl
      | cons c more => exact absurd hrest (hzero c more)
    split at h
    · rename_i more
      dsimp only at h
      split at h
      · cases h
      · rename_i hempty
        obtain ⟨⟨e, last⟩, hscan, h⟩ := Except.bind_eq_ok_iff.1 h
        cases h
        obtain ⟨t, he, ht⟩ := of_scanExponent? hscan
        have hds : Digits (more.takeWhile Text.isDigit) :=
          Text.digits_takeWhile (by simpa using hempty)
        refine ⟨_, rfl, .mk hwhole hlone (.present hds) he, ?_⟩
        rw [List.append_assoc, List.cons_append, List.cons_append, List.append_assoc, ← ht,
          List.takeWhile_append_dropWhile]
    · obtain ⟨⟨e, last⟩, hscan, h⟩ := Except.bind_eq_ok_iff.1 h
      cases h
      obtain ⟨t, he, rfl⟩ := of_scanExponent? hscan
      exact ⟨_, rfl, .mk hwhole hlone .absent he, by simp⟩

/-! ## Quoted texts -/

theorem four_le_byteLength (a b c d : Char) (rest : List Char) :
    ¬ Text.byteLength (a :: b :: c :: d :: rest) < 4 := by
  have hpos (c : Char) : 0 < c.utf8Size := Char.utf8Size_pos c
  have ha := hpos a
  have hb := hpos b
  have hc := hpos c
  have hd := hpos d
  simp only [Text.byteLength, List.foldr_cons]
  omega

theorem scanPieces_append {ps : List Piece} {s : List Char} (h : PiecesText ps s)
    (rest : List Char) : scanPieces (s ++ '"' :: rest) = (ps, .closed, rest) := by
  induction h with
  | nil => rfl
  | char hquote hslash hcontrol _ ih =>
    rw [List.cons_append, scanPieces, if_neg hcontrol, ih]
    · exact hquote
    · exact fun _ h _ => hslash h
    · exact fun h _ => hslash h
    · exact fun _ _ h _ => hslash h
  | short hescape _ ih =>
    rename_i c d ps s _
    have hc : c ≠ 'u' := by
      rintro rfl
      cases hescape
    rw [List.cons_append, List.cons_append, scanPieces, hescape]
    · simp only [ih]
    · exact fun h => hc h
  | unit hunit _ ih =>
    simp only [List.cons_append, scanPieces, four_le_byteLength, if_false, hunit, ih]

theorem of_scanPieces {ps : List Piece} {s rest : List Char}
    (h : scanPieces s = (ps, .closed, rest)) :
    ∃ u, PiecesText ps u ∧ s = u ++ '"' :: rest := by
  fun_induction scanPieces s generalizing ps with
  | case2 after =>
    cases h
    exact ⟨[], .nil, rfl⟩
  | case4 a b c d more n hunit pieces stop after hscan hlong ih =>
    cases h
    obtain ⟨u, hu, rfl⟩ := ih hscan
    exact ⟨_, .unit hunit hu, rfl⟩
  | case8 c more hc d hescape pieces stop after hscan ih =>
    cases h
    obtain ⟨u, hu, rfl⟩ := ih hscan
    exact ⟨_, .short hescape hu, rfl⟩
  | case11 c more hquote _ hend hslash hcontrol pieces stop after hscan ih =>
    cases h
    obtain ⟨u, hu, rfl⟩ := ih hscan
    refine ⟨_, .char hquote ?_ hcontrol hu, rfl⟩
    rintro rfl
    cases u with
    | nil => exact hslash _ _ rfl rfl
    | cons d more => exact hslash _ _ rfl rfl
  | _ => cases h

theorem scanText_append {t : QuotedText} {s : List Char} (h : t.Writes s) (rest : List Char) :
    ∃ u, s = '"' :: u ∧ scanText (u ++ rest) = .ok (t, rest) := by
  obtain ⟨ps, u, hps, rfl, rfl⟩ := h
  refine ⟨_, rfl, ?_⟩
  rw [List.append_assoc, List.singleton_append, scanText, scanPieces_append hps]
  rfl

theorem of_scanText {t : QuotedText} {s rest : List Char} (h : scanText s = .ok (t, rest)) :
    ∃ u, t.Writes ('"' :: u) ∧ s = u ++ rest := by
  rw [scanText] at h
  generalize hscan : scanPieces s = scanned at h
  obtain ⟨ps, stop, after⟩ := scanned
  cases stop with
  | closed =>
    cases h
    obtain ⟨u, hu, rfl⟩ := of_scanPieces hscan
    exact ⟨u ++ ['"'], ⟨ps, u, hu, rfl, rfl⟩, by simp⟩
  | _ => cases h

/-! ## Words -/

theorem scanWord_append (word rest : List Char) : scanWord word (word ++ rest) = .ok rest := by
  induction word with
  | nil => cases rest <;> rfl
  | cons w word ih => simp only [List.cons_append, scanWord, beq_self_eq_true, if_true, ih]

theorem of_scanWord {word s rest : List Char} (h : scanWord word s = .ok rest) :
    s = word ++ rest := by
  fun_induction scanWord word s with
  | case1 s => cases h; rfl
  | case3 w word c s heq ih =>
    rw [beq_iff_eq] at heq
    rw [heq, ih h]
    rfl
  | _ => cases h

end TabularQuery.Json
