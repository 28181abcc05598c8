import TabularQuery.Proofs.Time.Text
import TabularQuery.Product

/-!
# The tolerant form reads what is stored

A typed column is read in a form that allows blanks around the fields, short fields and a
zone by its name.  None of these is in the text of an instant, whose fields have their full
width, and so the form reads it field by field as the strict form does.

## Main definitions

* `Time.readTolerant_strictText` — the tolerant form reads the strict one.
* `Instant.readTolerant_text` — so it reads the text of an instant.
* `Product.instant_text` — as does the decoder of a typed column.
-/

namespace TabularQuery

/-! ## Small readers -/

namespace Time

/-- Digits are not blank, so that no blanks are skipped in front of them. -/
theorem trimLeft_padded (width n : Nat) (rest : List Char) :
    Text.trimLeft (Text.padded width n ++ rest) = Text.padded width n ++ rest := by
  have hdigits := Text.digits_padded width n
  exact ((Text.stops_append_of_ne_nil hdigits.1).2 hdigits.stops_isBlank).dropWhile_eq

theorem trimLeft_cons {c : Char} (h : Text.isBlank c = false) (rest : List Char) :
    Text.trimLeft (c :: rest) = c :: rest :=
  Text.Stops.dropWhile_eq (Text.stops_cons.2 h)

/-- A year of four digits has no sign. -/
theorem signedYear_padded {n : Nat} (h : n < 10 ^ 4) (rest : List Char) :
    signedYear (Text.padded 4 n ++ rest) = .ok ((n : Int), rest) := by
  have hsign {c : Char} (hc : Text.isDigit c = false) (more : List Char) :
      Text.padded 4 n ++ rest ≠ c :: more := by
    intro heq
    exact (Text.digits_padded 4 n).not_stops (t := rest) (heq ▸ Text.stops_cons.2 hc)
  rw [signedYear, trimLeft_padded]
  split
  · exact absurd (by assumption) (hsign (by decide) _)
  · exact absurd (by assumption) (hsign (by decide) _)
  · rw [number_padded (by decide) (by decide) h]
    rfl

/-- A field of two digits is read where a shorter one might be. -/
theorem loose_padded {low high n : Nat} (h : n < 10 ^ 2) (hbounds : low ≤ n ∧ n ≤ high)
    (rest : List Char) : loose low high (Text.padded 2 n ++ rest) = .ok (n, rest) := by
  rw [loose, trimLeft_padded, bounded_padded (by decide) (by decide) h hbounds]

/-- Its fields are read one by one, and nothing is skipped between them. -/
theorem readTolerant_strictText : ReadsFields Instant.readTolerant := by
  intro year month day hour minute second millis hyear hmonth hday hhour hminute hsecond hmillis
  have hfield {low high n : Nat} (h : n ≤ 60) (hbounds : low ≤ n ∧ n ≤ high) (rest : List Char) :
      loose low high (Text.padded 2 n ++ rest) = .ok (n, rest) :=
    loose_padded (by omega) hbounds rest
  have hdash : Text.isBlank '-' = false := by decide
  have hcolon : Text.isBlank ':' = false := by decide
  have hletter : Text.isBlank 'Z' = false := by decide
  have hoffset : namedOffset ['Z'] = .ok (0, []) := rfl
  have hend : Text.allBlank [] = true := rfl
  simp only [Instant.readTolerant, strictText, bind, Except.bind, signedYear_padded hyear,
    trimLeft_cons hdash, trimLeft_cons hcolon, trimLeft_cons hletter, literal_cons,
    hfield (by omega) hmonth, hfield (by omega) hday, dateTimeMark_cons,
    hfield (by omega) ⟨Nat.zero_le _, hhour⟩, hfield (by omega) ⟨Nat.zero_le _, hminute⟩,
    hfield hsecond ⟨Nat.zero_le _, hsecond⟩,
    optionalFraction, fraction_padded hmillis stops_zone, hoffset, hend, if_true]

end Time

/-! ## Instants -/

/-- **The text of a regular instant is read in a typed column**, cut down to milliseconds. -/
theorem Instant.readTolerant_text {t : Instant} (h : t.Regular) :
    readTolerant t.text = .ok t.toMillis :=
  read_text Time.readTolerant_strictText h

/-- The decoder of a typed column gives this instant and reports nothing. -/
theorem Product.instant_text {t : Instant} (h : t.Regular) :
    Decode.runValue Product.instant (.text (String.ofList t.text)) = (.ok t.toMillis, []) := by
  have hread : Instant.readTolerant (String.ofList t.text).toList = .ok t.toMillis := by
    rw [String.toList_ofList, Instant.readTolerant_text h]
  have hfound : Decode.found (Decode.sourceOf (.text (String.ofList t.text))) =
      pure (.text (String.ofList t.text)) := rfl
  rw [Decode.runValue, Product.instant, hfound, pure_bind]
  simp only [hread]
  rfl

end TabularQuery
