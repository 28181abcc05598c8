import TabularQuery.Proofs.Operation.Creation
import TabularQuery.Proofs.Store.Rows
import TabularQuery.Proofs.Time.Reading
import TabularQuery.Proofs.Time.Tolerant

/-!
# What a typed table sees of a row

The temporal columns of a row that is read hold instants, and for the decoder of a typed
table they are written as texts again, in the stored form.  This form has milliseconds.
So the decoder sees the instant that the service stored in any of its forms, but for what
it has below a millisecond.

## Main definitions

* `Table.decode_typed_instant` — the text that the decoder gets, and the instant in it.
-/

namespace TabularQuery

namespace Table

variable {row : Row} {column s : String} {t : Instant}

/-- A temporal column of a row that is read is written as the text of its instant. -/
theorem member?_toJson_normalize (hcolumn : column ∈ Record.temporalColumns)
    (hcell : Fields.get? column row.record = some (.text s))
    (hread : Instant.read? s.toList = some t) :
    row.record.normalize.toJson.member? column = some (.text (String.ofList t.text)) := by
  have hvalue : Fields.get? column row.record.normalize = some (.timestamp t) := by
    rw [Record.get?_normalize, hcell]
    simp only [Option.map_some, Value.readBack, if_pos hcolumn, Value.dated, hread]
  rw [Record.toJson, Json.member?, Record.get?_toMembers, hvalue]
  rfl

/-- **A typed table sees the instants of a row to the millisecond.**  Its decoder gets the
row as a JSON object, in which a temporal column whose text is read as an instant holds the
stored form of this instant.  That is read as the instant cut down to milliseconds, by the
reader of temporal columns and by the decoder of a typed one.  It is the same instant if
there is nothing below a millisecond to cut off, and only then. -/
theorem decode_typed_instant (hcolumn : column ∈ Record.temporalColumns)
    (hcell : Fields.get? column row.record = some (.text s))
    (hread : Instant.read? s.toList = some t) (hyear : 0 ≤ t.date.year ∧ t.date.year ≤ 9999) :
    let json := row.record.normalize.toJson
    (∀ {σ α : Type} (reader : Json.Source → Decode α) (b : Backend σ) (name : String),
      (typed reader b name).decode row.record.normalize = (Decode.runValue reader json).1) ∧
      ∃ text : String, json.member? column = some (.text text) ∧ text.toList = t.text ∧
        Instant.read? text.toList = some t.toMillis ∧
        Decode.runValue Product.instant (.text text) = (.ok t.toMillis, []) ∧
        (Instant.read? text.toList = some t ↔ t.nanos % 1000000 = 0) := by
  intro json
  have hregular : t.Regular := (Instant.steady_of_read? hread).regular hyear
  have htext : Instant.read? (String.ofList t.text).toList = some t.toMillis := by
    rw [String.toList_ofList, Instant.read?_text hregular]
  refine ⟨fun _ _ _ => rfl, String.ofList t.text,
    member?_toJson_normalize hcolumn hcell hread, String.toList_ofList, htext,
    Product.instant_text hregular, ?_⟩
  rw [htext, Option.some.injEq]
  exact Instant.toMillis_eq_iff

/-- A half of a second in a zone ahead of universal time, in the form of a cast. -/
theorem decode_typed_instant_ahead :
    let row : Row := [("id", .text "1"), ("due_date", .text "2024-05-01 12:30:00.5+02")]
    let t : Instant := ⟨1714559400, 500000000⟩
    "due_date" ∈ Record.temporalColumns ∧
      Fields.get? "due_date" row.record = some (.text "2024-05-01 12:30:00.5+02") ∧
      Instant.read? "2024-05-01 12:30:00.5+02".toList = some t ∧
      (0 ≤ t.date.year ∧ t.date.year ≤ 9999) ∧
      ∃ text : String, row.record.normalize.toJson.member? "due_date" = some (.text text) ∧
        text = "2024-05-01T10:30:00.500Z" ∧ Instant.read? text.toList = some t ∧
        Decode.runValue Product.instant (.text text) = (.ok t, []) := by
  intro row t
  have hcolumn : "due_date" ∈ Record.temporalColumns := by decide
  have hcell : Fields.get? "due_date" row.record = some (.text "2024-05-01 12:30:00.5+02") := rfl
  have hread : Instant.read? "2024-05-01 12:30:00.5+02".toList = some t := by decide +kernel
  have hyear : 0 ≤ t.date.year ∧ t.date.year ≤ 9999 := by decide +kernel
  have hmillis : t.toMillis = t := by decide
  have hstored : t.text = "2024-05-01T10:30:00.500Z".toList := by decide +kernel
  obtain ⟨-, text, hmember, htext, -, hdecode, hsame⟩ :=
    decode_typed_instant hcolumn hcell hread hyear
  rw [hmillis] at hdecode
  exact ⟨hcolumn, hcell, hread, hyear, text, hmember,
    String.toList_inj.1 (htext.trans hstored), hsame.2 (by decide), hdecode⟩

/-- Microseconds are lost: a product with the instant of its insertion to the microsecond is
seen with another one, which the text of the column in its JSON object denotes, too. -/
theorem decode_typed_microseconds :
    let s := "2024-05-01T10:00:00.123456Z"
    let row : Row := [("id", .text "1"), ("name", .text "lamp"), ("created_at", .text s)]
    let t : Instant := ⟨1714557600, 123456000⟩
    let seen : Instant := ⟨1714557600, 123000000⟩
    "created_at" ∈ Record.temporalColumns ∧ Fields.get? "created_at" row = some (.text s) ∧
      Instant.read? s.toList = some t ∧ (0 ≤ t.date.year ∧ t.date.year ≤ 9999) ∧ seen ≠ t ∧
      (∃ text : String,
        row.record.normalize.toJson.member? "created_at" = some (.text text) ∧
          Instant.read? text.toList = some seen) ∧
      ((Product.table Store.backend "products").decode row.record.normalize).toOption.map
        Product.createdAt = some seen := by
  intro s row t seen
  have hread : Instant.read? s.toList = some t := by decide +kernel
  have hstored : Instant.read? (String.ofList t.text).toList = some seen := by decide +kernel
  exact ⟨by decide, rfl, hread, by decide +kernel, by decide,
    ⟨_, member?_toJson_normalize (by decide) rfl hread, hstored⟩, by decide +kernel⟩

end Table

end TabularQuery
