import TabularQuery.Proofs.Filter.Meaning
import TabularQuery.Proofs.Number.Reading
import TabularQuery.Proofs.Store.Sorting
import TabularQuery.Proofs.Time.Order

/-!
# Filters and orders on stored instants

A stored instant is a text.  That text has colons and is never taken for a number, so that
cells with instants are compared by their characters, and these are in the order of the
instants that are written.  A filter with an instant and an order by a column of instants are
therefore chronological, to the millisecond, as long as no second is prolonged within a
minute: such an instant stands where the one in the next second stands that has its text.

## Main definitions

* `Comparison.Relates` — the relation that a comparison asks for.
* `Direction.InTurn` — two instants in the order of a direction.
* `compareTexts_text` — the comparison of the texts of two instants.
* `Row.instants_chronological` — filters and orders on instants.
-/

namespace TabularQuery

/-- The text of an instant has colons, so that it denotes no number. -/
theorem Instant.read?_text_eq_none (t : Instant) : Binary64.read? t.text = none := by
  have hcolon : ':' ∈ t.text := by simp [text]
  exact Binary64.read?_eq_none hcolon rfl

/-- **The texts of two instants are compared as the instants that are written**, cut down to
milliseconds. -/
theorem compareTexts_text {a b : Instant} (ha : a.Dated) (hb : b.Dated) :
    compareTexts a.text b.text = compare a.written.toMillis b.written.toMillis := by
  rw [compareTexts_eq_compareCharacters (.inl a.read?_text_eq_none),
    Instant.compareCharacters_text ha hb]

/-! ## Filters -/

namespace Comparison

variable {α : Type} [LinearOrder α]

/-- The relation between a cell and a value that a comparison asks for. -/
def Relates : Comparison → α → α → Prop
  | eq, a, b => a = b
  | neq, a, b => a ≠ b
  | gt, a, b => b < a
  | gte, a, b => b ≤ a
  | lt, a, b => a < b
  | lte, a, b => a ≤ b

theorem holds_compare_iff (op : Comparison) (a b : α) :
    op.holds (compare a b) = true ↔ op.Relates a b := by
  cases op with
  | eq => simp [holds, Relates]
  | neq => simp [holds, Relates]
  | gt => simp [holds, Relates, compare_gt_iff_gt]
  | gte => simp [holds, Relates, compare_lt_iff_lt]
  | lt => simp [holds, Relates, compare_lt_iff_lt]
  | lte => simp [holds, Relates, compare_gt_iff_gt]

end Comparison

namespace Row

variable {row : Row} {column : String} {a b : Instant}

theorem cell?_of_instant (h : Fields.get? column row = some (Value.timestamp a).toJson) :
    row.cell? column = some a.text := by
  rw [cell?, h, Option.bind_some, Value.toJson, Cell.text?, String.toList_ofList]

/-- A filter with an instant accepts a row whose instant stands to it as is asked for. -/
theorem accepts_instant_iff (op : Comparison) (ha : a.Dated) (hb : b.Dated)
    (h : Fields.get? column row = some (Value.timestamp a).toJson) :
    (FilterCall.compare op column (.timestamp b)).accepts row = true ↔
      op.Relates a.written.toMillis b.written.toMillis := by
  rw [FilterCall.accepts_compare_iff, cell?_of_instant h, ← op.holds_compare_iff,
    ← compareTexts_text ha hb]
  simp [Value.plain]

end Row

/-! ## Orders -/

/-- Two instants, as they are written and cut down to milliseconds, in the order of a
direction. -/
def Direction.InTurn : Direction → Instant → Instant → Prop
  | asc, a, b => a.written.toMillis ≤ b.written.toMillis
  | desc, a, b => b.written.toMillis ≤ a.written.toMillis

namespace Row

variable {column : String} {direction : Direction} {rows : List Row} {time : Row → Instant}

/-- The rows have the texts of instants in a column. -/
def Timed (column : String) (time : Row → Instant) (rows : List Row) : Prop :=
  ∀ row ∈ rows, (time row).Dated ∧
    Fields.get? column row = some (Value.timestamp (time row)).toJson

/-- By such a column, rows are compared as their instants in the direction of the order. -/
theorem Timed.compareBy_ne_gt_iff (h : Timed column time rows) :
    ∀ x ∈ rows, ∀ y ∈ rows,
      compareBy [⟨column, direction⟩] x y ≠ .gt ↔ direction.InTurn (time x) (time y) := by
  have hasc {x y : Row} (hx : x ∈ rows) (hy : y ∈ rows) :
      compareByTerm ⟨column, .asc⟩ x y ≠ .gt ↔
        (time x).written.toMillis ≤ (time y).written.toMillis := by
    obtain ⟨hdated, hcell⟩ := h x hx
    obtain ⟨hdated', hcell'⟩ := h y hy
    rw [compareByTerm_asc, cell?_of_instant hcell, cell?_of_instant hcell', compareCells?,
      compareTexts_text hdated hdated', compare_le_iff_le]
  intro x hx y hy
  rw [compareBy_singleton]
  cases direction with
  | asc => exact hasc hx hy
  | desc =>
    rw [compareByTerm_desc]
    exact hasc hy hx

theorem Timed.transitiveOn (h : Timed column time rows) :
    TransitiveOn (compareBy [⟨column, direction⟩]) rows := by
  rw [compareBy_singleton, transitiveOn_compareByTerm_iff]
  refine (coherent_of_words fun t ht => ?_).transitiveOn
  obtain ⟨row, hrow, hcell⟩ := mem_texts.1 ht
  rw [cell?_of_instant (h row hrow).2] at hcell
  rw [← Option.some.inj hcell]
  exact (time row).read?_text_eq_none

/-- **Filters and orders on stored instants are chronological.**  The texts of instants are
compared as the instants that are written, cut down to milliseconds, and these are the
instants themselves unless a second is prolonged within a minute.  So the comparisons of a
column with an instant accept the rows whose instant stands in the relation that is asked for,
and an order by a column of instants puts its rows in turn, where rows that are in turn already
stay in their sequence. -/
theorem instants_chronological :
    (∀ t : Instant, t.written.toMillis = t.toMillis ↔
      (1000000000 ≤ t.nanos → t.seconds % 60 = 59)) ∧
    (∀ a b : Instant, a.Dated → b.Dated →
      compareTexts a.text b.text = compare a.written.toMillis b.written.toMillis) ∧
    (∀ (op : Comparison) (row : Row) (column : String) (a b : Instant),
      a.Dated → b.Dated → Fields.get? column row = some (Value.timestamp a).toJson →
      ((FilterCall.compare op column (.timestamp b)).accepts row = true ↔
        op.Relates a.written.toMillis b.written.toMillis)) ∧
    ∀ (column : String) (direction : Direction) (rows : List Row) (time : Row → Instant),
      Timed column time rows →
      let sorted := sortRows [⟨column, direction⟩] rows
      sorted.Perm rows ∧
        (sorted.Pairwise fun x y => direction.InTurn (time x) (time y)) ∧
        ∀ kept : List Row, kept.Sublist rows →
          (kept.Pairwise fun x y => direction.InTurn (time x) (time y)) →
          kept.Sublist sorted := by
  refine ⟨fun t => Instant.toMillis_written_eq_iff, fun a b ha hb => compareTexts_text ha hb,
    fun op row column a b ha hb hcell => ?_, fun column direction rows time h => ?_⟩
  · exact accepts_instant_iff op ha hb hcell
  · exact ⟨sortBy_perm _ rows, pairwise_sortBy_of_iff h.transitiveOn h.compareBy_ne_gt_iff,
      fun kept => sublist_sortBy_of_iff h.compareBy_ne_gt_iff⟩

/-- The last second of a year, prolonged, after a leap day before it and before the first
second of the next year. -/
theorem instants_chronological_at_leap_second :
    let day : Instant := ⟨-58060800, 0⟩
    let leap : Instant := ⟨-1, 1999000000⟩
    let next : Instant := ⟨0, 0⟩
    let row (t : Instant) : Row := [("at", (Value.timestamp t).toJson)]
    let time (row : Row) : Instant := ((row.cell? "at").bind Instant.read?).getD next
    let rows := [row next, row leap, row day]
    day.text = "1968-02-29T00:00:00.000Z".toList ∧
      leap.text = "1969-12-31T23:59:60.999Z".toList ∧
      (day.Dated ∧ leap.Dated ∧ next.Dated) ∧ Timed "at" time rows ∧
      compareTexts leap.text next.text = .lt ∧
      (FilterCall.compare .lt "at" (.timestamp next)).accepts (row leap) = true ∧
      (FilterCall.compare .gte "at" (.timestamp leap)).accepts (row day) = false ∧
      (sortRows [⟨"at", .asc⟩] rows).Pairwise fun x y =>
        (time x).written.toMillis ≤ (time y).written.toMillis := by
  intro day leap next row time rows
  have hday : day.Regular := by decide +kernel
  have hleap : leap.Regular := by decide +kernel
  have hnext : next.Regular := by decide +kernel
  have htime (t : Instant) (ht : t.Regular) (hmillis : t.toMillis = t) :
      (time (row t)).Dated ∧
        Fields.get? "at" (row t) = some (Value.timestamp (time (row t))).toJson := by
    have hcell : (row t).cell? "at" = some t.text := cell?_of_instant rfl
    have hsame : time (row t) = t := by
      simp only [time, hcell, Option.bind_some, Instant.read?_text ht, Option.getD_some, hmillis]
    rw [hsame]
    exact ⟨ht.toDated, rfl⟩
  have htimed : Timed "at" time rows := by
    simp only [Timed, rows, List.forall_mem_cons, List.not_mem_nil, false_implies, implies_true,
      and_true]
    exact ⟨htime next hnext (by decide), htime leap hleap (by decide),
      htime day hday (by decide)⟩
  have hbefore : leap.written.toMillis < next.written.toMillis := by
    rw [hleap.written_eq, hnext.written_eq]
    exact Instant.lt_iff.2 (by decide)
  have hdayBefore : day.written.toMillis < leap.written.toMillis := by
    rw [hday.written_eq, hleap.written_eq]
    exact Instant.lt_iff.2 (by decide)
  obtain ⟨-, hcompare, hfilter, hsort⟩ := instants_chronological
  refine ⟨by decide +kernel, by decide +kernel,
    ⟨hday.toDated, hleap.toDated, hnext.toDated⟩, htimed, ?_, ?_, ?_,
    (hsort "at" .asc rows time htimed).2.1⟩
  · rw [hcompare leap next hleap.toDated hnext.toDated, compare_lt_iff_lt]
    exact hbefore
  · exact (hfilter .lt (row leap) "at" leap next hleap.toDated hnext.toDated rfl).2 hbefore
  · rw [Bool.eq_false_iff, ne_eq,
      hfilter .gte (row day) "at" day leap hday.toDated hleap.toDated rfl]
    exact not_le.2 hdayBefore

/-- A second that is prolonged within a minute is written as the next one.  So an instant in
it comes after an instant of the next second which it is before. -/
theorem instants_out_of_turn_within_minute :
    let long : Instant := ⟨1435708564, 1333000000⟩
    let next : Instant := ⟨1435708565, 100000000⟩
    let row : Row := [("at", (Value.timestamp long).toJson)]
    long.Dated ∧ next.Dated ∧ long.toMillis < next.toMillis ∧
      long.text = "2015-06-30T23:56:05.333Z".toList ∧
      next.text = "2015-06-30T23:56:05.100Z".toList ∧
      compareTexts long.text next.text = .gt ∧
      (FilterCall.compare .lt "at" (.timestamp next)).accepts row = false := by
  intro long next row
  have hbefore : long.toMillis < next.toMillis := Instant.lt_iff.2 (by decide)
  exact ⟨by decide +kernel, by decide +kernel, hbefore, by decide +kernel, by decide +kernel,
    by decide +kernel, by decide +kernel⟩

end Row

end TabularQuery
