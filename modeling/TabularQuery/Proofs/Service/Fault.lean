import TabularQuery.Proofs.Json.Printing
import TabularQuery.Proofs.Json.Scanning
import TabularQuery.Service.Reply

/-!
# The fault of a reply without success

The service describes a fault in an object with a code, a message, details and a hint, each of
which may be missing.  A fault comes back from the text of its object as it is.  Where a body
describes none, the fault has no code, and its message tells the status and the body.

## Main definitions

* `ServiceFault.toJson` — the object in which the service describes a fault.
* `HttpReply.Describes`, `HttpReply.describes_print` — the fault that a body describes.
* `HttpReply.Tells`, `HttpReply.Reports` — what is reported of a status and a body.
-/

namespace TabularQuery

/-! ## Objects of faults -/

namespace Json

/-- The tree of a text, or of null. -/
def Source.ofText? : Option String → Source
  | none => .null
  | some s => .text ⟨s, none⟩

theorem writes_ofText? (s : Option String) :
    (Source.ofText? s).Writes (Json.ofText? s).compact := by
  cases s with
  | none => exact rfl
  | some s => exact writes_quoted s

/-- Members with texts are the text of their trees. -/
theorem writesMembers_texts (members : List (String × Option String)) :
    Source.WritesMembers false (members.map fun m => (⟨m.1, none⟩, .ofText? m.2))
      (compactMembers (members.map fun m => (m.1, Json.ofText? m.2))) := by
  induction members with
  | nil => exact ⟨[], space_nil, rfl⟩
  | cons m rest ih =>
    exact ⟨[','], [], _, [], [], _, _, ⟨[], space_nil, rfl⟩, space_nil, writes_quoted m.1,
      space_nil, space_nil, writes_ofText? m.2, ih, rfl⟩

end Json

namespace ServiceFault

/-- The members of the object in which the service describes a fault. -/
def members (f : ServiceFault) : List (String × Option String) :=
  [("code", f.code), ("message", some f.message), ("details", f.details), ("hint", f.hint)]

/-- This object. -/
def toJson (f : ServiceFault) : Json :=
  .object (f.members.map fun m => (m.1, Json.ofText? m.2))

theorem isText_toJson (f : ServiceFault) :
    Json.IsText f.toJson.compact
      (.object (f.members.map fun m => (⟨m.1, none⟩, .ofText? m.2)) .closed) := by
  refine ⟨[], f.toJson.compact, [], Json.space_nil, ?_, Json.space_nil, by simp⟩
  exact ⟨_, rfl, [], [], _, [], [], _, _, rfl, Json.space_nil, Json.writes_quoted _,
    Json.space_nil, Json.space_nil, Json.writes_ofText? _, Json.writesMembers_texts _, rfl⟩

/-- **A fault is read from the text of its object** as it is. -/
theorem runText_toJson (f : ServiceFault) :
    (Decode.runText Decode.serviceFault (Json.print f.toJson)).1 = .ok f := by
  have hscan := Json.Source.scan_of_isText f.isText_toJson
  rw [Decode.runText, Json.print, String.toList_ofList, hscan]
  obtain ⟨code, message, details, hint⟩ := f
  cases code <;> cases details <;> cases hint <;> rfl

end ServiceFault

/-! ## Faults of replies -/

namespace HttpReply

/-- A body describes a fault: one with a code or with a message. -/
def Describes (body : String) (f : ServiceFault) : Prop :=
  (Decode.runText Decode.serviceFault body).1 = .ok f ∧ (f.code ≠ none ∨ f.message ≠ "")

/-- Every fault with a code or with a message is described by the text of its object. -/
theorem describes_print {f : ServiceFault} (h : f.code ≠ none ∨ f.message ≠ "") :
    Describes (Json.print f.toJson) f :=
  ⟨f.runText_toJson, h⟩

/-- A message begins with the number of a status and its phrase, and has a body that is not
blank in it as it is. -/
structure Tells (status : Nat) (body message : String) : Prop where
  status : Nat.toDigits 10 status ++ ' ' :: (statusPhrase status).toList <+: message.toList
  body : (∃ c ∈ body.toList, Text.isBlank c = false) → body.toList <:+: message.toList

/-- A fault is what a status and a body report: the fault that the body describes, or else
one without a code whose message tells the status and the body. -/
structure Reports (status : Nat) (body : String) (f : ServiceFault) : Prop where
  of_describes : ∀ d, Describes body d → f = d
  of_not_describes : (∀ d, ¬ Describes body d) →
    f.code = none ∧ f.details = none ∧ f.hint = none ∧ Tells status body f.message

theorem toList_statusText (status : Nat) :
    (statusText status).toList =
      Nat.toDigits 10 status ++ ' ' :: (statusPhrase status).toList := by
  rw [statusText, String.toList_append, String.toList_append, String.toList_ofList,
    List.append_assoc]
  rfl

/-- A blank body adds nothing to the status. -/
theorem tells_statusText {status : Nat} {body : String}
    (h : Text.allBlank body.toList = true) : Tells status body (statusText status) where
  status := ⟨[], by rw [List.append_nil, toList_statusText]⟩
  body := by
    rintro ⟨c, hc, hblank⟩
    rw [List.all_eq_true.1 h c hc] at hblank
    cases hblank

/-- Any other body stands behind it. -/
theorem tells_statusText_append (status : Nat) (body : String) :
    Tells status body (statusText status ++ ": " ++ body) where
  status := by
    rw [String.toList_append, String.toList_append, toList_statusText, List.append_assoc]
    exact List.prefix_append _ _
  body _ := by
    rw [String.toList_append]
    exact (List.suffix_append _ _).isInfix

/-- **A reply without success is the fault that its status and its body report.** -/
theorem reports_fault (status : Nat) (body : String) : Reports status body (fault status body) := by
  have hdescribes (d : ServiceFault) :
      (!d.message.isEmpty || d.code.isSome) = true ↔ d.code ≠ none ∨ d.message ≠ "" := by
    rw [Bool.or_eq_true, or_comm, Bool.not_eq_true', Option.isSome_iff_ne_none,
      String.isEmpty_eq_false_iff]
  constructor
  · rintro d ⟨hread, hd⟩
    rw [fault, hread]
    simp only [(hdescribes d).2 hd, if_true]
  · intro hnone
    have hfault : fault status body = .transport
        (if Text.allBlank body.toList then statusText status
         else statusText status ++ ": " ++ body) := by
      rw [fault]
      cases hread : (Decode.runText Decode.serviceFault body).1 with
      | error f => rfl
      | ok d =>
        have hd : ¬ (!d.message.isEmpty || d.code.isSome) = true :=
          fun h => hnone d ⟨hread, (hdescribes d).1 h⟩
        simp only [hd]
        rfl
    rw [hfault]
    refine ⟨rfl, rfl, rfl, ?_⟩
    show Tells status body (if Text.allBlank body.toList then _ else _)
    split
    · rename_i hblank
      exact tells_statusText hblank
    · exact tells_statusText_append status body

end HttpReply

end TabularQuery
