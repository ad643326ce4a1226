import EventRelay.Proofs.Event.Written
import EventRelay.Proofs.Json.Depth

/-!
# Drafts that come back

What a draft is made into has a text, and the brackets in this text tell
whether it can be read again.  If it can, the payload, the routing and the user
are those of the draft.  Only an open document that is null does not come back;
there is none in its place.
-/

namespace EventRelay

open EventRelay.Json

/-! ## The nesting of texts -/

/-- The text of an envelope nests two levels deeper than its payload. -/
theorem Envelope.textNesting_encode (envelope : Envelope) :
    textNesting envelope.encode = envelope.payload.nesting + 2 :=
  (envelope.payload.kind.envelopeCodec_printed.textNesting _).trans
    (envelope.payload.kind.nesting_envelope _ _)

/-! ## Open documents that are null -/

/-- Whether an open document of a survey is null. -/
def Survey.HoldsNull (survey : Survey) : Prop :=
  survey.sampleDefinition = some .null ∨ survey.metadata = some .null

/-- Whether the open document of an exercise is null. -/
def Exercise.HoldsNull (exercise : Exercise) : Prop :=
  exercise.metadata = some .null

/-- Whether an open document of a content is null; most kinds have none. -/
def PayloadKind.HoldsNull : (kind : PayloadKind) → kind.Content → Prop
  | .survey => Survey.HoldsNull
  | .exercise => Exercise.HoldsNull
  | _ => fun _ => False

/-- Whether an open document of a payload is null. -/
def Payload.HoldsNull (payload : Payload) : Prop :=
  payload.kind.HoldsNull payload.content

theorem settledDocument_eq_self {document : Option Json} :
    settledDocument document = document ↔ document ≠ some .null := by
  unfold settledDocument
  split
  · exact iff_of_false nofun (not_not_intro rfl)
  · next other => exact iff_of_true rfl other

theorem Survey.settled_eq_self {survey : Survey} :
    survey.settled = survey ↔ ¬survey.HoldsNull := by
  unfold settled HoldsNull
  rw [not_or, ← ne_eq, ← ne_eq, ← settledDocument_eq_self,
    ← settledDocument_eq_self]
  obtain ⟨id, name, url, sampleDefinition, metadata⟩ := survey
  simp only [mk.injEq, true_and]

theorem Exercise.settled_eq_self {exercise : Exercise} :
    exercise.settled = exercise ↔ ¬exercise.HoldsNull := by
  unfold settled HoldsNull
  rw [← ne_eq, ← settledDocument_eq_self]
  obtain ⟨id, survey, name, reference, start, finish, metadata⟩ := exercise
  simp only [mk.injEq, true_and]

/-- A payload is settled unless an open document of it is null. -/
theorem Payload.settled_eq_self {payload : Payload} :
    payload.settled = payload ↔ ¬payload.HoldsNull := by
  obtain ⟨kind, content⟩ := payload
  unfold settled HoldsNull
  rw [mk.injEq, heq_eq_eq]
  cases kind with
  | survey => exact (and_iff_right rfl).trans Survey.settled_eq_self
  | exercise => exact (and_iff_right rfl).trans Exercise.settled_eq_self
  | _ => exact iff_of_true ⟨rfl, rfl⟩ not_false

/-! ## The round trip -/

namespace BuilderTable

/--
A draft of the right kind gives an envelope.  The text of the envelope gives
the draft of the settled payload, with the same routing and the same user,
unless more arrays and objects are open in the text than a reader allows; then
it is malformed.  The payload comes back as it was exactly if no open document
of it is null.
-/
theorem recover_create
    {type : EventType} {draft : Draft} {now : Timestamp}
    (kind : draft.payload.kind = type.payloadKind) (valid : now.Valid)
    (proper : draft.payload.Proper) (steady : draft.payload.Steady)
    (identifier : Identifier) :
    ∃ envelope,
      standard.create type draft identifier now = some envelope ∧
        (textNesting envelope.encode ≤ nestingLimit →
          standard.recover type envelope.encode =
            .ok { draft with payload := draft.payload.settled }) ∧
        (nestingLimit < textNesting envelope.encode →
          standard.recover type envelope.encode =
            .error (.malformed type .malformed)) ∧
        (draft.payload.settled = draft.payload ↔ ¬draft.payload.HoldsNull) := by
  have recovered :
      standard.recover type
          (Envelope.encode
            ⟨.mint type draft identifier now, draft.payload⟩) =
        if draft.payload.nesting + 2 ≤ nestingLimit then
          .ok { draft with payload := draft.payload.settled }
        else .error (.malformed type .malformed) :=
    Envelope.recover_encode_of_proper kind valid proper steady
  refine ⟨_, create_eq_some kind rfl identifier now, ?_, ?_,
    Payload.settled_eq_self⟩
  · intro fits
    rw [Envelope.textNesting_encode] at fits
    exact recovered.trans (if_pos fits)
  · intro exceeds
    rw [Envelope.textNesting_encode] at exceeds
    exact recovered.trans (if_neg (Nat.not_le_of_lt exceeds))

/-- A draft whose user has no name and whose survey has the given metadata. -/
def surveyDraft (metadata : Option Json) : Draft :=
  ⟨⟨.survey, (⟨"", none, none, none, metadata⟩ : Survey)⟩, .sampleLoader, .rm,
    some ""⟩

/-- A survey that has null for its metadata comes back with none. -/
theorem recover_create_null :
    (surveyDraft (some .null)).payload.kind =
        EventType.surveyUpdate.payloadKind ∧
      (Timestamp.mk 0 0 0).Valid ∧
      (surveyDraft (some .null)).payload.Proper ∧
      (surveyDraft (some .null)).payload.Steady ∧
      ∃ envelope,
        standard.create .surveyUpdate (surveyDraft (some .null)) ⟨0⟩
              ⟨0, 0, 0⟩ =
            some envelope ∧
          standard.recover .surveyUpdate envelope.encode =
            .ok (surveyDraft none) := by
  have valid : (Timestamp.mk 0 0 0).Valid := by decide
  have proper : (surveyDraft (some .null)).payload.Proper := by
    refine Survey.Proper.mk nofun ?_
    rintro _ ⟨⟩
    exact .null
  have steady : (surveyDraft (some .null)).payload.Steady := by
    refine Survey.steady nofun ?_
    rintro _ ⟨⟩
    exact .null
  obtain ⟨envelope, created, fits, _, _⟩ :=
    @recover_create .surveyUpdate (surveyDraft (some .null)) ⟨0, 0, 0⟩ rfl
      valid proper steady ⟨0⟩
  refine ⟨rfl, valid, proper, steady, envelope, created, fits ?_⟩
  cases created
  rw [Envelope.textNesting_encode]
  decide

end BuilderTable

end EventRelay
