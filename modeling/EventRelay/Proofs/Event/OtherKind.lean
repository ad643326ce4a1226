import EventRelay.Proofs.Event.Written
import EventRelay.Proofs.Json.Members

/-!
# Envelopes read as another kind

An envelope does not say which kind of payload it holds but by the key of its
section; the type in its header is not looked at.  A reader that expects
another key passes the section over, whatever it holds, and misses its own.

Launches and authentications share their key, so each is read as the other:
the fields that both have stay, and the agent is dropped or left out.
-/

namespace EventRelay

open EventRelay.Json

/-- An authentication with what a launch tells of it. -/
def Launch.toAuthentication (launch : Launch) : Authentication :=
  ⟨launch.questionnaire, launch.caseId⟩

/-- A launch without an agent, with what an authentication tells of it. -/
def Authentication.toLaunch (authentication : Authentication) : Launch :=
  ⟨authentication.questionnaire, authentication.caseId, none⟩

/-- The payload of the other kind that has the same key. -/
def Payload.crossed : Payload → Payload
  | ⟨.launch, launch⟩ =>
      ⟨.authentication, Launch.toAuthentication launch⟩
  | ⟨.authentication, authentication⟩ =>
      ⟨.launch, Authentication.toLaunch authentication⟩
  | payload => payload

/-- The two types whose payloads are held under the same key. -/
def EventType.Interchangeable (type other : EventType) : Prop :=
  (type = .surveyLaunch ∧ other = .uacAuthenticate) ∨
    (type = .uacAuthenticate ∧ other = .surveyLaunch)

instance (type other : EventType) :
    Decidable (type.Interchangeable other) :=
  inferInstanceAs (Decidable (_ ∨ _))

/-- Only interchangeable types have the same key. -/
theorem EventType.sectionKey_ne
    {type other : EventType} (different : other ≠ type)
    (apart : ¬type.Interchangeable other) :
    type.payloadKind.sectionKey ≠ other.payloadKind.sectionKey := by
  have each :
      ∀ type ∈ all, ∀ other ∈ all, other ≠ type →
        ¬type.Interchangeable other →
          type.payloadKind.sectionKey ≠ other.payloadKind.sectionKey := by
    decide
  exact each type type.mem_all other other.mem_all different apart

/-! ## Payloads with the same key -/

private theorem answers_text (value : String) :
    Answers Codec.text.read (Codec.text.write value) 0 (.ok value) :=
  ((Codec.text_total 0).lasts value).answers (.text value)

private theorem answers_textual (value : Option String) :
    Answers Codec.text.optional.read (Codec.text.optional.write value) 0
      (.ok value) := by
  have lasts := (Codec.text_total 0).optional_lasts value
  cases value with
  | none => exact lasts.answers .null
  | some value => exact lasts.answers (.text value)

theorem Launch.answers_authentication (launch : Launch) :
    Answers PayloadKind.authentication.codec.read
      (PayloadKind.launch.codec.write launch) 1
      (.ok launch.toAuthentication) := by
  have agent : Skips (Codec.text.optional.write launch.agent) :=
    Codec.text_printed.optional.skips launch.agent
  have takes :
      Fields.Takes
        (.cons (.defaulting "questionnaireId" .text "") <|
         .cons (.optional "caseId" .text) .nil)
        (none, none, ())
        [printMember "questionnaireId" (Codec.text.write launch.questionnaire),
          printMember "caseId" (Codec.text.optional.write launch.caseId),
          printMember "agentId" (Codec.text.optional.write launch.agent)]
        0 (.ok (some launch.questionnaire, some launch.caseId, ())) :=
    .member rfl (answers_text _) <|
      .member rfl (answers_textual _) <| .unknown rfl agent <| .all _
  exact (Codec.record_answers takes "UacAuthenticateResponse").imap _ _

theorem Authentication.answers_launch (authentication : Authentication) :
    Answers PayloadKind.launch.codec.read
      (PayloadKind.authentication.codec.write authentication) 1
      (.ok authentication.toLaunch) := by
  have takes :
      Fields.Takes
        (.cons (.defaulting "questionnaireId" .text "") <|
         .cons (.optional "caseId" .text) <|
         .cons (.optional "agentId" .text) .nil)
        (none, none, none, ())
        [printMember "questionnaireId"
            (Codec.text.write authentication.questionnaire),
          printMember "caseId"
            (Codec.text.optional.write authentication.caseId)]
        0
        (.ok (some authentication.questionnaire, some authentication.caseId,
          none, ())) :=
    .member rfl (answers_text _) <| .member rfl (answers_textual _) <| .all _
  exact (Codec.record_answers takes "SurveyLaunchResponse").imap _ _

/-! ## Sections and envelopes -/

namespace PayloadKind

variable {kind other : PayloadKind} {content : kind.Content} {levels : Nat}

/-- A section with another key holds nothing for the reader. -/
theorem answers_section_other
    (different : kind.sectionKey ≠ other.sectionKey) (content : kind.Content) :
    Answers other.sectionCodec.read (kind.sectionCodec.write content) 1
      (.error (.missingField other.sectionKey)) := by
  have unknown :
      (Fields.cons (.required other.sectionKey other.codec) .nil).slot
          kind.sectionKey (none, ()) =
        .unknown :=
    Fields.slot_other different _ _ _
  have takes :
      Fields.Takes (.cons (.required other.sectionKey other.codec) .nil)
        (none, ()) [printMember kind.sectionKey (kind.codec.write content)] 0
        (.ok (none, ())) :=
    .unknown unknown (kind.codec_printed.skips content) <| .all _
  exact (Codec.record_answers takes other.sectionTitle).imap _ _

/-- A section with the same key holds what the reader makes of its payload. -/
theorem answers_section_same
    (same : kind.sectionKey = other.sectionKey) {again : other.Content}
    (answers :
      Answers other.codec.read (kind.codec.write content) levels
        (.ok again)) :
    Answers other.sectionCodec.read (kind.sectionCodec.write content)
      (levels + 1) (.ok again) := by
  have awaits :
      (Fields.cons (.required other.sectionKey other.codec) .nil).slot
          kind.sectionKey (none, ()) =
        .awaiting other.codec fun content => (some content, ()) := by
    rw [same]
    exact Fields.slot_self (.required other.sectionKey other.codec) .nil ()
  have takes := Fields.Takes.last awaits answers
  exact (Codec.record_answers takes other.sectionTitle).imap _ _

/-- An envelope answers with its header and what its section answers. -/
theorem answers_envelope
    {header : Header} (valid : header.time.Valid)
    {outcome : Except Fault other.Content}
    (answers :
      Answers other.sectionCodec.read (kind.sectionCodec.write content) levels
        outcome) :
    Answers other.envelopeCodec.read
      (kind.envelopeCodec.write (header, content)) (max 1 levels + 1)
      (outcome.map fun content => (header, content)) := by
  obtain ⟨flat, steady⟩ := Header.flat header
  have headed := (Header.codec_lasts valid).answers steady
  rw [flat] at headed
  have takes :
      Fields.Takes
        (.cons (.required "header" Header.codec) <|
         .cons (.required "payload" other.sectionCodec) .nil)
        (none, none, ())
        [printMember "header" (Header.codec.write header),
          printMember "payload" (kind.sectionCodec.write content)]
        (max 1 levels)
        (outcome.map fun content => (some header, some content, ())) := by
    cases outcome with
    | ok again =>
        have awaits :
            (Fields.cons (.required "header" Header.codec) <|
              .cons (.required "payload" other.sectionCodec) .nil).slot
                "payload" (some header, none, ()) =
              .awaiting other.sectionCodec fun content =>
                (some header, some content, ()) :=
          rfl
        have closing := Fields.Takes.last awaits answers
        exact .member rfl headed closing
    | error fault => exact .member rfl headed <| .fault rfl answers
  have read := Codec.record_answers takes "Envelope"
  cases outcome with
  | ok again => exact read.imap _ _
  | error fault => exact read.imap _ _

end PayloadKind

/-! ## The round trip through another type -/

namespace BuilderTable

/-- What a reader for another type makes of the text of an envelope. -/
theorem recover_answers
    {type : EventType} {kind : PayloadKind} {content : kind.Content}
    {header : Header} (valid : header.time.Valid) {levels : Nat}
    (shallow : levels ≤ 2)
    {outcome : Except Fault type.payloadKind.Content}
    (answers :
      Answers type.payloadKind.sectionCodec.read
        (kind.sectionCodec.write content) levels outcome) :
    standard.recover type (Envelope.encode ⟨header, ⟨kind, content⟩⟩) =
      (outcome.map fun again =>
        Envelope.toDraft ⟨header, ⟨type.payloadKind, again⟩⟩).mapError
          (.malformed type) := by
  have fits : max 1 levels + 1 ≤ nestingLimit := by
    unfold nestingLimit
    omega
  have decoded := (PayloadKind.answers_envelope valid answers).decode fits
  have built : standard.builds type = true := rfl
  unfold recover Envelope.decode Envelope.encode Codec.encode
  rw [if_pos built, decoded]
  cases outcome with
  | ok again => rfl
  | error fault => rfl

/-- The envelope of a launch gives an authentication. -/
theorem recover_launch
    (launch : Launch) {header : Header} (valid : header.time.Valid) :
    standard.recover .uacAuthenticate
        (Envelope.encode ⟨header, ⟨.launch, launch⟩⟩) =
      .ok (Envelope.toDraft
        ⟨header, ⟨.authentication, launch.toAuthentication⟩⟩) := by
  have same :
      PayloadKind.launch.sectionKey = PayloadKind.authentication.sectionKey :=
    rfl
  have answers :
      Answers PayloadKind.authentication.sectionCodec.read
        (PayloadKind.launch.sectionCodec.write launch) 2
        (.ok launch.toAuthentication) :=
    PayloadKind.answers_section_same same launch.answers_authentication
  exact @recover_answers .uacAuthenticate .launch launch header valid 2
    (Nat.le_refl 2) (.ok launch.toAuthentication) answers

/-- The envelope of an authentication gives a launch without an agent. -/
theorem recover_authentication
    (authentication : Authentication) {header : Header}
    (valid : header.time.Valid) :
    standard.recover .surveyLaunch
        (Envelope.encode ⟨header, ⟨.authentication, authentication⟩⟩) =
      .ok (Envelope.toDraft ⟨header, ⟨.launch, authentication.toLaunch⟩⟩) := by
  have same :
      PayloadKind.authentication.sectionKey = PayloadKind.launch.sectionKey :=
    rfl
  have answers :
      Answers PayloadKind.launch.sectionCodec.read
        (PayloadKind.authentication.sectionCodec.write authentication) 2
        (.ok authentication.toLaunch) :=
    PayloadKind.answers_section_same same authentication.answers_launch
  exact @recover_answers .surveyLaunch .authentication authentication header
    valid 2 (Nat.le_refl 2) (.ok authentication.toLaunch) answers

/--
The envelope of a draft is malformed for a builder of any other type, because
it has no section of the kind that this one expects, unless one of the two
types is that of launches and the other that of authentications.  These give a
draft with the same routing and user, and a payload with the same questionnaire
and case, in which an agent is neither kept nor made up.
-/
theorem recover_create_other
    {type other : EventType} (different : other ≠ type) {draft : Draft}
    {now : Timestamp} (kind : draft.payload.kind = type.payloadKind)
    (valid : now.Valid) (identifier : Identifier) :
    ∃ envelope,
      standard.create type draft identifier now = some envelope ∧
        (¬type.Interchangeable other →
          standard.recover other envelope.encode =
            .error (.malformed other
              (.missingField other.payloadKind.sectionKey))) ∧
        (type.Interchangeable other →
          standard.recover other envelope.encode =
            .ok { draft with payload := draft.payload.crossed }) := by
  have header : (Header.mint type draft identifier now).time.Valid := valid
  obtain ⟨⟨held, content⟩, source, channel, user⟩ := draft
  obtain rfl : held = type.payloadKind := kind
  refine ⟨_, create_eq_some rfl rfl identifier now, ?_, ?_⟩
  · intro apart
    have keys := EventType.sectionKey_ne different apart
    exact recover_answers header (Nat.le_succ 1)
      (PayloadKind.answers_section_other keys content)
  · rintro (⟨rfl, rfl⟩ | ⟨rfl, rfl⟩)
    · exact recover_launch content header
    · exact recover_authentication content header

/-- A draft of a launch by an agent. -/
def launchDraft : Draft :=
  ⟨⟨.launch, (⟨"q", some "c", some "a"⟩ : Launch)⟩, .respondentHome, .rh,
    some "u"⟩

/--
The envelope of a launch gives a draft of an authentication without the agent.
-/
theorem recover_create_other_launch :
    EventType.uacAuthenticate ≠ .surveyLaunch ∧
      launchDraft.payload.kind = EventType.surveyLaunch.payloadKind ∧
      (Timestamp.mk 0 0 0).Valid ∧
      ∃ envelope,
        standard.create .surveyLaunch launchDraft ⟨0⟩ ⟨0, 0, 0⟩ =
            some envelope ∧
          standard.recover .uacAuthenticate envelope.encode =
            .ok
              ⟨⟨.authentication, (⟨"q", some "c"⟩ : Authentication)⟩,
                .respondentHome, .rh, some "u"⟩ := by
  have different : EventType.uacAuthenticate ≠ .surveyLaunch := by decide
  have valid : (Timestamp.mk 0 0 0).Valid := by decide
  obtain ⟨envelope, created, _, crossed⟩ :=
    @recover_create_other _ _ different launchDraft ⟨0, 0, 0⟩ rfl valid ⟨0⟩
  exact ⟨different, rfl, valid, envelope, created, crossed (.inl ⟨rfl, rfl⟩)⟩

end BuilderTable

end EventRelay
