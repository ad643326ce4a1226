import EventRelay.Proofs.Publisher.Transmission

/-!
# Publishing calls

A publisher is called in four ways: with a draft, with a payload, with the text
of a payload, or with a backup record.  The last two are read first, and what
cannot be read is refused before any draft is looked at.  All four then publish
a draft.
-/

namespace EventRelay

/-- A call that publishes. -/
inductive Request where
  | publish (type : EventType) (draft : Draft)
  | sendEvent (type : EventType) (source : Source) (channel : Channel)
      (payload : Payload)
  | sendText (type : EventType) (source : Source) (channel : Channel)
      (text : String)
  | resend (record : BackupRecord)

/--
The type and the draft that a call asks to publish, if what it was given can
be read.
-/
def Request.asked? (builders : BuilderTable) :
    Request → Option (EventType × Draft)
  | .publish type draft => some (type, draft)
  | .sendEvent type source channel payload =>
      some (type, ⟨payload, source, channel, none⟩)
  | .sendText type source channel text =>
    match Payload.decode type.payloadKind text with
    | .ok payload => some (type, ⟨payload, source, channel, none⟩)
    | .error _ => none
  | .resend record =>
    match builders.recover record.type record.envelopeText with
    | .ok draft => some (record.type, draft)
    | .error _ => none

namespace Publisher

variable {σ ν : Type}

/-- Answers a publishing call. -/
def respond
    (publisher : Publisher) (transport : Transport σ) (vault : Vault ν)
    (request : Request) (world : World σ ν) :
    Except PublishError Identifier × World σ ν :=
  match request with
  | .publish type draft =>
    publisher.publish transport vault type draft world
  | .sendEvent type source channel payload =>
    publisher.sendEvent transport vault type source channel payload world
  | .sendText type source channel text =>
    publisher.sendText transport vault type source channel text world
  | .resend record => publisher.resend transport vault record world

/-- Why what a call was given cannot be read, by the error that tells it. -/
inductive Unreadable (publisher : Publisher) : Request → PublishError → Prop
    where
  | text (type : EventType) (source : Source) (channel : Channel)
      (text : String) (fault : Json.Fault)
      (undecodable : Payload.decode type.payloadKind text = .error fault) :
      Unreadable publisher (.sendText type source channel text)
        (.invalidPayload type fault)
  | unbuilt (record : BackupRecord)
      (unbuilt : publisher.builders.builds record.type = false) :
      Unreadable publisher (.resend record) (.unsupportedType record.type)
  | malformed (record : BackupRecord) (fault : Json.Fault)
      (built : publisher.builders.builds record.type = true)
      (undecodable :
        Envelope.decode record.type.payloadKind record.envelopeText =
          .error fault) :
      Unreadable publisher (.resend record)
        (.malformedBackup record.messageId (.malformed record.type fault))

/-- What a call was given asks to publish a draft or cannot be read. -/
theorem asked_or_unreadable (publisher : Publisher) (request : Request) :
    (∃ type draft,
      request.asked? publisher.builders = some (type, draft)) ∨
      ∃ error, publisher.Unreadable request error := by
  cases request with
  | publish type draft => exact .inl ⟨type, draft, rfl⟩
  | sendEvent type source channel payload => exact .inl ⟨type, _, rfl⟩
  | sendText type source channel text =>
      unfold Request.asked?
      dsimp only
      cases decoded : Payload.decode type.payloadKind text with
      | ok payload => exact .inl ⟨type, _, rfl⟩
      | error fault =>
          exact .inr ⟨_, .text type source channel text fault decoded⟩
  | resend record =>
      unfold Request.asked? BuilderTable.recover
      dsimp only
      cases built : publisher.builders.builds record.type with
      | false => exact .inr ⟨_, .unbuilt record built⟩
      | true =>
          rw [if_pos rfl]
          cases decoded :
              Envelope.decode record.type.payloadKind record.envelopeText with
          | ok envelope => exact .inl ⟨record.type, envelope.toDraft, rfl⟩
          | error fault =>
              exact .inr ⟨_, .malformed record fault built decoded⟩

variable {publisher : Publisher} {request : Request}

/-- A call publishes the draft that it asks to publish. -/
theorem respond_asked
    {type : EventType} {draft : Draft}
    (asked : request.asked? publisher.builders = some (type, draft))
    (transport : Transport σ) (vault : Vault ν) (world : World σ ν) :
    publisher.respond transport vault request world =
      publisher.publish transport vault type draft world := by
  cases request with
  | publish _ _ =>
      cases asked
      rfl
  | sendEvent _ _ _ _ =>
      cases asked
      rfl
  | sendText asking source channel text =>
      unfold Request.asked? at asked
      unfold respond sendText
      dsimp only at asked ⊢
      cases decoded : Payload.decode asking.payloadKind text with
      | ok payload =>
          rw [decoded] at asked
          cases asked
          rfl
      | error fault =>
          rw [decoded] at asked
          cases asked
  | resend record =>
      unfold Request.asked? at asked
      unfold respond resend
      dsimp only at asked ⊢
      cases recovered :
          publisher.builders.recover record.type record.envelopeText with
      | ok again =>
          rw [recovered] at asked
          cases asked
          rfl
      | error error =>
          rw [recovered] at asked
          cases asked

/-- What cannot be read is refused, and nothing outside changes. -/
theorem respond_unreadable
    {error : PublishError} (unreadable : publisher.Unreadable request error)
    (transport : Transport σ) (vault : Vault ν) (world : World σ ν) :
    publisher.respond transport vault request world =
      (.error error, world) := by
  cases unreadable with
  | text _ _ _ _ _ undecodable =>
      unfold respond sendText
      dsimp only
      rw [undecodable]
  | unbuilt record unbuilt =>
      unfold respond resend BuilderTable.recover
      dsimp only
      rw [unbuilt]
      rfl
  | malformed record _ built undecodable =>
      unfold respond resend BuilderTable.recover
      dsimp only
      rw [if_pos built, undecodable]

end Publisher

end EventRelay
