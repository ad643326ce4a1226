import EventRelay.Proofs.Event.OtherKind
import EventRelay.Proofs.Publisher.Account
import Mathlib.Data.List.Forall2

/-!
# Sending an event again

When the event of a backup record is sent again, its record counts for its
type only, and the stored envelope for its payload and its routing only.  Two
records of one type may differ in all else: in the stored identity and time,
in the type that the stored header names, in the spelling of the text.  If the
outside is the same, watchers see the same calls and the same answer, and the
envelope that is handed over has a new identity.

Payloads can be compared in more than one sense, so the sense in which they
agree is left open.  Identity is one; equality up to the spelling of numbers is
another.
-/

namespace EventRelay

variable {σ τ ν μ : Type}

/-- The calls that a recorded vault has seen between two points. -/
def entrusted (before after : World σ (ν × List Keeping)) : List Keeping :=
  after.vault.2.drop before.vault.2.length

/-! ## Agreement -/

/-- The headers are equal, and the payloads agree in a given sense. -/
structure Envelope.Agrees
    (alike : Payload → Payload → Prop) (left right : Envelope) : Prop where
  header : left.header = right.header
  payload : alike left.payload right.payload

/--
An event of a type, made of a draft, with an identifier as its own and that of
its exchange.
-/
structure Envelope.Renews
    (envelope : Envelope) (type : EventType) (draft : Draft)
    (identifier : Identifier) :
    Prop where
  type : envelope.header.type = type
  messageId : envelope.header.messageId = identifier
  correlationId : envelope.header.correlationId = identifier
  draft : envelope.toDraft = draft

theorem Supply.envelope_renews
    (supply : Supply) (type : EventType) (draft : Draft) :
    (supply.envelope type draft).Renews type draft supply.mint.1 :=
  ⟨rfl, rfl, rfl, rfl⟩

/-- The routing is the same, and the payloads agree in a given sense. -/
structure Draft.Agrees
    (alike : Payload → Payload → Prop) (left right : Draft) : Prop where
  payload : alike left.payload right.payload
  source : left.source = right.source
  channel : left.channel = right.channel
  user : left.user = right.user

/-- Agreeing envelopes went to one topic with the same outcome. -/
structure Delivery.Agrees
    (alike : Payload → Payload → Prop) (left right : Delivery) : Prop where
  topic : left.topic = right.topic
  envelope : left.envelope.Agrees alike right.envelope
  outcome : left.outcome = right.outcome

/-- Agreeing envelopes were given to vaults under one type. -/
structure Keeping.Agrees
    (alike : Payload → Payload → Prop) (left right : Keeping) : Prop where
  type : left.type = right.type
  envelope : left.envelope.Agrees alike right.envelope

/--
Two outsides supply the next publication with the same identifier and the same
readings, and their breakers are in the same state.
-/
structure World.Resembles (left : World σ ν) (right : World τ μ) : Prop where
  identifier : left.supply.mint.1 = right.supply.mint.1
  time : left.supply.now.1 = right.supply.now.1
  tick : left.supply.tick.1 = right.supply.tick.1
  breaker : left.breaker = right.breaker

/-- What watchers see of a publishing call. -/
structure Observation where
  deliveries : List Delivery
  keepings : List Keeping
  answer : Except PublishError Identifier

namespace Observation

/-- What is seen of a call that was made at a point. -/
def of
    (before : World (σ × List Delivery) (ν × List Keeping))
    (result :
      Except PublishError Identifier ×
        World (σ × List Delivery) (ν × List Keeping)) :
    Observation :=
  ⟨handed before result.2, entrusted before result.2, result.1⟩

/-- What is seen of a call that is refused before anything is touched. -/
def refusal (error : PublishError) : Observation := ⟨[], [], .error error⟩

/--
Agreeing envelopes were handed over, and the answers are equal if the vaults
gave the same verdict.
-/
structure Agrees
    (alike : Payload → Payload → Prop) (left right : Observation) : Prop where
  deliveries :
    List.Forall₂ (Delivery.Agrees alike) left.deliveries right.deliveries
  keepings : List.Forall₂ (Keeping.Agrees alike) left.keepings right.keepings
  answer :
    left.keepings.map Keeping.outcome = right.keepings.map Keeping.outcome →
      left.answer = right.answer

/-- All that was handed over renews a draft, and went to the given topic. -/
structure Renews
    (seen : Observation) (topic : Option String) (type : EventType)
    (draft : Draft) (identifier : Identifier) :
    Prop where
  delivered : ∀ delivery ∈ seen.deliveries,
    some delivery.topic = topic ∧
      delivery.envelope.Renews type draft identifier
  kept : ∀ keeping ∈ seen.keepings,
    keeping.type = type ∧ keeping.envelope.Renews type draft identifier

theorem of_eq
    {before after : World (σ × List Delivery) (ν × List Keeping)}
    {deliveries : List Delivery} {keepings : List Keeping}
    (answer : Except PublishError Identifier)
    (delivered : after.transport.2 = before.transport.2 ++ deliveries)
    (kept : after.vault.2 = before.vault.2 ++ keepings) :
    of before (answer, after) = ⟨deliveries, keepings, answer⟩ := by
  unfold of entrusted
  rw [handed_eq delivered, kept, List.drop_left]

theorem of_refused
    (before : World (σ × List Delivery) (ν × List Keeping))
    (error : PublishError) :
    of before (.error error, before) = refusal error :=
  of_eq _ (List.append_nil _).symm (List.append_nil _).symm

theorem agrees_refusal
    (alike : Payload → Payload → Prop) (error : PublishError) :
    (refusal error).Agrees alike (refusal error) :=
  ⟨.nil, .nil, fun _ => rfl⟩

/-- Where payloads agree in being equal, the same calls were made. -/
theorem Agrees.deliveries_eq {left right : Observation}
    (agree : left.Agrees Eq right) :
    left.deliveries = right.deliveries := by
  rw [← List.forall₂_eq_eq_eq]
  refine agree.deliveries.imp ?_
  rintro ⟨topic, ⟨header, payload⟩, outcome⟩ ⟨_, ⟨_, _⟩, _⟩ same
  cases same.topic
  cases same.outcome
  cases same.envelope.header
  cases same.envelope.payload
  rfl

theorem renews_refusal
    (error : PublishError) (topic : Option String) (type : EventType)
    (draft : Draft) (identifier : Identifier) :
    (refusal error).Renews topic type draft identifier := by
  constructor
  · intro _ member
    exact absurd member List.not_mem_nil
  · intro _ member
    exact absurd member List.not_mem_nil

end Observation

namespace Publisher

variable {publisher : Publisher} {type : EventType} {draft : Draft}
  {topic : String}

/-! ## What is seen of one publication -/

/-- How sending ends: as the breaker or else the transport has it. -/
def verdict (rejection : Option Cause) (outcome : Except Cause Unit) :
    Except Cause Unit :=
  match rejection with
  | some cause => .error cause
  | none => outcome

/-- The calls to the transport: one, unless the breaker rejects. -/
def attempts
    (rejection : Option Cause) (topic : String) (envelope : Envelope)
    (outcome : Except Cause Unit) :
    List Delivery :=
  match rejection with
  | some _ => []
  | none => [⟨topic, envelope, outcome⟩]

/--
What is seen of publishing an envelope, given how sending ends and what the
vault, if it is called, will answer.
-/
def seenOf
    (publisher : Publisher) (type : EventType) (envelope : Envelope)
    (deliveries : List Delivery) (sent : Except Cause Unit)
    (failedAt : Timestamp) (kept : Except Cause Unit) :
    Observation :=
  match sent, publisher.hasBackup, kept with
  | .ok _, _, _ => ⟨deliveries, [], .ok envelope.header.messageId⟩
  | .error cause, false, _ => ⟨deliveries, [], .error (.send cause)⟩
  | .error _, true, .ok _ =>
      ⟨deliveries, [⟨type, envelope, failedAt, kept⟩],
        .ok envelope.header.messageId⟩
  | .error cause, true, .error second =>
      ⟨deliveries, [⟨type, envelope, failedAt, kept⟩],
        .error (.backupFailed envelope.header.messageId cause second)⟩

/-- Sending that is watched lists the attempts and ends as it must. -/
theorem sending_attempts
    (publisher : Publisher) (transport : Transport σ) (topic : String)
    (envelope : Envelope) (before : World (σ × List Delivery) ν) :
    (publisher.sending transport.recorded topic envelope before).1 =
        verdict (publisher.rejection? before)
          (transport.deliver topic envelope before.transport.1).1 ∧
      (publisher.sending transport.recorded topic envelope before).2.2 =
        before.transport.2 ++
          attempts (publisher.rejection? before) topic envelope
            (transport.deliver topic envelope before.transport.1).1 := by
  unfold sending verdict attempts
  cases publisher.rejection? before with
  | some cause => exact ⟨rfl, (List.append_nil _).symm⟩
  | none => exact ⟨rfl, rfl⟩

/--
All that is seen of publishing a draft is settled by the breaker and by the
verdicts of the transport and the vault.
-/
theorem observed_publish
    (passes : publisher.Passes type draft topic) (transport : Transport σ)
    (vault : Vault ν) (before : World (σ × List Delivery) (ν × List Keeping)) :
    ∃ failedAt kept,
      Observation.of before
          (publisher.publish transport.recorded vault.recorded type draft
            before) =
        publisher.seenOf type (before.supply.envelope type draft)
          (attempts (publisher.rejection? before) topic
            (before.supply.envelope type draft)
            (transport.deliver topic (before.supply.envelope type draft)
              before.transport.1).1)
          (verdict (publisher.rejection? before)
            (transport.deliver topic (before.supply.envelope type draft)
              before.transport.1).1)
          failedAt kept := by
  have published := publishes passes transport.recorded vault.recorded before
  obtain ⟨ended, listed⟩ :=
    publisher.sending_attempts transport topic
      (before.supply.envelope type draft) before
  generalize publisher.publish transport.recorded vault.recorded type draft
      before =
    result at published ⊢
  rw [← ended]
  cases published with
  | sent state ticked breaker taken =>
      rw [taken] at listed ⊢
      refine ⟨⟨0, 0, 0⟩, .ok (), ?_⟩
      exact Observation.of_eq _ listed (List.append_nil _).symm
  | told state ticked breaker cause backup failed =>
      rw [failed] at listed ⊢
      refine ⟨⟨0, 0, 0⟩, .ok (), ?_⟩
      unfold seenOf
      rw [backup]
      exact Observation.of_eq _ listed (List.append_nil _).symm
  | kept state ticked breaker cause contents backup failed taken =>
      rw [failed] at listed ⊢
      rw [Vault.keep_recorded] at taken
      obtain ⟨outcome, rfl⟩ := Prod.mk.inj taken
      refine ⟨(before.supply.afterEnvelope ticked).now.1, .ok (), ?_⟩
      unfold seenOf
      rw [backup, outcome]
      exact Observation.of_eq _ listed rfl
  | lost state ticked breaker cause second contents backup failed refused =>
      rw [failed] at listed ⊢
      rw [Vault.keep_recorded] at refused
      obtain ⟨outcome, rfl⟩ := Prod.mk.inj refused
      refine
        ⟨(before.supply.afterEnvelope ticked).now.1, .error second, ?_⟩
      unfold seenOf
      rw [backup, outcome]
      exact Observation.of_eq _ listed rfl

/-! ## Publications that agree -/

variable {alike : Payload → Payload → Prop} {left right : Draft}
  {before : World (σ × List Delivery) (ν × List Keeping)}
  {start : World (τ × List Delivery) (μ × List Keeping)}

theorem attempts_agree
    (rejection : Option Cause) (topic : String) {first again : Envelope}
    (agree : first.Agrees alike again) (outcome : Except Cause Unit) :
    List.Forall₂ (Delivery.Agrees alike)
      (attempts rejection topic first outcome)
      (attempts rejection topic again outcome) := by
  cases rejection with
  | some cause => exact .nil
  | none => exact .cons ⟨rfl, agree, rfl⟩ .nil

/-- Publishing agreeing envelopes looks alike if sending ends alike. -/
theorem seenOf_agree
    (publisher : Publisher) (type : EventType) {first again : Envelope}
    (agree : first.Agrees alike again) {calls others : List Delivery}
    (handed : List.Forall₂ (Delivery.Agrees alike) calls others)
    (sent : Except Cause Unit) (failedAt lostAt : Timestamp)
    (kept saved : Except Cause Unit) :
    (publisher.seenOf type first calls sent failedAt kept).Agrees alike
      (publisher.seenOf type again others sent lostAt saved) := by
  have identifier : first.header.messageId = again.header.messageId :=
    congrArg Header.messageId agree.header
  have given :
      List.Forall₂ (Keeping.Agrees alike) [⟨type, first, failedAt, kept⟩]
        [⟨type, again, lostAt, saved⟩] :=
    .cons ⟨rfl, agree⟩ .nil
  unfold seenOf
  rw [identifier]
  cases sent with
  | ok _ => exact ⟨handed, .nil, fun _ => rfl⟩
  | error cause =>
      cases publisher.hasBackup with
      | false => exact ⟨handed, .nil, fun _ => rfl⟩
      | true =>
          -- The answers are compared only where the vaults have agreed.
          cases kept with
          | ok _ =>
              cases saved with
              | ok _ => exact ⟨handed, given, fun _ => rfl⟩
              | error second => exact ⟨handed, given, nofun⟩
          | error second =>
              cases saved with
              | ok _ => exact ⟨handed, given, nofun⟩
              | error other =>
                  refine ⟨handed, given, fun same => ?_⟩
                  cases same
                  rfl

/-- What publishing hands over renews the draft. -/
theorem seenOf_renews
    (publisher : Publisher) (type : EventType) (topic : String) (draft : Draft)
    (supply : Supply) (rejection : Option Cause)
    (outcome sent : Except Cause Unit) (failedAt : Timestamp)
    (kept : Except Cause Unit) :
    (publisher.seenOf type (supply.envelope type draft)
        (attempts rejection topic (supply.envelope type draft) outcome) sent
        failedAt kept).Renews
      (some topic) type draft supply.mint.1 := by
  have renews := supply.envelope_renews type draft
  have attempted : ∀ delivery ∈
      attempts rejection topic (supply.envelope type draft) outcome,
        some delivery.topic = some topic ∧
          delivery.envelope.Renews type draft supply.mint.1 := by
    intro delivery member
    cases rejection with
    | some cause => exact absurd member List.not_mem_nil
    | none =>
        obtain rfl := List.mem_singleton.mp member
        exact ⟨rfl, renews⟩
  have spared : ∀ keeping ∈ ([] : List Keeping),
      keeping.type = type ∧
        keeping.envelope.Renews type draft supply.mint.1 := by
    intro keeping member
    exact absurd member List.not_mem_nil
  have given : ∀ keeping ∈
      [(⟨type, supply.envelope type draft, failedAt, kept⟩ : Keeping)],
        keeping.type = type ∧
          keeping.envelope.Renews type draft supply.mint.1 := by
    intro keeping member
    obtain rfl := List.mem_singleton.mp member
    exact ⟨rfl, renews⟩
  unfold seenOf
  split
  · exact ⟨attempted, spared⟩
  · exact ⟨attempted, spared⟩
  · exact ⟨attempted, given⟩
  · exact ⟨attempted, given⟩

/-- An envelope is handed to the transport, or else to the vault. -/
theorem seenOf_handed
    (publisher : Publisher) (type : EventType) (topic : String)
    (envelope : Envelope) (before : World σ ν) (outcome : Except Cause Unit)
    (failedAt : Timestamp) (kept : Except Cause Unit) :
    (publisher.seenOf type envelope
        (attempts (publisher.rejection? before) topic envelope outcome)
        (verdict (publisher.rejection? before) outcome) failedAt
        kept).deliveries ≠ [] ∨
      (publisher.seenOf type envelope
        (attempts (publisher.rejection? before) topic envelope outcome)
        (verdict (publisher.rejection? before) outcome) failedAt
        kept).keepings ≠ [] := by
  cases rejection : publisher.rejection? before with
  | none =>
      left
      unfold seenOf
      split <;> exact List.cons_ne_nil _ _
  | some cause =>
      right
      cases backup : publisher.hasBackup with
      | false =>
          rw [rejection?_eq_none backup] at rejection
          cases rejection
      | true =>
          unfold seenOf verdict
          rw [backup]
          cases kept with
          | ok _ => exact List.cons_ne_nil _ _
          | error second => exact List.cons_ne_nil _ _

end Publisher

theorem World.Resembles.rejection?
    {left : World σ ν} {right : World τ μ} (same : left.Resembles right)
    (publisher : Publisher) :
    publisher.rejection? left = publisher.rejection? right := by
  unfold Publisher.rejection?
  rw [same.breaker, same.tick]

theorem Draft.Agrees.envelope
    {alike : Payload → Payload → Prop} {first again : Draft}
    (agree : first.Agrees alike again) {left right : Supply}
    (identifier : left.mint.1 = right.mint.1)
    (time : left.now.1 = right.now.1) (type : EventType) :
    (left.envelope type first).Agrees alike (right.envelope type again) := by
  refine ⟨?_, agree.payload⟩
  unfold Supply.envelope Header.mint
  rw [identifier, time, agree.source, agree.channel, agree.user]

namespace Publisher

variable {publisher : Publisher} {type : EventType} {topic : String}
  {alike : Payload → Payload → Prop} {first again : Draft}
  {before : World (σ × List Delivery) (ν × List Keeping)}
  {start : World (τ × List Delivery) (μ × List Keeping)}

/-- Publishing drafts that agree looks alike where the outsides are alike. -/
theorem publish_agree
    (passes : publisher.Passes type first topic)
    (passesAgain : publisher.Passes type again topic)
    (agree : first.Agrees alike again) (same : before.Resembles start)
    {transport : Transport σ} {other : Transport τ}
    (outcome :
      (transport.deliver topic (before.supply.envelope type first)
          before.transport.1).1 =
        (other.deliver topic (start.supply.envelope type again)
          start.transport.1).1)
    (vault : Vault ν) (repository : Vault μ) :
    (Observation.of before
        (publisher.publish transport.recorded vault.recorded type first
          before)).Agrees alike
      (Observation.of start
        (publisher.publish other.recorded repository.recorded type again
          start)) := by
  obtain ⟨failedAt, kept, seen⟩ :=
    observed_publish passes transport vault before
  obtain ⟨lostAt, saved, seenAgain⟩ :=
    observed_publish passesAgain other repository start
  have envelopes := agree.envelope same.identifier same.time type
  rw [seen, seenAgain, same.rejection? publisher, outcome]
  exact publisher.seenOf_agree type envelopes
    (attempts_agree _ topic envelopes _) _ failedAt lostAt kept saved

/-! ## Records that agree -/

/-- Of a record whose text is read, the draft is published under its type. -/
theorem resend_of_decode
    {record : BackupRecord} {envelope : Envelope}
    (decoded :
      Envelope.decode record.type.payloadKind record.envelopeText =
        .ok envelope)
    (publisher : Publisher) (transport : Transport σ) (vault : Vault ν)
    (world : World σ ν) :
    publisher.resend transport vault record world =
      if publisher.builders.builds record.type then
        publisher.publish transport vault record.type envelope.toDraft world
      else (.error (.unsupportedType record.type), world) := by
  unfold resend BuilderTable.recover
  rw [decoded]
  cases publisher.builders.builds record.type with
  | true => rfl
  | false => rfl

/-- What is seen of sending the event of a record again. -/
def seenAgain
    (publisher : Publisher) (transport : Transport σ) (vault : Vault ν)
    (record : BackupRecord)
    (before : World (σ × List Delivery) (ν × List Keeping)) :
    Observation :=
  .of before (publisher.resend transport.recorded vault.recorded record before)

/--
Two records of one type look alike when they are sent again, if the envelopes in
their texts agree in payload and routing.  Let the outsides supply the same
identifier and readings, the breakers be in the same state, and the transports
give the same verdict on what they are handed.  Then both hand over envelopes
that agree, and answer the same if the vaults, where they are called, give the
same verdict too.

What is handed over is an event of the records' type with the supplied
identifier, and it is handed over if the type has a topic and a builder.
-/
theorem resend_forgets_identity
    {record other : BackupRecord} (sameType : other.type = record.type)
    {first again : Envelope}
    (decoded :
      Envelope.decode record.type.payloadKind record.envelopeText = .ok first)
    (decodedAgain :
      Envelope.decode other.type.payloadKind other.envelopeText = .ok again)
    (agree : first.toDraft.Agrees alike again.toDraft)
    (publisher : Publisher)
    (transport : Transport σ) (relay : Transport τ)
    (vault : Vault ν) (repository : Vault μ)
    (same : before.Resembles start)
    (outcome : ∀ topic,
      publisher.topics.topicFor record.type = some topic →
        (transport.deliver topic
            (before.supply.envelope record.type first.toDraft)
            before.transport.1).1 =
          (relay.deliver topic
            (start.supply.envelope record.type again.toDraft)
            start.transport.1).1) :
    (publisher.seenAgain transport vault record before).Agrees alike
        (publisher.seenAgain relay repository other start) ∧
      (publisher.seenAgain transport vault record before).Renews
        (publisher.topics.topicFor record.type) record.type first.toDraft
        before.supply.mint.1 ∧
      ((publisher.topics.topicFor record.type).isSome = true →
        publisher.builders.builds record.type = true →
          (publisher.seenAgain transport vault record before).deliveries ≠
              [] ∨
            (publisher.seenAgain transport vault record before).keepings ≠
              []) := by
  have kind := Envelope.kind_of_decode decoded
  have kindAgain := Envelope.kind_of_decode decodedAgain
  unfold seenAgain
  rw [resend_of_decode decoded, resend_of_decode decodedAgain, sameType]
  rw [sameType] at kindAgain
  cases built : publisher.builders.builds record.type with
  | false =>
      rw [if_neg Bool.false_ne_true, if_neg Bool.false_ne_true,
        Observation.of_refused, Observation.of_refused]
      exact ⟨Observation.agrees_refusal alike _,
        Observation.renews_refusal _ _ _ _ _, fun _ never => nomatch never⟩
  | true =>
      rw [if_pos rfl, if_pos rfl]
      cases routed : publisher.topics.topicFor record.type with
      | none =>
          rw [publish_refused (.unrouted kind routed),
            publish_refused (.unrouted kindAgain routed),
            Observation.of_refused, Observation.of_refused]
          exact ⟨Observation.agrees_refusal alike _,
            Observation.renews_refusal _ _ _ _ _, fun never _ => nomatch never⟩
      | some topic =>
          have passes :
              publisher.Passes record.type first.toDraft topic :=
            ⟨kind, routed, built⟩
          have passesAgain :
              publisher.Passes record.type again.toDraft topic :=
            ⟨kindAgain, routed, built⟩
          refine ⟨publish_agree passes passesAgain agree same
            (outcome topic routed) vault repository, ?_⟩
          obtain ⟨failedAt, kept, seen⟩ :=
            observed_publish passes transport vault before
          rw [seen]
          exact ⟨publisher.seenOf_renews _ _ _ _ _ _ _ _ _,
            fun _ _ => publisher.seenOf_handed _ _ _ _ _ _ _⟩

/-! ## A launch that was stored as an authentication -/

/-- An authentication, as it is stored under a header. -/
def storedAuthentication : Envelope :=
  ⟨⟨.uacAuthenticate, .respondentHome, .rh, ⟨0, 0, 0⟩, ⟨1⟩, ⟨1⟩, some "u"⟩,
    ⟨.authentication, (⟨"q", some "c"⟩ : Authentication)⟩⟩

/-- A launch by an agent, with the same routing under another header. -/
def storedLaunch : Envelope :=
  ⟨⟨.surveyLaunch, .respondentHome, .rh, ⟨1, 2, 3⟩, ⟨2⟩, ⟨3⟩, some "u"⟩,
    ⟨.launch, (⟨"q", some "c", some "a"⟩ : Launch)⟩⟩

/-- A record of an authentication. -/
def ownRecord : BackupRecord :=
  ⟨.uacAuthenticate, 1, none, "own", storedAuthentication.encode⟩

/-- A record of an authentication whose text is that of a launch. -/
def crossedRecord : BackupRecord :=
  ⟨.uacAuthenticate, 2, some 3, "crossed", storedLaunch.encode⟩

/-- A text is read as an authentication if its section answers with one. -/
theorem decode_of_section
    {kind : PayloadKind} {content : kind.Content}
    {authentication : Authentication} {header : Header}
    (valid : header.time.Valid)
    (answers :
      Json.Answers PayloadKind.authentication.sectionCodec.read
        (kind.sectionCodec.write content) 2 (.ok authentication)) :
    Envelope.decode .authentication
        (Envelope.encode ⟨header, ⟨kind, content⟩⟩) =
      .ok ⟨header, ⟨.authentication, authentication⟩⟩ := by
  have read :=
    (PayloadKind.answers_envelope valid answers).decode (by decide)
  unfold Envelope.decode Envelope.encode Json.Codec.encode
  rw [read]
  rfl

theorem decode_storedAuthentication :
    Envelope.decode .authentication storedAuthentication.encode =
      .ok storedAuthentication := by
  have valid : (Timestamp.mk 0 0 0).Valid := by decide
  have steady :
      (Authentication.codec.toDocument ⟨"q", some "c"⟩).Steady := by
    apply Json.Codec.steady_record "UacAuthenticateResponse"
    refine List.forall_mem_cons.mpr ⟨.text _, ?_⟩
    exact List.forall_mem_singleton.mpr (.text _)
  have answers :=
    (Authentication.codec_total.lasts ⟨"q", some "c"⟩).answers steady
  exact decode_of_section valid (PayloadKind.answers_section_same rfl answers)

theorem decode_storedLaunch :
    Envelope.decode .authentication storedLaunch.encode =
      .ok ⟨storedLaunch.header, storedAuthentication.payload⟩ := by
  have valid : (Timestamp.mk 1 2 3).Valid := by decide
  have same :
      PayloadKind.launch.sectionKey = PayloadKind.authentication.sectionKey :=
    rfl
  have answers :=
    PayloadKind.answers_section_same same
      (Launch.answers_authentication ⟨"q", some "c", some "a"⟩)
  exact decode_of_section valid answers

/-- A watched outage with a vault that has kept something before. -/
def laterOutage :
    World (Memory.Sender × List Delivery) (Memory.Keeper × List Keeping) :=
  { outage with
    transport := (⟨[], 7, .always⟩, [])
    vault := (⟨[], [storedLaunch], 1, .none⟩, []) }

/--
The two records agree in nothing but what counts.  During the outages both give
equal envelopes to the transport and then to the vault.
-/
theorem resend_forgets_identity_crossed :
    storedLaunch.header ≠ storedAuthentication.header ∧
      Envelope.decode ownRecord.type.payloadKind ownRecord.envelopeText =
        .ok storedAuthentication ∧
      Envelope.decode crossedRecord.type.payloadKind
          crossedRecord.envelopeText =
        .ok ⟨storedLaunch.header, storedAuthentication.payload⟩ ∧
      outage.Resembles laterOutage ∧
      ((withBackup (some .standard)).seenAgain Memory.transport Memory.vault
          ownRecord outage).Agrees Eq
        ((withBackup (some .standard)).seenAgain Memory.transport Memory.vault
          crossedRecord laterOutage) ∧
      ((withBackup (some .standard)).seenAgain Memory.transport Memory.vault
          ownRecord outage).deliveries =
        ((withBackup (some .standard)).seenAgain Memory.transport Memory.vault
          crossedRecord laterOutage).deliveries := by
  have agree :
      storedAuthentication.toDraft.Agrees Eq
        (Envelope.toDraft
          ⟨storedLaunch.header, storedAuthentication.payload⟩) :=
    ⟨rfl, rfl, rfl, rfl⟩
  have same : outage.Resembles laterOutage := ⟨rfl, rfl, rfl, rfl⟩
  have seen :=
    (@resend_forgets_identity _ _ _ _ Eq outage laterOutage ownRecord
      crossedRecord rfl _ _ decode_storedAuthentication decode_storedLaunch
      agree (withBackup (some .standard)) Memory.transport Memory.transport
      Memory.vault Memory.vault same fun _ _ => rfl).1
  exact ⟨by decide, decode_storedAuthentication, decode_storedLaunch, same,
    seen, seen.deliveries_eq⟩

end Publisher

end EventRelay
