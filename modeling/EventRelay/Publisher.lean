import EventRelay.Event.Topics
import EventRelay.World

/-!
# The publisher

A publisher makes an envelope of a draft and hands it to the transport.  A
draft that cannot become an envelope is refused before anything outside is
touched: first a payload of the wrong kind, then a type without a topic, then
a type without a builder.

With backup enabled, an envelope that the transport refuses, or that the
breaker does not let pass, goes to the vault.  The caller then sees success:
the event is either sent or kept.  Only when both fail is it lost, and the
error tells both causes.
-/

namespace EventRelay

/-- Why an event was not published. -/
inductive PublishError where
  | incompatiblePayload (type : EventType) (expected actual : PayloadKind)
  | unsupportedType (type : EventType)
  | invalidPayload (type : EventType) (fault : Json.Fault)
  | send (cause : Cause)
  | backupFailed (messageId : Identifier) (send keep : Cause)
  | malformedBackup (messageId : String) (error : BuildError)
  deriving DecidableEq

namespace PublishError

/--
Whether the event was refused before anything outside was touched, for a fault
of the request.
-/
def isValidation : PublishError → Bool
  | .incompatiblePayload .. => true
  | .unsupportedType .. => true
  | .invalidPayload .. => true
  | _ => false

/-- The text of the error, with those of its causes. -/
def message : PublishError → String
  | .incompatiblePayload type expected actual =>
    "payload " ++ actual.name ++ " is incompatible with event type " ++
      type.name ++ " (expected " ++ expected.name ++ ")"
  | .unsupportedType type => "unsupported event type: " ++ type.name
  | .invalidPayload type fault =>
    "JSON payload for " ++ type.name ++ " could not be parsed: " ++
      fault.message
  | .send cause => "failed to send event: " ++ cause.message
  | .backupFailed messageId sending keeping =>
    "failed to send event " ++ messageId.toText ++ " (" ++ sending.message ++
      ") and failed to back it up (" ++ keeping.message ++ ")"
  | .malformedBackup messageId error =>
    "backup record " ++ messageId ++ " is malformed: " ++ error.message

end PublishError

/-- What a publisher does about an envelope that is not sent. -/
inductive BackupMode where
  /-- The caller is told. -/
  | disabled
  /-- The vault keeps it; a breaker may stand before the transport. -/
  | enabled (breaker : Option Breaker.Setup)

/-- How a publisher is set up. -/
structure Publisher where
  backup : BackupMode
  builders : BuilderTable
  topics : TopicTable

namespace Publisher

variable {σ ν : Type}

/-- A publisher that tells its caller about every envelope that is not sent. -/
def withoutBackup : Publisher := ⟨.disabled, .standard, .standard⟩

/-- A publisher with a vault for envelopes that are not sent. -/
def withBackup (breaker : Option Breaker.Setup) : Publisher :=
  ⟨.enabled breaker, .standard, .standard⟩

/-- Whether envelopes that are not sent go to a vault. -/
def hasBackup (publisher : Publisher) : Bool :=
  match publisher.backup with
  | .disabled => false
  | .enabled _ => true

/-- Hands an envelope to the transport. -/
def deliver
    (transport : Transport σ) (topic : String) (envelope : Envelope)
    (world : World σ ν) :
    Except Cause Unit × World σ ν :=
  let (outcome, state) := transport.deliver topic envelope world.transport
  (outcome, { world with transport := state })

/--
Hands an envelope to the transport if the breaker lets it pass, and records
the outcome.
-/
def deliverGuarded
    (setup : Breaker.Setup) (transport : Transport σ) (topic : String)
    (envelope : Envelope) (world : World σ ν) :
    Except Cause Unit × World σ ν :=
  let (asked, supply) := world.supply.tick
  let (permitted, breaker) := world.breaker.ask setup asked
  let world := { world with supply := supply, breaker := breaker }
  if permitted then
    let (outcome, world) := deliver transport topic envelope world
    let (recorded, supply) := world.supply.tick
    let breaker := world.breaker.record setup recorded outcome.isOk
    (outcome, { world with supply := supply, breaker := breaker })
  else (.error (.rejected setup.name), world)

/-- Hands an envelope to the transport, past the breaker if there is one. -/
def deliverPast
    (breaker : Option Breaker.Setup) (transport : Transport σ)
    (topic : String) (envelope : Envelope) (world : World σ ν) :
    Except Cause Unit × World σ ν :=
  match breaker with
  | none => deliver transport topic envelope world
  | some setup => deliverGuarded setup transport topic envelope world

/-- Gives an envelope that was not sent to the vault. -/
def keep
    (vault : Vault ν) (type : EventType) (envelope : Envelope) (send : Cause)
    (world : World σ ν) :
    Except PublishError Unit × World σ ν :=
  let (failedAt, supply) := world.supply.now
  let (outcome, state) := vault.keep type envelope failedAt world.vault
  let world := { world with supply := supply, vault := state }
  match outcome with
  | .ok _ => (.ok (), world)
  | .error keep =>
      (.error (.backupFailed envelope.header.messageId send keep), world)

/-- Sends an envelope, or does with it what the backup mode says. -/
def transmit
    (publisher : Publisher) (transport : Transport σ) (vault : Vault ν)
    (type : EventType) (topic : String) (envelope : Envelope)
    (world : World σ ν) :
    Except PublishError Unit × World σ ν :=
  match publisher.backup with
  | .disabled =>
    match deliver transport topic envelope world with
    | (.ok _, world) => (.ok (), world)
    | (.error cause, world) => (.error (.send cause), world)
  | .enabled breaker =>
    match deliverPast breaker transport topic envelope world with
    | (.ok _, world) => (.ok (), world)
    | (.error cause, world) => keep vault type envelope cause world

/--
Checks a draft, makes its envelope and sends it; answers the identifier of the
envelope.
-/
def publish
    (publisher : Publisher) (transport : Transport σ) (vault : Vault ν)
    (type : EventType) (draft : Draft) (world : World σ ν) :
    Except PublishError Identifier × World σ ν :=
  if draft.payload.kind ≠ type.payloadKind then
    (.error (.incompatiblePayload type type.payloadKind draft.payload.kind),
      world)
  else
    match publisher.topics.topicFor type with
    | none => (.error (.unsupportedType type), world)
    | some topic =>
      let (identifier, supply) := world.supply.mint
      let (now, supply) := supply.now
      match publisher.builders.create type draft identifier now with
      | none => (.error (.unsupportedType type), world)
      | some envelope =>
        match publisher.transmit transport vault type topic envelope
            { world with supply := supply } with
        | (.ok _, world) => (.ok envelope.header.messageId, world)
        | (.error error, world) => (.error error, world)

/-- Publishes a payload without a user. -/
def sendEvent
    (publisher : Publisher) (transport : Transport σ) (vault : Vault ν)
    (type : EventType) (source : Source) (channel : Channel)
    (payload : Payload) (world : World σ ν) :
    Except PublishError Identifier × World σ ν :=
  publisher.publish transport vault type ⟨payload, source, channel, none⟩ world

/--
Publishes a payload that is given as text, read as the kind that events of the
type carry.
-/
def sendText
    (publisher : Publisher) (transport : Transport σ) (vault : Vault ν)
    (type : EventType) (source : Source) (channel : Channel) (text : String)
    (world : World σ ν) :
    Except PublishError Identifier × World σ ν :=
  match Payload.decode type.payloadKind text with
  | .ok payload =>
      publisher.sendEvent transport vault type source channel payload world
  | .error fault => (.error (.invalidPayload type fault), world)

/--
Publishes an event again that a backup record keeps; it gets a new identity.
-/
def resend
    (publisher : Publisher) (transport : Transport σ) (vault : Vault ν)
    (record : BackupRecord) (world : World σ ν) :
    Except PublishError Identifier × World σ ν :=
  match publisher.builders.recover record.type record.envelopeText with
  | .ok draft => publisher.publish transport vault record.type draft world
  | .error (.noBuilder type) => (.error (.unsupportedType type), world)
  | .error error => (.error (.malformedBackup record.messageId error), world)

/-- The publisher as a description: its backup and its two tables. -/
def describe (publisher : Publisher) : String :=
  let backup :=
    match publisher.backup with
    | .disabled => "disabled"
    | .enabled breaker =>
        "enabled (breaker: " ++ Breaker.describe breaker ++ ")"
  "EventPublisher \x7b backup: " ++ Text.quoted backup ++ ", builders: " ++
    publisher.builders.describe ++ ", topics: " ++ publisher.topics.describe ++
      " \x7d"

end Publisher

end EventRelay
