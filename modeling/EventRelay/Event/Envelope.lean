import EventRelay.Event.Payload
import EventRelay.Event.Routing
import EventRelay.Identifier

/-!
# Envelopes

A draft is an event before it has an identity: a payload and its routing.  An
envelope adds a header with a type, a time and two identifiers, and holds the
payload in a section whose key depends on the kind of payload.  The sections
of two kinds share one key, so the key alone does not tell them apart.

Reading an envelope takes the kind of payload that is expected; the type in
the header is read but not compared with it.
-/

namespace EventRelay

open EventRelay.Json

/-- An event before it has an identity. -/
structure Draft where
  payload : Payload
  source : Source
  channel : Channel
  /-- The user the event goes back to, if one is known. -/
  user : Option String

/-- Equality of drafts, numbers in open documents compared by value. -/
def Draft.same (left right : Draft) : Bool :=
  left.payload.same right.payload && left.source == right.source &&
    left.channel == right.channel && left.user == right.user

/-- What an envelope says about its event. -/
structure Header where
  type : EventType
  source : Source
  channel : Channel
  time : Timestamp
  messageId : Identifier
  correlationId : Identifier
  user : Option String
  deriving DecidableEq

/-- An event as it is sent. -/
structure Envelope where
  header : Header
  payload : Payload

/-- The codec of event types, by their names. -/
def EventType.codec : Codec EventType := .name EventType.all EventType.name

/-- The codec of sources, by their names. -/
def Source.codec : Codec Source := .name Source.all Source.name

/-- The codec of channels, by their names. -/
def Channel.codec : Codec Channel := .name Channel.all Channel.name

/-- The codec of identifiers; all their spellings are read, one is written. -/
def Identifier.codec : Codec Identifier :=
  .parsed "a formatted UUID string"
    (fun text =>
      match Identifier.parse text with
      | .ok identifier => .ok identifier
      | .error fault =>
          .error (.refused ("UUID parsing failed: " ++ fault.message)))
    Identifier.toText

/-- The codec of headers; all but the user must be given. -/
def Header.codec : Codec Header :=
  (Codec.record "Header"
    (.cons (.required "type" EventType.codec) <|
     .cons (.required "source" Source.codec) <|
     .cons (.required "channel" Channel.codec) <|
     .cons (.required "dateTime" Timestamp.codec) <|
     .cons (.required "messageId" Identifier.codec) <|
     .cons (.required "correlationId" Identifier.codec) <|
     .cons (.optionalOmitted "originatingUser" .text) .nil)).imap
    (fun (type, source, channel, time, messageId, correlationId, user, _) =>
      ⟨type, source, channel, time, messageId, correlationId, user⟩)
    (fun header =>
      (header.type, header.source, header.channel, header.time,
        header.messageId, header.correlationId, header.user, ()))

namespace PayloadKind

/-- The key under which a section holds its payload. -/
def sectionKey : PayloadKind → String
  | .collectionCase => "collectionCase"
  | .accessCode => "uac"
  | .fulfilmentRequest => "fulfilmentRequest"
  | .refusal => "refusal"
  | .launch => "response"
  | .authentication => "response"
  | .survey => "surveyUpdate"
  | .exercise => "collectionExerciseUpdate"
  | .newCase => "newCase"

/-- The name of a kind of section in faults. -/
def sectionTitle : PayloadKind → String
  | .collectionCase => "CaseUpdatePayload"
  | .accessCode => "UacUpdatePayload"
  | .fulfilmentRequest => "FulfilmentPayload"
  | .refusal => "RefusalPayload"
  | .launch => "SurveyLaunchPayload"
  | .authentication => "UacAuthenticatePayload"
  | .survey => "SurveyUpdatePayload"
  | .exercise => "CollectionExerciseUpdatePayload"
  | .newCase => "NewCasePayload"

/-- The codec of the section that holds a payload of a kind. -/
def sectionCodec (kind : PayloadKind) : Codec kind.Content :=
  (Codec.record kind.sectionTitle
    (.cons (.required kind.sectionKey kind.codec) .nil)).imap
    (fun (content, _) => content) (fun content => (content, ()))

/-- The codec of envelopes with a payload of a kind. -/
def envelopeCodec (kind : PayloadKind) : Codec (Header × kind.Content) :=
  (Codec.record "Envelope"
    (.cons (.required "header" Header.codec) <|
     .cons (.required "payload" kind.sectionCodec) .nil)).imap
    (fun (header, content, _) => (header, content))
    (fun (header, content) => (header, content, ()))

end PayloadKind

namespace Envelope

/-- Reads an envelope with a payload of the given kind. -/
def decode (kind : PayloadKind) (text : String) : Except Fault Envelope :=
  (kind.envelopeCodec.decode text).map fun result =>
    ⟨result.1, ⟨kind, result.2⟩⟩

/-- The text of an envelope as it is sent and kept. -/
def encode (envelope : Envelope) : String :=
  envelope.payload.kind.envelopeCodec.encode
    (envelope.header, envelope.payload.content)

/-- The payload and routing of an envelope, without its identity. -/
def toDraft (envelope : Envelope) : Draft :=
  ⟨envelope.payload, envelope.header.source, envelope.header.channel,
    envelope.header.user⟩

end Envelope

/--
The section of an event type, holding a payload of the kind that its events
carry.
-/
structure Section (type : EventType) where
  content : type.payloadKind.Content

namespace Section

variable {type : EventType}

/--
Puts a payload into the section of an event type, or gives it back when the
kinds differ.
-/
def wrap (type : EventType) (payload : Payload) :
    Except Payload (Section type) :=
  match payload.contentOf? type.payloadKind with
  | some content => .ok ⟨content⟩
  | none => .error payload

/-- The payload that a section holds. -/
def unwrap (part : Section type) : Payload :=
  ⟨type.payloadKind, part.content⟩

/-- The text of a section by itself. -/
def encode (part : Section type) : String :=
  type.payloadKind.sectionCodec.encode part.content

end Section

/--
The header of a new event: a fresh identifier that also starts its exchange,
and the time.
-/
def Header.mint
    (type : EventType) (draft : Draft) (identifier : Identifier)
    (now : Timestamp) :
    Header :=
  ⟨type, draft.source, draft.channel, now, identifier, identifier, draft.user⟩

end EventRelay
