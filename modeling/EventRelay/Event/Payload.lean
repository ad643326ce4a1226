import EventRelay.Event.Kind
import EventRelay.Json.Record
import EventRelay.Timestamp

/-!
# Payloads

A payload is the content of an event: one of nine records, chosen by its kind.
Producers leave out what they do not know, so every field of a payload may be
left out and then has the value that says least: an empty text, false,
nothing, an empty dictionary.

Each record is followed by its codec, which lists its fields in their written
order.
-/

namespace EventRelay

open EventRelay.Json

instance : BEq Json := ⟨Json.same⟩

/-- Timestamps, written as texts. -/
def Timestamp.codec : Codec Timestamp :=
  .parsed "an RFC 3339 formatted date and time string"
    (fun text =>
      match Timestamp.parse? text with
      | some timestamp => .ok timestamp
      | none => .error (.refused "invalid timestamp"))
    Timestamp.toText

/-- A postal address. -/
structure Address where
  line1 : Option String
  line2 : Option String
  line3 : Option String
  town : Option String
  postcode : Option String
  region : Option String
  /-- The property's reference number. -/
  propertyReference : Option String
  deriving BEq

/-- A person to contact. -/
structure Contact where
  title : Option String
  forename : Option String
  surname : Option String
  telephone : Option String
  deriving BEq

/-- A case that has changed. -/
structure CollectionCase where
  id : String
  reference : Option String
  caseType : Option String
  survey : Option String
  collectionExercise : Option String
  address : Option Address
  contact : Option Contact
  handDelivery : Bool
  invalid : Bool
  refusalReceived : Option String
  deriving BEq

/-- A unique access code that has changed. -/
structure AccessCode where
  hash : String
  active : Bool
  questionnaire : Option String
  caseId : Option String
  formType : Option String
  deriving BEq

/-- A request for printed or digital material. -/
structure FulfilmentRequest where
  caseId : String
  code : String
  individualCase : Option String
  contact : Option Contact
  deriving BEq

/-- A reference to a case from within another payload. -/
structure CaseReference where
  id : String
  deriving BEq

/-- A refusal to take part. -/
structure Refusal where
  refusalType : Option String
  agent : Option String
  call : Option String
  isHouseholder : Bool
  collectionCase : CaseReference
  contact : Option Contact
  address : Option Address
  deriving BEq

/-- A respondent's launch into a questionnaire. -/
structure Launch where
  questionnaire : String
  caseId : Option String
  agent : Option String
  deriving BEq

/-- A respondent's authentication with an access code. -/
structure Authentication where
  questionnaire : String
  caseId : Option String
  deriving BEq

/-- A survey that has changed. -/
structure Survey where
  id : String
  name : Option String
  sampleDefinitionUrl : Option String
  sampleDefinition : Option Json
  metadata : Option Json
  deriving BEq

/-- A collection exercise that has changed. -/
structure Exercise where
  id : String
  survey : Option String
  name : Option String
  reference : Option String
  start : Option Timestamp
  finish : Option Timestamp
  metadata : Option Json
  deriving BEq

/-- A case to be created. -/
structure NewCase where
  caseId : String
  collectionExercise : Option String
  sample : Dictionary String
  sensitiveSample : Dictionary String
  deriving BEq

/-- The codec of addresses; every member may be missing or null. -/
def Address.codec : Codec Address :=
  (Codec.record "Address"
    (.cons (.optional "addressLine1" .text) <|
     .cons (.optional "addressLine2" .text) <|
     .cons (.optional "addressLine3" .text) <|
     .cons (.optional "townName" .text) <|
     .cons (.optional "postcode" .text) <|
     .cons (.optional "region" .text) <|
     .cons (.optional "uprn" .text) .nil)).imap
    (fun (line1, line2, line3, town, postcode, region, propertyReference, _) =>
      ⟨line1, line2, line3, town, postcode, region, propertyReference⟩)
    (fun value =>
      (value.line1, value.line2, value.line3, value.town, value.postcode,
        value.region, value.propertyReference, ()))

/-- The codec of contacts; every member may be missing or null. -/
def Contact.codec : Codec Contact :=
  (Codec.record "Contact"
    (.cons (.optional "title" .text) <|
     .cons (.optional "forename" .text) <|
     .cons (.optional "surname" .text) <|
     .cons (.optional "telNo" .text) .nil)).imap
    (fun (title, forename, surname, telephone, _) =>
      ⟨title, forename, surname, telephone⟩)
    (fun value =>
      (value.title, value.forename, value.surname, value.telephone, ()))

/--
The codec of changed cases; the identifier and the two flags may be missing but
not null.
-/
def CollectionCase.codec : Codec CollectionCase :=
  (Codec.record "CollectionCase"
    (.cons (.defaulting "caseId" .text "") <|
     .cons (.optional "caseRef" .text) <|
     .cons (.optional "caseType" .text) <|
     .cons (.optional "survey" .text) <|
     .cons (.optional "collectionExerciseId" .text) <|
     .cons (.optional "address" Address.codec) <|
     .cons (.optional "contact" Contact.codec) <|
     .cons (.defaulting "handDelivery" .flag false) <|
     .cons (.defaulting "invalid" .flag false) <|
     .cons (.optional "refusalReceived" .text) .nil)).imap
    (fun (id, reference, caseType, survey, collectionExercise, address, contact,
        handDelivery, invalid, refusalReceived, _) =>
      ⟨id, reference, caseType, survey, collectionExercise, address, contact,
        handDelivery, invalid, refusalReceived⟩)
    (fun value =>
      (value.id, value.reference, value.caseType, value.survey,
        value.collectionExercise, value.address, value.contact,
        value.handDelivery, value.invalid, value.refusalReceived, ()))

/--
The codec of access codes; the hash and the flag may be missing but not null.
-/
def AccessCode.codec : Codec AccessCode :=
  (Codec.record "Uac"
    (.cons (.defaulting "uacHash" .text "") <|
     .cons (.defaulting "active" .flag false) <|
     .cons (.optional "questionnaireId" .text) <|
     .cons (.optional "caseId" .text) <|
     .cons (.optional "formType" .text) .nil)).imap
    (fun (hash, active, questionnaire, caseId, formType, _) =>
      ⟨hash, active, questionnaire, caseId, formType⟩)
    (fun value =>
      (value.hash, value.active, value.questionnaire, value.caseId,
        value.formType, ()))

/-- The codec of requests; the case and the code may be missing but not null. -/
def FulfilmentRequest.codec : Codec FulfilmentRequest :=
  (Codec.record "FulfilmentRequest"
    (.cons (.defaulting "caseId" .text "") <|
     .cons (.defaulting "fulfilmentCode" .text "") <|
     .cons (.optional "individualCaseId" .text) <|
     .cons (.optional "contact" Contact.codec) .nil)).imap
    (fun (caseId, code, individualCase, contact, _) =>
      ⟨caseId, code, individualCase, contact⟩)
    (fun value =>
      (value.caseId, value.code, value.individualCase, value.contact, ()))

/-- The codec of references to cases; a missing identifier is empty. -/
def CaseReference.codec : Codec CaseReference :=
  (Codec.record "CaseReference" (.cons (.defaulting "id" .text "") .nil)).imap
    (fun (id, _) => ⟨id⟩)
    (fun value => (value.id, ()))

/-- The codec of refusals; a missing case is a reference without identifier. -/
def Refusal.codec : Codec Refusal :=
  (Codec.record "RefusalDetails"
    (.cons (.optional "type" .text) <|
     .cons (.optional "agentId" .text) <|
     .cons (.optional "callId" .text) <|
     .cons (.defaulting "isHouseholder" .flag false) <|
     .cons (.defaulting "collectionCase" CaseReference.codec ⟨""⟩) <|
     .cons (.optional "contact" Contact.codec) <|
     .cons (.optional "address" Address.codec) .nil)).imap
    (fun (refusalType, agent, call, isHouseholder, collectionCase, contact,
        address, _) =>
      ⟨refusalType, agent, call, isHouseholder, collectionCase, contact,
        address⟩)
    (fun value =>
      (value.refusalType, value.agent, value.call, value.isHouseholder,
        value.collectionCase, value.contact, value.address, ()))

/-- The codec of launches; the questionnaire may be missing but not null. -/
def Launch.codec : Codec Launch :=
  (Codec.record "SurveyLaunchResponse"
    (.cons (.defaulting "questionnaireId" .text "") <|
     .cons (.optional "caseId" .text) <|
     .cons (.optional "agentId" .text) .nil)).imap
    (fun (questionnaire, caseId, agent, _) => ⟨questionnaire, caseId, agent⟩)
    (fun value => (value.questionnaire, value.caseId, value.agent, ()))

/-- The codec of authentications; its members are among those of a launch. -/
def Authentication.codec : Codec Authentication :=
  (Codec.record "UacAuthenticateResponse"
    (.cons (.defaulting "questionnaireId" .text "") <|
     .cons (.optional "caseId" .text) .nil)).imap
    (fun (questionnaire, caseId, _) => ⟨questionnaire, caseId⟩)
    (fun value => (value.questionnaire, value.caseId, ()))

/-- The codec of surveys; an open document that is null is read as none. -/
def Survey.codec : Codec Survey :=
  (Codec.record "SurveyUpdate"
    (.cons (.defaulting "surveyId" .text "") <|
     .cons (.optional "name" .text) <|
     .cons (.optional "sampleDefinitionUrl" .text) <|
     .cons (.optional "sampleDefinition" .document) <|
     .cons (.optional "metadata" .document) .nil)).imap
    (fun (id, name, sampleDefinitionUrl, sampleDefinition, metadata, _) =>
      ⟨id, name, sampleDefinitionUrl, sampleDefinition, metadata⟩)
    (fun value =>
      (value.id, value.name, value.sampleDefinitionUrl, value.sampleDefinition,
        value.metadata, ()))

/-- The codec of collection exercises; their dates are written as timestamps. -/
def Exercise.codec : Codec Exercise :=
  (Codec.record "CollectionExercise"
    (.cons (.defaulting "collectionExerciseId" .text "") <|
     .cons (.optional "surveyId" .text) <|
     .cons (.optional "name" .text) <|
     .cons (.optional "reference" .text) <|
     .cons (.optional "startDate" Timestamp.codec) <|
     .cons (.optional "endDate" Timestamp.codec) <|
     .cons (.optional "metadata" .document) .nil)).imap
    (fun (id, survey, name, reference, start, finish, metadata, _) =>
      ⟨id, survey, name, reference, start, finish, metadata⟩)
    (fun value =>
      (value.id, value.survey, value.name, value.reference, value.start,
        value.finish, value.metadata, ()))

/-- The codec of new cases; the samples may be missing but not null. -/
def NewCase.codec : Codec NewCase :=
  (Codec.record "NewCasePayloadContent"
    (.cons (.defaulting "caseId" .text "") <|
     .cons (.optional "collectionExerciseId" .text) <|
     .cons (.defaulting "sample" .dictionary []) <|
     .cons (.defaulting "sampleSensitive" .dictionary []) .nil)).imap
    (fun (caseId, collectionExercise, sample, sensitiveSample, _) =>
      ⟨caseId, collectionExercise, sample, sensitiveSample⟩)
    (fun value =>
      (value.caseId, value.collectionExercise, value.sample,
        value.sensitiveSample, ()))

/-- The records of each payload kind. -/
def PayloadKind.Content : PayloadKind → Type
  | .collectionCase => CollectionCase
  | .accessCode => AccessCode
  | .fulfilmentRequest => FulfilmentRequest
  | .refusal => Refusal
  | .launch => Launch
  | .authentication => Authentication
  | .survey => Survey
  | .exercise => Exercise
  | .newCase => NewCase

/-- The codec of the records of a payload kind. -/
def PayloadKind.codec : (kind : PayloadKind) → Codec kind.Content
  | .collectionCase => CollectionCase.codec
  | .accessCode => AccessCode.codec
  | .fulfilmentRequest => FulfilmentRequest.codec
  | .refusal => Refusal.codec
  | .launch => Launch.codec
  | .authentication => Authentication.codec
  | .survey => Survey.codec
  | .exercise => Exercise.codec
  | .newCase => NewCase.codec

/--
Equality of the records of a payload kind, numbers in open documents compared
by value.
-/
def PayloadKind.sameContent :
    (kind : PayloadKind) → kind.Content → kind.Content → Bool
  | .collectionCase => fun left right : CollectionCase => left == right
  | .accessCode => fun left right : AccessCode => left == right
  | .fulfilmentRequest => fun left right : FulfilmentRequest => left == right
  | .refusal => fun left right : Refusal => left == right
  | .launch => fun left right : Launch => left == right
  | .authentication => fun left right : Authentication => left == right
  | .survey => fun left right : Survey => left == right
  | .exercise => fun left right : Exercise => left == right
  | .newCase => fun left right : NewCase => left == right

/-- The content of an event, of any kind. -/
structure Payload where
  kind : PayloadKind
  content : kind.Content

namespace Payload

/-- Equality of payloads, numbers in open documents compared by value. -/
def same (left right : Payload) : Bool :=
  if equal : left.kind = right.kind then
    right.kind.sameContent (equal ▸ left.content) right.content
  else false

/-- Reads a payload of a given kind. -/
def decode (kind : PayloadKind) (text : String) : Except Fault Payload :=
  (kind.codec.decode text).map fun content => ⟨kind, content⟩

/-- The text of a payload, which does not tell its kind. -/
def encode (payload : Payload) : String :=
  payload.kind.codec.encode payload.content

/-- The content of a payload that has the given kind. -/
def contentOf? (payload : Payload) (kind : PayloadKind) : Option kind.Content :=
  if equal : payload.kind = kind then some (equal ▸ payload.content) else none

@[simp]
theorem contentOf?_self (kind : PayloadKind) (content : kind.Content) :
    (Payload.mk kind content).contentOf? kind = some content := by
  simp [contentOf?]

end Payload

end EventRelay
