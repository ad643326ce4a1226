import EventRelay.InputError

/-!
# Event types and payload kinds

There are nine types of event, and each carries its own kind of payload.  The
pairing is one to one, so a payload alone determines the type of event that it
belongs to.
-/

namespace EventRelay

/-- What an event tells of. -/
inductive EventType where
  | caseUpdate
  | uacUpdate
  | fulfilment
  | refusal
  | surveyLaunch
  | uacAuthenticate
  | surveyUpdate
  | collectionExerciseUpdate
  | newCase
  deriving DecidableEq

/-- Which record an event carries. -/
inductive PayloadKind where
  | collectionCase
  | accessCode
  | fulfilmentRequest
  | refusal
  | launch
  | authentication
  | survey
  | exercise
  | newCase
  deriving DecidableEq

namespace EventType

/-- The event types in their fixed order. -/
def all : List EventType :=
  [.caseUpdate, .uacUpdate, .fulfilment, .refusal, .surveyLaunch,
    .uacAuthenticate, .surveyUpdate, .collectionExerciseUpdate, .newCase]

/-- The name of an event type in messages between systems. -/
def name : EventType → String
  | .caseUpdate => "CASE_UPDATE"
  | .uacUpdate => "UAC_UPDATE"
  | .fulfilment => "FULFILMENT"
  | .refusal => "REFUSAL"
  | .surveyLaunch => "SURVEY_LAUNCH"
  | .uacAuthenticate => "UAC_AUTHENTICATE"
  | .surveyUpdate => "SURVEY_UPDATE"
  | .collectionExerciseUpdate => "COLLECTION_EXERCISE_UPDATE"
  | .newCase => "NEW_CASE"

/-- The name of an event type in descriptions of a publisher. -/
def title : EventType → String
  | .caseUpdate => "CaseUpdate"
  | .uacUpdate => "UacUpdate"
  | .fulfilment => "Fulfilment"
  | .refusal => "Refusal"
  | .surveyLaunch => "SurveyLaunch"
  | .uacAuthenticate => "UacAuthenticate"
  | .surveyUpdate => "SurveyUpdate"
  | .collectionExerciseUpdate => "CollectionExerciseUpdate"
  | .newCase => "NewCase"

/-- Reads an event type by its name, which has to match to the letter. -/
def parse (given : String) : Except InputError EventType :=
  findNamed "event type" all name given

/-- The kind of payload that events of a type carry. -/
def payloadKind : EventType → PayloadKind
  | .caseUpdate => .collectionCase
  | .uacUpdate => .accessCode
  | .fulfilment => .fulfilmentRequest
  | .refusal => .refusal
  | .surveyLaunch => .launch
  | .uacAuthenticate => .authentication
  | .surveyUpdate => .survey
  | .collectionExerciseUpdate => .exercise
  | .newCase => .newCase

theorem mem_all (type : EventType) : type ∈ all := by
  cases type <;> decide

end EventType

namespace PayloadKind

/-- The type of event that carries a kind of payload. -/
def eventType : PayloadKind → EventType
  | .collectionCase => .caseUpdate
  | .accessCode => .uacUpdate
  | .fulfilmentRequest => .fulfilment
  | .refusal => .refusal
  | .launch => .surveyLaunch
  | .authentication => .uacAuthenticate
  | .survey => .surveyUpdate
  | .exercise => .collectionExerciseUpdate
  | .newCase => .newCase

/-- The kinds in the order of the types that carry them. -/
def all : List PayloadKind :=
  EventType.all.map EventType.payloadKind

/-- The name of a kind of payload in errors. -/
def name : PayloadKind → String
  | .collectionCase => "CollectionCase"
  | .accessCode => "Uac"
  | .fulfilmentRequest => "FulfilmentRequest"
  | .refusal => "RefusalDetails"
  | .launch => "SurveyLaunchResponse"
  | .authentication => "UacAuthenticateResponse"
  | .survey => "SurveyUpdate"
  | .exercise => "CollectionExercise"
  | .newCase => "NewCasePayloadContent"

/-- The kind with the given name. -/
def ofName? (given : String) : Option PayloadKind :=
  all.find? fun kind => kind.name == given

end PayloadKind

@[simp]
theorem EventType.eventType_payloadKind (type : EventType) :
    type.payloadKind.eventType = type := by
  cases type <;> rfl

@[simp]
theorem PayloadKind.payloadKind_eventType (kind : PayloadKind) :
    kind.eventType.payloadKind = kind := by
  cases kind <;> rfl

end EventRelay
