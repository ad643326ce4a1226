import EventRelay.Event.Builders

/-!
# Builders in a registry

A builder table only tells for which types there is a builder.  Here are the
builders that it speaks of.  An envelope holds a section of one of nine shapes,
and a shape has its own type of event and its own kind of payload.  A builder
makes envelopes of one shape, or none on purpose.

A registry files builders under types of event: a builder of some shape under
the type of its shape, and a builder that makes nothing under the type that is
withdrawn.  A type without an entry is served by a builder that makes nothing.
-/

namespace EventRelay

/-- The shapes of the sections that envelopes hold. -/
inductive SectionShape where
  | caseUpdate
  | uacUpdate
  | fulfilment
  | refusal
  | surveyLaunch
  | uacAuthenticate
  | surveyUpdate
  | collectionExerciseUpdate
  | newCase
  deriving DecidableEq

namespace SectionShape

/-- The shapes in the order in which their builders are registered. -/
def all : List SectionShape :=
  [.caseUpdate, .uacUpdate, .fulfilment, .refusal, .surveyLaunch,
    .uacAuthenticate, .surveyUpdate, .collectionExerciseUpdate, .newCase]

/-- The type of event whose envelopes have the shape. -/
def eventType : SectionShape → EventType
  | .caseUpdate => .caseUpdate
  | .uacUpdate => .uacUpdate
  | .fulfilment => .fulfilment
  | .refusal => .refusal
  | .surveyLaunch => .surveyLaunch
  | .uacAuthenticate => .uacAuthenticate
  | .surveyUpdate => .surveyUpdate
  | .collectionExerciseUpdate => .collectionExerciseUpdate
  | .newCase => .newCase

/-- The kind of payload that a section of the shape holds. -/
def payloadKind : SectionShape → PayloadKind
  | .caseUpdate => .collectionCase
  | .uacUpdate => .accessCode
  | .fulfilment => .fulfilmentRequest
  | .refusal => .refusal
  | .surveyLaunch => .launch
  | .uacAuthenticate => .authentication
  | .surveyUpdate => .survey
  | .collectionExerciseUpdate => .exercise
  | .newCase => .newCase

/-- A section of a shape, with its payload in it. -/
structure Filled (shape : SectionShape) where
  content : shape.payloadKind.Content

/--
Puts a payload into a section of the shape, or gives it back when it is of
another kind.
-/
def wrap (shape : SectionShape) (payload : Payload) :
    Except Payload shape.Filled :=
  match payload.contentOf? shape.payloadKind with
  | some content => .ok ⟨content⟩
  | none => .error payload

/-- The payload that a section holds. -/
def Filled.payload {shape : SectionShape} (filled : shape.Filled) : Payload :=
  ⟨shape.payloadKind, filled.content⟩

end SectionShape

/-- An envelope with a section of one of the shapes. -/
structure ShapedEnvelope where
  shape : SectionShape
  header : Header
  filled : shape.Filled

namespace ShapedEnvelope

/-- The payload that the section of the envelope holds. -/
def payload (envelope : ShapedEnvelope) : Payload :=
  envelope.filled.payload

/-- The envelope taken apart. -/
def intoParts (envelope : ShapedEnvelope) : Header × Payload :=
  (envelope.header, envelope.filled.payload)

/-- The envelope without its shape, which the payload tells as well. -/
def toEnvelope (envelope : ShapedEnvelope) : Envelope :=
  ⟨envelope.header, envelope.payload⟩

end ShapedEnvelope

/-- What makes envelopes of one shape, or none for a type of event. -/
inductive Builder where
  | shaped (shape : SectionShape)
  | null (type : EventType)
  deriving DecidableEq

namespace Builder

/-- The envelope of a draft, with the given identifier and time. -/
def create
    (builder : Builder) (draft : Draft) (identifier : Identifier)
    (now : Timestamp) :
    Option ShapedEnvelope :=
  match builder with
  | .shaped shape =>
    match shape.wrap draft.payload with
    | .ok filled =>
        some ⟨shape, .mint shape.eventType draft identifier now, filled⟩
    | .error _ => none
  | .null _ => none

/-- The draft of a stored envelope. -/
def recover (builder : Builder) (text : String) : Except BuildError Draft :=
  match builder with
  | .shaped shape =>
    match Envelope.decode shape.payloadKind text with
    | .ok envelope => .ok envelope.toDraft
    | .error fault => .error (.malformed shape.eventType fault)
  | .null type => .error (.noBuilder type)

end Builder

/-- Builders, each filed under a type of event. -/
structure Registry where
  filed : EventType → Option Builder

/-- A call that changes a registry. -/
inductive RegistryCall where
  | register (shape : SectionShape)
  | withdraw (type : EventType)
  deriving DecidableEq

/-- The type of event that a call names. -/
def RegistryCall.type : RegistryCall → EventType
  | .register shape => shape.eventType
  | .withdraw type => type

namespace Registry

/-- The registry in which nothing is filed. -/
def empty : Registry := ⟨fun _ => none⟩

/-- Files a builder under a type, in the place of the one that is there. -/
def file (registry : Registry) (type : EventType) (builder : Builder) :
    Registry :=
  ⟨fun other => if other = type then some builder else registry.filed other⟩

/-- Files the builder of a shape under the type of the shape. -/
def register (registry : Registry) (shape : SectionShape) : Registry :=
  registry.file shape.eventType (.shaped shape)

/-- Files a builder that makes nothing under a type. -/
def withdraw (registry : Registry) (type : EventType) : Registry :=
  registry.file type (.null type)

/-- The registry with a builder of every shape. -/
def standard : Registry :=
  SectionShape.all.foldl register empty

/-- The builder for a type; one that makes nothing where none is filed. -/
def builderFor (registry : Registry) (type : EventType) : Builder :=
  (registry.filed type).getD (.null type)

/-- Makes one call. -/
def perform (registry : Registry) : RegistryCall → Registry
  | .register shape => registry.register shape
  | .withdraw type => registry.withdraw type

/-- The registry after calls, made one after the other. -/
def after (registry : Registry) (calls : List RegistryCall) : Registry :=
  calls.foldl perform registry

end Registry

end EventRelay
