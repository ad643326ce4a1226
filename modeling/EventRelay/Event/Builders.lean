import EventRelay.Event.Envelope

/-!
# Builders

A builder turns drafts of one event type into envelopes and stored envelopes
back into drafts.  A builder table says for which types this is possible.  A
type can also be withdrawn on purpose; its table entry is then listed but
builds nothing.

Recovering a draft never keeps the stored header's identity, so an envelope
created from it is a new event with the same payload and routing.
-/

namespace EventRelay

/-- Why a stored envelope gives no draft. -/
inductive BuildError where
  | malformed (type : EventType) (fault : Json.Fault)
  | noBuilder (type : EventType)
  deriving DecidableEq

/-- The text of the error. -/
def BuildError.message : BuildError → String
  | .malformed type fault =>
    "envelope JSON for " ++ type.name ++ " could not be parsed: " ++
      fault.message
  | .noBuilder type => "no builder registered for " ++ type.name

/-- Whether and how a table lists an event type. -/
inductive Standing where
  | unlisted
  | withdrawn
  | registered
  deriving DecidableEq

/-- For which event types there is a builder. -/
structure BuilderTable where
  standing : EventType → Standing

namespace BuilderTable

/-- The table that lists no type. -/
def empty : BuilderTable := ⟨fun _ => .unlisted⟩

/-- The table with a builder for every type. -/
def standard : BuilderTable := ⟨fun _ => .registered⟩

/-- Gives one type a standing. -/
def assign (table : BuilderTable) (type : EventType) (standing : Standing) :
    BuilderTable :=
  ⟨fun other => if other = type then standing else table.standing other⟩

/-- Lists a type with a builder. -/
def register (table : BuilderTable) (type : EventType) : BuilderTable :=
  table.assign type .registered

/-- Lists a type without a builder; nothing is built for it from now on. -/
def withdraw (table : BuilderTable) (type : EventType) : BuilderTable :=
  table.assign type .withdrawn

/-- Whether events of a type can be built. -/
def builds (table : BuilderTable) (type : EventType) : Bool :=
  table.standing type == .registered

/-- The listed types in their fixed order, those withdrawn among them. -/
def listed (table : BuilderTable) : List EventType :=
  EventType.all.filter fun type => table.standing type != .unlisted

/--
The envelope of a draft, with the given identifier and time; the payload must
be of the right kind and the type must have a builder.
-/
def create
    (table : BuilderTable) (type : EventType) (draft : Draft)
    (identifier : Identifier) (now : Timestamp) :
    Option Envelope :=
  if table.builds type then
    match Section.wrap type draft.payload with
    | .ok part => some ⟨Header.mint type draft identifier now, part.unwrap⟩
    | .error _ => none
  else none

/-- The draft of a stored envelope. -/
def recover (table : BuilderTable) (type : EventType) (text : String) :
    Except BuildError Draft :=
  if table.builds type then
    match Envelope.decode type.payloadKind text with
    | .ok envelope => .ok envelope.toDraft
    | .error fault => .error (.malformed type fault)
  else .error (.noBuilder type)

/-- The table as part of a description: the listed types. -/
def describe (table : BuilderTable) : String :=
  "BuilderRegistry \x7b event_types: [" ++
    String.intercalate ", " (table.listed.map EventType.title) ++ "] \x7d"

@[simp]
theorem standing_assign_self
    (table : BuilderTable) (type : EventType) (standing : Standing) :
    (table.assign type standing).standing type = standing := by
  simp [assign]

/-- A draft of the right kind gives an envelope where there is a builder. -/
theorem create_eq_some
    {table : BuilderTable} {type : EventType} {draft : Draft}
    (kind : draft.payload.kind = type.payloadKind)
    (built : table.builds type = true) (identifier : Identifier)
    (now : Timestamp) :
    table.create type draft identifier now =
      some ⟨.mint type draft identifier now, draft.payload⟩ := by
  obtain ⟨⟨_, content⟩, source, channel, user⟩ := draft
  subst kind
  simp [create, built, Section.wrap, Section.unwrap]

end BuilderTable

end EventRelay
