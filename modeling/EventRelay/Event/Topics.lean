import EventRelay.Event.Kind
import EventRelay.Text.Quoted

/-!
# Topics

Events are sent to topics, and a topic table says which topic the events of
each type go to.  The standard table has a topic for every type.  Tables can
rename topics or leave types without one; events of such a type cannot be
sent.
-/

namespace EventRelay

/-- The standard topic of an event type. -/
def EventType.standardTopic : EventType → String
  | .caseUpdate => "event_case-update"
  | .uacUpdate => "event_uac-update"
  | .fulfilment => "event_fulfilment"
  | .refusal => "event_refusal"
  | .surveyLaunch => "event_survey-launch"
  | .uacAuthenticate => "event_uac-authenticate"
  | .surveyUpdate => "event_survey-update"
  | .collectionExerciseUpdate => "event_collection-exercise-update"
  | .newCase => "event_new-case"

/-- The event type with the given standard topic. -/
def EventType.ofStandardTopic? (topic : String) : Option EventType :=
  EventType.all.find? fun type => type.standardTopic == topic

/-- Which topic the events of each type are sent to. -/
structure TopicTable where
  topicFor : EventType → Option String

namespace TopicTable

/-- The table in which no type has a topic. -/
def empty : TopicTable := ⟨fun _ => none⟩

/-- The standard topics, each behind the given words. -/
def standardBehind (lead : String) : TopicTable :=
  ⟨fun type => some (lead ++ type.standardTopic)⟩

/-- The table that gives every type its standard topic. -/
def standard : TopicTable := standardBehind ""

/-- Sends the events of one type to the given topic. -/
def assign (table : TopicTable) (type : EventType) (topic : String) :
    TopicTable :=
  ⟨fun other => if other = type then some topic else table.topicFor other⟩

/-- Leaves the events of one type without a topic. -/
def withdraw (table : TopicTable) (type : EventType) : TopicTable :=
  ⟨fun other => if other = type then none else table.topicFor other⟩

/-- The types that have a topic, in their fixed order, with their topics. -/
def entries (table : TopicTable) : List (EventType × String) :=
  EventType.all.filterMap fun type =>
    (table.topicFor type).map fun topic => (type, topic)

/-- The number of types that have a topic. -/
def size (table : TopicTable) : Nat :=
  table.entries.length

/-- Two tables with the same entries are equal. -/
theorem eq_of_forall
    {left right : TopicTable}
    (same : ∀ type ∈ EventType.all, left.topicFor type = right.topicFor type) :
    left = right := by
  cases left
  cases right
  simp only [TopicTable.mk.injEq]
  funext type
  exact same type type.mem_all

instance : DecidableEq TopicTable := fun left right =>
  if same : ∀ type ∈ EventType.all,
      left.topicFor type = right.topicFor type then
    isTrue (eq_of_forall same)
  else isFalse fun equal => same fun _ _ => equal ▸ rfl

/-- The table as part of a description: each type with its quoted topic. -/
def describe (table : TopicTable) : String :=
  "TopicMap \x7b topics: \x7b" ++
    String.intercalate ", "
      (table.entries.map fun entry =>
        entry.1.title ++ ": " ++ Text.quoted entry.2) ++
    "\x7d \x7d"

@[simp]
theorem topicFor_assign_self
    (table : TopicTable) (type : EventType) (topic : String) :
    (table.assign type topic).topicFor type = some topic := by
  simp [assign]

@[simp]
theorem topicFor_withdraw_self (table : TopicTable) (type : EventType) :
    (table.withdraw type).topicFor type = none := by
  simp [withdraw]

end TopicTable

end EventRelay
