import EventRelay.Replay
import EventRelay.Settings.Variable

/-!
# Settings

The settings of a publisher with backup come from variables, each of which has
a standard value.  The variables are read in a fixed order and the first that
is not acceptable is the error.  A prefix for topics goes before the standard
name of each, and a topic that is set for one type of event replaces the whole
name.

The settings then set up the archive, the breaker, the publisher and the
replayer.  Publisher and replayer send to the same topics.
-/

namespace EventRelay

/-- How writes to the archive are tried again. -/
structure RetrySettings where
  maxAttempts : Quota
  initial : Duration
  multiplier : Multiplier
  longest : Duration
  deriving DecidableEq

/-- Whether a breaker stands before the transport, and how it is set up. -/
structure BreakerSettings where
  enabled : Bool
  failureThreshold : Quota
  window : Duration
  probes : Quota
  deriving DecidableEq

/-- The settings of a publisher with backup. -/
structure Settings where
  retry : RetrySettings
  schema : String
  breaker : BreakerSettings
  topics : TopicTable
  deriving DecidableEq

/-- The settings for writes where no variable is set. -/
def RetrySettings.standard : RetrySettings :=
  ⟨.ten, .ofMillis 100, .two, .ofMillis 5000⟩

/-- The settings of the breaker where no variable is set. -/
def BreakerSettings.standard : BreakerSettings :=
  ⟨true, .five, .ofMillis 30000, .one⟩

/-- The settings where no variable is set. -/
def Settings.standard : Settings :=
  ⟨.standard, Archive.standardSchema, .standard, .standard⟩

namespace Variable

/-- The schema of the archive. -/
def schema : Variable String :=
  ⟨"CENSUS_BACKUP_SCHEMA", Archive.standardSchema, readNonEmpty⟩

/-- How often a write is tried. -/
def maxAttempts : Variable Quota :=
  ⟨"CENSUS_BACKUP_MAX_ATTEMPTS", RetrySettings.standard.maxAttempts, readQuota⟩

/-- The growth of the pauses between writes. -/
def multiplier : Variable Multiplier :=
  ⟨"CENSUS_BACKUP_BACKOFF_MULTIPLIER", RetrySettings.standard.multiplier,
    readMultiplier⟩

/-- The first pause between writes. -/
def initial : Variable Duration :=
  ⟨"CENSUS_BACKUP_BACKOFF_INITIAL_MS", RetrySettings.standard.initial,
    readMillis⟩

/-- The longest pause between writes. -/
def longest : Variable Duration :=
  ⟨"CENSUS_BACKUP_BACKOFF_MAX_MS", RetrySettings.standard.longest, readMillis⟩

/-- Whether there is a breaker. -/
def breakerEnabled : Variable Bool :=
  ⟨"CENSUS_BREAKER_ENABLED", BreakerSettings.standard.enabled, readFlag⟩

/-- Failures in a row that open the breaker. -/
def failureThreshold : Variable Quota :=
  ⟨"CENSUS_BREAKER_FAILURE_THRESHOLD",
    BreakerSettings.standard.failureThreshold, readQuota⟩

/-- How long the open breaker rejects calls. -/
def window : Variable Duration :=
  ⟨"CENSUS_BREAKER_OPEN_MS", BreakerSettings.standard.window, readMillis⟩

/-- Probes of the half-open breaker. -/
def probes : Variable Quota :=
  ⟨"CENSUS_BREAKER_HALF_OPEN_CALLS", BreakerSettings.standard.probes, readQuota⟩

/-- What stands before the standard name of every topic. -/
def topicLead : Variable String :=
  ⟨"CENSUS_TOPIC_PREFIX", "", readAny⟩

/-- The topic of one type of event, if it replaces the standard name. -/
def topic (type : EventType) : Variable (Option String) :=
  ⟨"CENSUS_TOPIC_" ++ type.name, none, fun text => (readNonEmpty text).map some⟩

end Variable

/-- Loads the settings for writes; the multiplier is read before the pauses. -/
def RetrySettings.load (lookup : Lookup) :
    Except SettingError RetrySettings := do
  let maxAttempts ← Variable.maxAttempts.load lookup
  let multiplier ← Variable.multiplier.load lookup
  let initial ← Variable.initial.load lookup
  let longest ← Variable.longest.load lookup
  return ⟨maxAttempts, initial, multiplier, longest⟩

/-- Loads the settings of the breaker, whether it is enabled first. -/
def BreakerSettings.load (lookup : Lookup) :
    Except SettingError BreakerSettings := do
  let enabled ← Variable.breakerEnabled.load lookup
  let failureThreshold ← Variable.failureThreshold.load lookup
  let window ← Variable.window.load lookup
  let probes ← Variable.probes.load lookup
  return ⟨enabled, failureThreshold, window, probes⟩

/-- Gives types the topics that are set for them. -/
def assignTopics (lookup : Lookup) :
    List EventType → TopicTable → Except SettingError TopicTable
  | [], table => .ok table
  | type :: types, table => do
    match ← (Variable.topic type).load lookup with
    | some topic => assignTopics lookup types (table.assign type topic)
    | none => assignTopics lookup types table

/--
Loads the topics: the words before all of them, then those set for one type.
-/
def TopicTable.load (lookup : Lookup) : Except SettingError TopicTable := do
  let lead ← Variable.topicLead.load lookup
  assignTopics lookup EventType.all (.standardBehind lead)

namespace Settings

/--
Loads all settings; the first variable that is not acceptable is the error.
-/
def load (lookup : Lookup) : Except SettingError Settings := do
  let schema ← Variable.schema.load lookup
  let retry ← RetrySettings.load lookup
  let breaker ← BreakerSettings.load lookup
  let topics ← TopicTable.load lookup
  return ⟨retry, schema, breaker, topics⟩

end Settings

/-- The policy for writes to the archive. -/
def RetrySettings.policy (settings : RetrySettings) : Retry.Policy :=
  .exponential (UInt32.ofNat settings.maxAttempts.count) settings.initial
    (.finite settings.multiplier.number) settings.longest

/-- The breaker under the given name, if there is one. -/
def BreakerSettings.breaker (settings : BreakerSettings) (name : String) :
    Option Breaker.Setup :=
  if settings.enabled then
    some (⟨name, settings.failureThreshold, settings.window, settings.probes⟩ :
      Breaker.Settings)
  else none

namespace Settings

/-- The archive that the settings set up. -/
def archive (settings : Settings) : Archive :=
  ⟨settings.retry.policy, settings.schema⟩

/-- The publisher with backup that the settings set up. -/
def publisher (settings : Settings) : Publisher :=
  { Publisher.withBackup (settings.breaker.breaker "event-sender")
    with topics := settings.topics }

/-- The replayer with the topics of the settings and every builder. -/
def replayer (settings : Settings) : Replayer :=
  { Replayer.standard with topics := settings.topics }

end Settings

end EventRelay
