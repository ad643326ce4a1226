import EventRelay.Proofs.Json.Number
import EventRelay.Proofs.Settings.Meaning
import Mathlib.Algebra.Order.Field.Basic
import Mathlib.Algebra.Order.Field.Rat

/-!
# What an environment sets up

Nineteen variables set up a publisher, and they are read in a fixed order.  An
environment is accepted exactly when every variable that is set has a text
that means something.  The settings are then what the texts mean, or the
standard values of the variables that are not set; otherwise the error names
the first variable, in the order of reading, whose text means nothing.  Blanks
around a text, and variables with other keys, make no difference.

The reading is taken apart by its steps.  Each step has the requirements of
the variables that it reads, and the requirements of a step and of what comes
after it are put together in order (`Loads.bind`).
-/

namespace EventRelay

open EventRelay.Number

/-! ## Requirements -/

/-- The text of a variable without the blanks around it, if it is set. -/
def Lookup.trimmed (lookup : Lookup) (key : String) : Option String :=
  (lookup key).map Text.trim

/-- A variable and the texts that it may be set to. -/
structure Requirement where
  key : String
  Fits : String → Prop

namespace Requirement

/-- The variable may be set to the texts that mean something. -/
def of {α : Type} (key : String) (Means : String → α → Prop) : Requirement :=
  ⟨key, fun text => ∃ value, Means text value⟩

/-- The variable is unset, or set to a text that it may be set to. -/
def Met (lookup : Lookup) (requirement : Requirement) : Prop :=
  ∀ text ∈ lookup.trimmed requirement.key, requirement.Fits text

/-- What is required of the variables for writes, in reading order. -/
def retry : List Requirement :=
  [.of "CENSUS_BACKUP_MAX_ATTEMPTS" MeansQuota,
    .of "CENSUS_BACKUP_BACKOFF_MULTIPLIER" MeansFactor,
    .of "CENSUS_BACKUP_BACKOFF_INITIAL_MS" MeansPause,
    .of "CENSUS_BACKUP_BACKOFF_MAX_MS" MeansPause]

/-- What is required of the variables of the breaker, in reading order. -/
def breaker : List Requirement :=
  [.of "CENSUS_BREAKER_ENABLED" MeansFlag,
    .of "CENSUS_BREAKER_FAILURE_THRESHOLD" MeansQuota,
    .of "CENSUS_BREAKER_OPEN_MS" MeansPause,
    .of "CENSUS_BREAKER_HALF_OPEN_CALLS" MeansQuota]

/-- The topic of one type of event may be any text but the empty one. -/
def topic (type : EventType) : Requirement :=
  .of ("CENSUS_TOPIC_" ++ type.name) MeansTopic

/-- Any text may stand before the topics. -/
def topicLead : Requirement :=
  .of "CENSUS_TOPIC_PREFIX" (Eq : String → String → Prop)

/-- All variables, in the order in which they are read. -/
def all : List Requirement :=
  [.of "CENSUS_BACKUP_SCHEMA" MeansName] ++ (retry ++ (breaker ++
    ([topicLead] ++ EventType.all.map topic)))

end Requirement

/-- The requirement with the key is the first that is not met. -/
def FirstUnmet
    (lookup : Lookup) (requirements : List Requirement) (key : String) : Prop :=
  ∃ before requirement after,
    requirements = before ++ requirement :: after ∧
      (∀ earlier ∈ before, earlier.Met lookup) ∧
      ¬ requirement.Met lookup ∧ requirement.key = key

/-- Two environments give the variables the same texts, up to blanks. -/
def Lookup.Agrees
    (lookup other : Lookup) (requirements : List Requirement) : Prop :=
  ∀ requirement ∈ requirements,
    other.trimmed requirement.key = lookup.trimmed requirement.key

/--
The value is what the text of a variable means, or its standard value where it
is not set.
-/
def Lookup.Gives {α : Type} (lookup : Lookup) (key : String)
    (Means : String → α → Prop) (standard value : α) : Prop :=
  match lookup.trimmed key with
  | some text => Means text value
  | none => value = standard

/-! ## Reading in order -/

/--
What reading variables in an order comes to: a value of which something holds,
if every requirement is met, or an error that names the first that is not.
-/
inductive Loads {α : Type} (lookup : Lookup) (requirements : List Requirement)
    (Holds : α → Prop) : Except SettingError α → Prop where
  | all {value : α}
      (met : ∀ requirement ∈ requirements, requirement.Met lookup)
      (holds : Holds value) :
      Loads lookup requirements Holds (.ok value)
  | first {error : SettingError}
      (unmet : FirstUnmet lookup requirements error.key) :
      Loads lookup requirements Holds (.error error)

namespace Loads

variable {α β : Type} {lookup : Lookup} {earlier later : List Requirement}
  {Holds : α → Prop} {Follows : β → Prop}

theorem pure {value : α} (holds : Holds value) :
    Loads lookup [] Holds (.ok value) :=
  .all (fun _ member => (List.not_mem_nil member).elim) holds

/-- The variables of a second step are read if those of the first are fine. -/
theorem bind
    {step : Except SettingError α} {next : α → Except SettingError β}
    (loads : Loads lookup earlier Holds step)
    (goesOn : ∀ value, Holds value → Loads lookup later Follows (next value)) :
    Loads lookup (earlier ++ later) Follows (step >>= next) := by
  cases loads with
  | first unmet =>
      obtain ⟨before, requirement, after, rfl, met, unmet, named⟩ := unmet
      exact .first ⟨before, requirement, after ++ later,
        List.append_assoc .., met, unmet, named⟩
  | @all value met holds =>
      show Loads lookup (earlier ++ later) Follows (next value)
      have rest := goesOn value holds
      generalize next value = result at rest
      cases rest with
      | all metLater follows =>
          refine .all (fun requirement member => ?_) follows
          rcases List.mem_append.mp member with member | member
          · exact met requirement member
          · exact metLater requirement member
      | first unmet =>
          obtain ⟨before, requirement, after, rfl, metBefore, unmet, named⟩ :=
            unmet
          refine .first ⟨earlier ++ before, requirement, after,
            (List.append_assoc ..).symm, fun requirement member => ?_, unmet,
            named⟩
          rcases List.mem_append.mp member with member | member
          · exact met requirement member
          · exact metBefore requirement member

/-- What is made of the value of a step needs no further variable. -/
theorem map
    {step : Except SettingError α} {next : α → β}
    (loads : Loads lookup earlier Holds step)
    (follows : ∀ value, Holds value → Follows (next value)) :
    Loads lookup earlier Follows (step >>= fun value => .ok (next value)) := by
  have joined : Loads lookup (earlier ++ []) Follows
      (step >>= fun value => .ok (next value)) :=
    loads.bind fun value holds => .pure (follows value holds)
  rwa [List.append_nil] at joined

theorem imp
    {result : Except SettingError α} {Implied : α → Prop}
    (loads : Loads lookup earlier Holds result)
    (implies : ∀ value, Holds value → Implied value) :
    Loads lookup earlier Implied result := by
  cases loads with
  | all met holds => exact .all met (implies _ holds)
  | first unmet => exact .first unmet

end Loads

/-- A variable is read from its trimmed text. -/
theorem Variable.load_eq
    {α : Type} (setting : Variable α) (lookup : Lookup) :
    setting.load lookup =
      match lookup.trimmed setting.key with
      | none => .ok setting.standard
      | some text =>
        match setting.read text with
        | .ok value => .ok value
        | .error (value, fault) => .error ⟨setting.key, value, fault⟩ := by
  unfold Variable.load Lookup.trimmed
  cases lookup setting.key <;> rfl

theorem Variable.load_congr
    {α : Type} (setting : Variable α) {lookup other : Lookup}
    (same : other.trimmed setting.key = lookup.trimmed setting.key) :
    setting.load other = setting.load lookup := by
  rw [setting.load_eq, setting.load_eq, same]

/-- One variable is read as its text means. -/
theorem Variable.loads
    {α : Type} (setting : Variable α) {Means : String → α → Prop}
    (reads : ∀ {text value}, setting.read text = .ok value ↔ Means text value)
    (lookup : Lookup) :
    Loads lookup [.of setting.key Means]
      (lookup.Gives setting.key Means setting.standard)
      (setting.load lookup) := by
  have met_iff : ∀ requirement ∈ [Requirement.of setting.key Means],
      requirement.Met lookup ↔
        ∀ text ∈ lookup.trimmed setting.key, ∃ value, Means text value := by
    intro requirement member
    cases List.mem_singleton.mp member
    exact Iff.rfl
  rw [setting.load_eq]
  unfold Lookup.Gives
  cases set : lookup.trimmed setting.key with
  | none =>
      rw [set] at met_iff
      exact .all (fun requirement member =>
        (met_iff requirement member).mpr (fun _ absent => nomatch absent)) rfl
  | some text =>
      rw [set] at met_iff
      dsimp only
      cases read : setting.read text with
      | ok value =>
          refine .all (fun requirement member => ?_) (reads.mp read)
          refine (met_iff requirement member).mpr fun other same => ?_
          cases same
          exact ⟨value, reads.mp read⟩
      | error fault =>
          refine .first ⟨[], .of setting.key Means, [], rfl,
            (fun _ member => nomatch member), fun met => ?_, rfl⟩
          obtain ⟨value, means⟩ :=
            (met_iff _ List.mem_cons_self).mp met text rfl
          rw [reads.mpr means] at read
          cases read

/-! ## Retries, breaker and topics -/

/-- Every setting of the retries is what its variable gives. -/
structure RetrySettings.Follows (lookup : Lookup) (settings : RetrySettings) :
    Prop where
  maxAttempts :
    lookup.Gives "CENSUS_BACKUP_MAX_ATTEMPTS" MeansQuota .ten
      settings.maxAttempts
  multiplier :
    lookup.Gives "CENSUS_BACKUP_BACKOFF_MULTIPLIER" MeansFactor .two
      settings.multiplier
  initial :
    lookup.Gives "CENSUS_BACKUP_BACKOFF_INITIAL_MS" MeansPause (.ofMillis 100)
      settings.initial
  longest :
    lookup.Gives "CENSUS_BACKUP_BACKOFF_MAX_MS" MeansPause (.ofMillis 5000)
      settings.longest

/-- Every setting of the breaker is what its variable gives. -/
structure BreakerSettings.Follows
    (lookup : Lookup) (settings : BreakerSettings) : Prop where
  enabled :
    lookup.Gives "CENSUS_BREAKER_ENABLED" MeansFlag true settings.enabled
  failureThreshold :
    lookup.Gives "CENSUS_BREAKER_FAILURE_THRESHOLD" MeansQuota .five
      settings.failureThreshold
  window :
    lookup.Gives "CENSUS_BREAKER_OPEN_MS" MeansPause (.ofMillis 30000)
      settings.window
  probes :
    lookup.Gives "CENSUS_BREAKER_HALF_OPEN_CALLS" MeansQuota .one
      settings.probes

/--
Every type has a topic: the one that is set for it, or else the standard name
behind the prefix.
-/
def TopicTable.Follows (lookup : Lookup) (topics : TopicTable) : Prop :=
  ∀ type : EventType, topics.topicFor type =
    some ((lookup.trimmed ("CENSUS_TOPIC_" ++ type.name)).getD
      ((lookup.trimmed "CENSUS_TOPIC_PREFIX").getD "" ++ type.standardTopic))

theorem RetrySettings.load_congr
    {lookup other : Lookup} (same : lookup.Agrees other Requirement.retry) :
    load other = load lookup := by
  simp only [Lookup.Agrees, Requirement.retry, List.forall_mem_cons] at same
  obtain ⟨maxAttempts, multiplier, initial, longest, -⟩ := same
  unfold load
  rw [Variable.maxAttempts.load_congr maxAttempts,
    Variable.multiplier.load_congr multiplier,
    Variable.initial.load_congr initial, Variable.longest.load_congr longest]

theorem BreakerSettings.load_congr
    {lookup other : Lookup} (same : lookup.Agrees other Requirement.breaker) :
    load other = load lookup := by
  simp only [Lookup.Agrees, Requirement.breaker, List.forall_mem_cons] at same
  obtain ⟨enabled, failureThreshold, window, probes, -⟩ := same
  unfold load
  rw [Variable.breakerEnabled.load_congr enabled,
    Variable.failureThreshold.load_congr failureThreshold,
    Variable.window.load_congr window, Variable.probes.load_congr probes]

theorem assignTopics_congr
    {lookup other : Lookup} {types : List EventType}
    (same : lookup.Agrees other (types.map Requirement.topic))
    (table : TopicTable) :
    assignTopics other types table = assignTopics lookup types table := by
  induction types generalizing table with
  | nil => rfl
  | cons type types induction =>
      obtain ⟨first, rest⟩ := List.forall_mem_cons.mp same
      unfold assignTopics
      rw [(Variable.topic type).load_congr first]
      simp only [induction rest]

theorem TopicTable.load_congr
    {lookup other : Lookup}
    (same : lookup.Agrees other
      ([Requirement.topicLead] ++ EventType.all.map Requirement.topic)) :
    load other = load lookup := by
  obtain ⟨lead, topics⟩ := List.forall_mem_cons.mp same
  unfold load
  rw [Variable.topicLead.load_congr lead]
  simp only [assignTopics_congr topics]

theorem RetrySettings.loads (lookup : Lookup) :
    Loads lookup Requirement.retry (Follows lookup) (load lookup) := by
  refine (Variable.maxAttempts.loads readQuota_eq_ok lookup).bind
    fun maxAttempts counted => ?_
  refine (Variable.multiplier.loads readMultiplier_eq_ok lookup).bind
    fun multiplier grown => ?_
  refine (Variable.initial.loads readMillis_eq_ok lookup).bind
    fun initial begun => ?_
  refine (Variable.longest.loads readMillis_eq_ok lookup).bind
    fun longest capped => ?_
  exact .pure ⟨counted, grown, begun, capped⟩

theorem BreakerSettings.loads (lookup : Lookup) :
    Loads lookup Requirement.breaker (Follows lookup) (load lookup) := by
  refine (Variable.breakerEnabled.loads readFlag_eq_ok lookup).bind
    fun enabled switched => ?_
  refine (Variable.failureThreshold.loads readQuota_eq_ok lookup).bind
    fun failureThreshold counted => ?_
  refine (Variable.window.loads readMillis_eq_ok lookup).bind
    fun window waited => ?_
  refine (Variable.probes.loads readQuota_eq_ok lookup).bind
    fun probes probed => ?_
  exact .pure ⟨switched, counted, waited, probed⟩

/-- Reading the topic of a type gives the text that is set for it. -/
theorem Variable.loads_topic (type : EventType) (lookup : Lookup) :
    Loads lookup [Requirement.topic type]
      (fun topic => topic = lookup.trimmed ("CENSUS_TOPIC_" ++ type.name))
      ((Variable.topic type).load lookup) := by
  have reads {text : String} {topic : Option String} :
      (Variable.topic type).read text = .ok topic ↔ MeansTopic text topic := by
    show (readNonEmpty text).map some = .ok topic ↔ _
    rw [Json.map_eq_ok]
    simp only [readNonEmpty_eq_ok, MeansName, MeansTopic]
    constructor
    · rintro ⟨name, ⟨written, rfl⟩, rfl⟩
      exact ⟨written, rfl⟩
    · rintro ⟨written, rfl⟩
      exact ⟨text, ⟨written, rfl⟩, rfl⟩
  refine ((Variable.topic type).loads reads lookup).imp fun topic gives => ?_
  unfold Lookup.Gives at gives
  show topic = lookup.trimmed (Variable.topic type).key
  split at gives
  next text set => rw [set, gives.2]
  next unset => rw [unset, gives]; rfl

/-- A topic that is set replaces the one that stands in the table. -/
theorem loads_assignTopics
    (lookup : Lookup) (types : List EventType) (table : TopicTable) :
    Loads lookup (types.map Requirement.topic)
      (fun topics => ∀ type, topics.topicFor type =
        if type ∈ types then
          (lookup.trimmed ("CENSUS_TOPIC_" ++ type.name)).or
            (table.topicFor type)
        else table.topicFor type)
      (assignTopics lookup types table) := by
  induction types generalizing table with
  | nil => exact .pure fun type => rfl
  | cons type types induction =>
      refine Loads.bind (Variable.loads_topic type lookup)
        fun topic set => ?_
      cases topic with
      | none =>
          refine (induction table).imp fun topics assigned other => ?_
          rw [assigned other]
          by_cases same : other = type
          · cases same
            simp [← set]
          · simp [same]
      | some topic =>
          refine (induction (table.assign type topic)).imp
            fun topics assigned other => ?_
          rw [assigned other]
          by_cases same : other = type
          · cases same
            simp [← set]
          · simp [same, TopicTable.assign]

theorem TopicTable.loads (lookup : Lookup) :
    Loads lookup
      ([Requirement.topicLead] ++ EventType.all.map Requirement.topic)
      (Follows lookup) (load lookup) := by
  have reads {text lead : String} :
      Variable.topicLead.read text = .ok lead ↔ text = lead :=
    ⟨Except.ok.inj, congrArg Except.ok⟩
  refine (Variable.topicLead.loads reads lookup).bind fun lead leads => ?_
  have given : lead = (lookup.trimmed "CENSUS_TOPIC_PREFIX").getD "" := by
    change lookup.Gives "CENSUS_TOPIC_PREFIX" Eq "" lead at leads
    unfold Lookup.Gives at leads
    split at leads
    next text set => rw [set, leads]; rfl
    next unset => rw [unset, leads]; rfl
  refine (loads_assignTopics lookup _ _).imp fun topics assigned type => ?_
  rw [assigned type, if_pos type.mem_all, ← given]
  cases lookup.trimmed ("CENSUS_TOPIC_" ++ type.name) <;> rfl

/-! ## Settings -/

namespace Settings

/-- Every setting is what its variable gives. -/
structure Follows (lookup : Lookup) (settings : Settings) : Prop where
  schema :
    lookup.Gives "CENSUS_BACKUP_SCHEMA" MeansName "event-backup" settings.schema
  retry : settings.retry.Follows lookup
  breaker : settings.breaker.Follows lookup
  topics : settings.topics.Follows lookup

theorem loads (lookup : Lookup) :
    Loads lookup Requirement.all (Follows lookup) (load lookup) := by
  refine (Variable.schema.loads readNonEmpty_eq_ok lookup).bind
    fun schema named => ?_
  refine (RetrySettings.loads lookup).bind fun retry retried => ?_
  refine (BreakerSettings.loads lookup).bind fun breaker guarded => ?_
  exact (TopicTable.loads lookup).map fun topics routed =>
    ⟨named, retried, guarded, routed⟩

/-- Only the trimmed texts of the variables are looked at. -/
theorem load_congr
    {lookup other : Lookup} (same : lookup.Agrees other Requirement.all) :
    load other = load lookup := by
  obtain ⟨schema, rest⟩ := List.forall_mem_append.mp same
  obtain ⟨retry, rest⟩ := List.forall_mem_append.mp rest
  obtain ⟨breaker, topics⟩ := List.forall_mem_append.mp rest
  unfold load
  rw [Variable.schema.load_congr (schema _ List.mem_cons_self),
    RetrySettings.load_congr retry, BreakerSettings.load_congr breaker,
    TopicTable.load_congr topics]

/-- Blanks around the texts of an environment make no difference. -/
theorem load_padded
    {lookup padded : Lookup}
    (pads : ∀ key, Option.Rel Text.Pads (lookup key) (padded key)) :
    load padded = load lookup := by
  apply load_congr
  intro requirement _
  have around := pads requirement.key
  unfold Lookup.trimmed
  generalize lookup requirement.key = given, padded requirement.key = other
    at around ⊢
  cases around with
  | none => rfl
  | some pads => exact congrArg some (Text.trim_padded pads)

end Settings

/-! ## What settings set up -/

/-- A quota keeps its count in 32 bits. -/
theorem Quota.toNat_ofNat (quota : Quota) :
    (UInt32.ofNat quota.count).toNat = quota.count :=
  UInt32.toNat_ofNat_of_lt quota.bounded

/-- The bound of a policy does not change a quota. -/
theorem Quota.max_ofNat_one (quota : Quota) :
    max (UInt32.ofNat quota.count) 1 = UInt32.ofNat quota.count := by
  have atLeastOne : 1 ≤ UInt32.ofNat quota.count := by
    rw [UInt32.le_iff_toNat_le, quota.toNat_ofNat]
    exact quota.positive
  show (if UInt32.ofNat quota.count ≤ 1 then 1
    else UInt32.ofNat quota.count) = _
  split
  next atMostOne => exact UInt32.le_antisymm atLeastOne atMostOne
  next => rfl

theorem Multiplier.one_le_toRat (factor : Multiplier) :
    1 ≤ factor.number.toRat := by
  have positive : (0 : Rat) < stepsPerOne := by
    exact_mod_cast Json.stepsPerOne_pos
  have above : (stepsPerOne : Rat) ≤ factor.number.steps := by
    exact_mod_cast factor.atLeastOne.2
  unfold Finite.toRat
  rw [factor.atLeastOne.1, Rat.mkRat_eq_div]
  simpa [one_le_div positive] using above

namespace Settings

/--
The policy, the breaker and the tables that settings set up have the values of
the settings, and no bound of the policy changes them.
-/
structure SetsUp (settings : Settings) : Prop where
  schema : settings.archive.schema = settings.schema
  budget : settings.archive.policy.budget = settings.retry.maxAttempts.count
  baseDelay : settings.archive.policy.baseDelay = settings.retry.initial
  maxDelay : settings.archive.policy.maxDelay = settings.retry.longest
  strategy : settings.archive.policy.strategy =
    .exponential (.finite settings.retry.multiplier.number)
  growth :
    Retry.growthFactor (.finite settings.retry.multiplier.number) =
      some settings.retry.multiplier.number.toRat
  breaker : settings.publisher.backup = .enabled
    (if settings.breaker.enabled then
      some (⟨"event-sender", settings.breaker.failureThreshold,
        settings.breaker.window, settings.breaker.probes⟩ : Breaker.Settings)
    else none)
  published : settings.publisher.topics = settings.topics
  replayed : settings.replayer.topics = settings.topics

theorem setsUp (settings : Settings) : settings.SetsUp where
  schema := rfl
  budget := by
    show max (max (UInt32.ofNat settings.retry.maxAttempts.count) 1).toNat 1 = _
    rw [Quota.max_ofNat_one, Quota.toNat_ofNat]
    exact Nat.max_eq_left settings.retry.maxAttempts.positive
  baseDelay := rfl
  maxDelay := rfl
  strategy := rfl
  growth :=
    congrArg some (if_neg settings.retry.multiplier.one_le_toRat.not_gt)
  breaker := rfl
  published := rfl
  replayed := rfl

/--
Loading looks at nothing but the trimmed texts of the variables.  It succeeds
exactly when every variable that is set may be so; the settings and what they
set up are then as the variables say, and otherwise the error names the first
variable, in the order of reading, that may not be set as it is.
-/
theorem load_exact (lookup : Lookup) :
    (∀ other, lookup.Agrees other Requirement.all →
      load other = load lookup) ∧
    ((∃ settings, load lookup = .ok settings) ↔
      ∀ requirement ∈ Requirement.all, requirement.Met lookup) ∧
    (∀ settings, load lookup = .ok settings →
      settings.Follows lookup ∧ settings.SetsUp) ∧
    ∀ error, load lookup = .error error →
      FirstUnmet lookup Requirement.all error.key := by
  have loaded := loads lookup
  refine ⟨fun other same => load_congr same, ?_⟩
  generalize load lookup = result at loaded
  cases loaded with
  | @all settings met follows =>
      refine ⟨⟨fun _ => met, fun _ => ⟨settings, rfl⟩⟩, ?_, ?_⟩
      · intro other same
        cases same
        exact ⟨follows, settings.setsUp⟩
      · intro error never
        cases never
  | @first error unmet =>
      refine ⟨⟨?_, ?_⟩, ?_, ?_⟩
      · rintro ⟨settings, never⟩
        cases never
      · intro met
        obtain ⟨before, requirement, after, order, -, failed, -⟩ := unmet
        have member : requirement ∈ Requirement.all := by
          rw [order]
          exact List.mem_append_right _ List.mem_cons_self
        exact (failed (met requirement member)).elim
      · intro settings never
        cases never
      · intro other same
        cases same
        exact unmet

/-- Where nothing is set, every setting has its standard value. -/
example : load (fun _ => none) = .ok .standard := rfl

/-- A count may have blanks around it, here a space and the end of a line. -/
example :
    (load fun key =>
        if key = "CENSUS_BACKUP_MAX_ATTEMPTS" then some " 3\n" else none).map
        (fun settings => settings.retry.maxAttempts.count) =
      .ok 3 := by
  decide

end Settings

end EventRelay
