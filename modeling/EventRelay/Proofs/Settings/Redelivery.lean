import EventRelay.Proofs.Publisher.Account
import EventRelay.Proofs.Publisher.Rebuilding
import EventRelay.Proofs.Relay.Soundness
import EventRelay.Proofs.Replay.Calls
import EventRelay.Settings.Basic

/-!
# Delivery through backup and replay

The publisher and the replayer that settings set up deliver the same event.
An event that was kept is written to a text, filed in a document, found there
by a scan, read again and made into a new envelope.  That envelope goes to the
topic and has the routing and the section text that the event would have had
if it had been sent directly; only its identity and its time are its own.
-/

namespace EventRelay

open EventRelay.Store

variable {ρ σ τ ν : Type}

/-! ## Topics -/

/-- There is a topic for every type. -/
def TopicTable.Total (table : TopicTable) : Prop :=
  ∀ type, ∃ topic, table.topicFor type = some topic

theorem TopicTable.Total.assign
    {table : TopicTable} (total : table.Total) (type : EventType)
    (topic : String) :
    (table.assign type topic).Total := by
  intro other
  by_cases same : other = type
  · exact ⟨topic, if_pos same⟩
  · obtain ⟨standing, routed⟩ := total other
    exact ⟨standing, (if_neg same).trans routed⟩

/-- Setting topics takes none away. -/
theorem TopicTable.Total.assignTopics
    {lookup : Lookup} {types : List EventType} {table topics : TopicTable}
    (total : table.Total)
    (assigned : assignTopics lookup types table = .ok topics) :
    topics.Total := by
  induction types generalizing table with
  | nil =>
      cases assigned
      exact total
  | cons type types induction =>
      obtain ⟨chosen, _, others⟩ := Json.bind_eq_ok.mp assigned
      cases chosen with
      | none => exact induction total others
      | some topic => exact induction (total.assign type topic) others

theorem Settings.total_topics
    {lookup : Lookup} {settings : Settings}
    (loaded : Settings.load lookup = .ok settings) :
    settings.topics.Total := by
  unfold Settings.load TopicTable.load at loaded
  obtain ⟨schema, _, loaded⟩ := Json.bind_eq_ok.mp loaded
  obtain ⟨retry, _, loaded⟩ := Json.bind_eq_ok.mp loaded
  obtain ⟨breaker, _, loaded⟩ := Json.bind_eq_ok.mp loaded
  obtain ⟨topics, routed, same⟩ := Json.bind_eq_ok.mp loaded
  obtain ⟨lead, _, assigned⟩ := Json.bind_eq_ok.mp routed
  cases same
  have standard : (TopicTable.standardBehind lead).Total :=
    fun type => ⟨lead ++ type.standardTopic, rfl⟩
  exact standard.assignTopics assigned

/-! ## Deliveries of one event -/

namespace Delivery

/-- The call hands over an envelope of a draft, with some identity. -/
structure Carries
    (delivery : Delivery) (topic : String) (type : EventType) (draft : Draft) :
    Prop where
  topic : delivery.topic = topic
  header : ∃ identifier now,
    delivery.envelope.header = .mint type draft identifier now
  kind : delivery.envelope.payload.kind = draft.payload.kind
  text : delivery.envelope.payload.sectionText = draft.payload.sectionText

/--
Two calls differ in nothing but the identity and the time of their envelopes,
and their outcomes.
-/
structure Repeats (again first : Delivery) : Prop where
  topic : again.topic = first.topic
  header : again.envelope.header =
    { first.envelope.header with
      time := again.envelope.header.time
      messageId := again.envelope.header.messageId
      correlationId := again.envelope.header.correlationId }
  kind : again.envelope.payload.kind = first.envelope.payload.kind
  text :
    again.envelope.payload.sectionText = first.envelope.payload.sectionText

theorem Carries.repeats
    {again first : Delivery} {topic : String} {type : EventType} {draft : Draft}
    (carriesAgain : again.Carries topic type draft)
    (carriesFirst : first.Carries topic type draft) :
    again.Repeats first := by
  obtain ⟨identifier, now, header⟩ := carriesAgain.header
  obtain ⟨other, earlier, original⟩ := carriesFirst.header
  refine ⟨carriesAgain.topic.trans carriesFirst.topic.symm, ?_,
    carriesAgain.kind.trans carriesFirst.kind.symm,
    carriesAgain.text.trans carriesFirst.text.symm⟩
  rw [header, original]
  rfl

end Delivery

/-! ## Direct delivery -/

namespace Publisher

variable {publisher : Publisher} {type : EventType} {draft : Draft}
  {topic : String}

/-- Publishing leaves the transport as sending leaves it. -/
theorem Publishes.sending_eq
    {transport : Transport σ} {vault : Vault ν} {envelope : Envelope}
    {world after : World σ ν} {answer : Except PublishError Identifier}
    (publishes :
      Publishes publisher transport vault type topic envelope world
        (answer, after)) :
    ∃ outcome,
      publisher.sending transport topic envelope world =
        (outcome, after.transport) := by
  cases publishes with
  | sent state ticked breaker taken => exact ⟨_, taken⟩
  | told state ticked breaker cause backup failed => exact ⟨_, failed⟩
  | kept state ticked breaker cause contents backup failed => exact ⟨_, failed⟩
  | lost state ticked breaker cause second contents backup failed =>
      exact ⟨_, failed⟩

/--
Publishing a draft that passes the checks hands over one envelope of it, unless
the breaker rejects.
-/
theorem handed_publish
    (passes : publisher.Passes type draft topic)
    {world : World (σ × List Delivery) ν}
    (permitted : publisher.rejection? world = none)
    (transport : Transport σ) (vault : Vault ν) :
    ∃ delivery,
      handed world
          (publisher.publish transport.recorded vault type draft world).2 =
        [delivery] ∧
      delivery.Carries topic type draft := by
  have outcome := publishes passes transport.recorded vault world
  generalize publisher.publish transport.recorded vault type draft world =
    result at outcome ⊢
  obtain ⟨answer, after⟩ := result
  obtain ⟨_, sent⟩ := outcome.sending_eq
  rcases publisher.sending_recorded transport topic
      (world.supply.envelope type draft) world with
    ⟨cause, rejected, _⟩ | ⟨_, taken, state, called⟩
  · rw [permitted] at rejected
    cases rejected
  · rw [called] at sent
    obtain ⟨_, final⟩ := Prod.mk.inj sent
    refine ⟨_, handed_eq (congrArg Prod.snd final).symm, ?_⟩
    exact ⟨rfl, ⟨_, _, rfl⟩, rfl, rfl⟩

/-! ## Filing and finding -/

/-- A record that an archive keeps is filed under its identifier. -/
theorem find?_kept
    {transport : Transport σ} {archive : Archive}
    {before after : World σ (Backend × List Keeping)} {identifier : Identifier}
    {keeping : Keeping}
    (published :
      publisher.publish transport archive.vault.recorded type draft before =
        (.ok identifier, after))
    (diverted : after.vault.2 = before.vault.2 ++ [keeping]) :
    after.vault.1.documents.find? archive.schema keeping.record.messageId =
      some (BackupRecord.codec.toDocument keeping.record) := by
  obtain ⟨_, _, _, held⟩ := kept_envelope published diverted
  rcases Relay.keep_cases archive keeping.type keeping.envelope
      keeping.failedAt before.vault.1 with
    ⟨cause, backend, failed, _⟩ | ⟨backend, taken, written⟩
  · rw [held] at failed
    cases failed
  · rw [held] at taken
    obtain rfl : after.vault.1 = backend := (Prod.mk.inj taken).2
    rw [written]
    exact Documents.find?_put_self _ _ _ _

end Publisher

/-- A scan gives a record to be sent that is filed somewhere unstamped. -/
theorem Archive.mem_unsent_of_find?
    {archive : Archive} {backend after : Backend} {key : String}
    {record : BackupRecord} {scan : Scan} (storable : record.Storable)
    (unsent : record.isSent = false)
    (found :
      backend.documents.find? archive.schema key =
        some (BackupRecord.codec.toDocument record))
    (scanned : archive.scan backend = (.ok scan, after)) :
    record ∈ scan.unsent := by
  have fares := archive.scan_fares backend
  rw [scanned] at fares
  cases fares with
  | answered =>
      refine Archive.mem_unsent_iff.mpr ⟨unsent, _, ?_,
        Archive.decode_toDocument storable⟩
      exact List.mem_map.mpr ⟨_, Dictionary.mem_of_find? found, rfl⟩

/-! ## Delivery by replay -/

/--
The text of a kept event gives its draft with the payload settled, unless it
opens too much.
-/
theorem Supply.recover_envelope
    {supply : Supply} (valid : supply.now.1.Valid) {type : EventType}
    {draft : Draft} (kind : draft.payload.kind = type.payloadKind)
    (proper : draft.payload.Proper) (steady : draft.payload.Steady) :
    BuilderTable.standard.recover type (supply.envelope type draft).encode =
      if draft.payload.nesting + 2 ≤ Json.nestingLimit then
        .ok { draft with payload := draft.payload.settled }
      else .error (.malformed type .malformed) := by
  have header :
      (Header.mint type draft supply.mint.1 supply.now.1).time.Valid :=
    valid
  exact Envelope.recover_encode_of_proper kind header proper steady

namespace Settings

variable {settings : Settings} {type : EventType} {draft : Draft}

/--
Every call at the turn of the record of a kept event hands over an envelope of
the draft that the event was made of.
-/
theorem carries_of_mem_passCalls
    {topic : String} (routed : settings.topics.topicFor type = some topic)
    (kind : draft.payload.kind = type.payloadKind)
    (proper : draft.payload.Proper) (steady : draft.payload.Steady)
    {supply : Supply} (valid : supply.now.1.Valid) {failedAt : Timestamp}
    {transport : Transport σ} {archive : Archive}
    {world : World (σ × List Delivery) Backend} {delivery : Delivery}
    (member :
      (.ofFailedSend type (supply.envelope type draft) failedAt, delivery) ∈
        settings.replayer.passCalls transport archive world) :
    delivery.Carries topic type draft := by
  obtain ⟨later, _, hands, among⟩ := Replayer.hands_of_mem_passCalls member
  cases hands with
  | nothing => cases among
  | envelope again other outcome recovered passes =>
      obtain rfl := List.mem_singleton.mp among
      have sameTopic : some other = some topic :=
        passes.routed.symm.trans routed
      have sameDraft :
          again = { draft with payload := draft.payload.settled } := by
        have rebuilt :
            BuilderTable.standard.recover type
                (supply.envelope type draft).encode =
              .ok again :=
          recovered
        rw [Supply.recover_envelope valid kind proper steady] at rebuilt
        -- A text that opens too much gives no draft, and makes no call.
        split at rebuilt
        · exact (Except.ok.inj rebuilt).symm
        · cases rebuilt
      rw [sameDraft]
      exact ⟨Option.some.inj sameTopic, ⟨_, _, rfl⟩, rfl,
        draft.payload.sectionText_settled⟩

/-- The turn of the record of a kept event makes a call if its text is read. -/
theorem exists_mem_passCalls
    {topic : String} (routed : settings.topics.topicFor type = some topic)
    (kind : draft.payload.kind = type.payloadKind)
    (proper : draft.payload.Proper) (steady : draft.payload.Steady)
    (fits : draft.payload.nesting + 2 ≤ Json.nestingLimit) {supply : Supply}
    (valid : supply.now.1.Valid) {failedAt : Timestamp}
    {transport : Transport σ} {archive : Archive}
    {world : World (σ × List Delivery) Backend} {scan : Scan}
    {backend : Backend}
    (scanned : archive.scan world.vault = (.ok scan, backend))
    (listed :
      .ofFailedSend type (supply.envelope type draft) failedAt ∈ scan.unsent) :
    ∃ delivery,
      (.ofFailedSend type (supply.envelope type draft) failedAt, delivery) ∈
        settings.replayer.passCalls transport archive world := by
  have recovered := Supply.recover_envelope valid kind proper steady
  rw [if_pos fits] at recovered
  have passes :
      settings.replayer.publisher.Passes type
        { draft with payload := draft.payload.settled } topic :=
    ⟨kind, routed, rfl⟩
  exact Replayer.exists_mem_passCalls scanned listed recovered passes

/--
What settings that were loaded deliver through backup and replay repeats what
they deliver directly.  Let a publication give an event to the archive, and let
nothing have touched its document since.  A later pass makes calls over its own
transport.  Those at the turn of the record repeat the one call that publishing
the draft directly makes wherever the breaker lets it pass.

Such calls are made: a scan that works gives the record to the pass, and its
turn makes a call where its text may open two more levels around the payload.
-/
theorem replayed_repeats_direct
    {lookup : Lookup} (loaded : Settings.load lookup = .ok settings)
    (kind : draft.payload.kind = type.payloadKind)
    (proper : draft.payload.Proper) (steady : draft.payload.Steady)
    {sender : Transport σ}
    {before after : World (σ × List Delivery) (Backend × List Keeping)}
    {identifier : Identifier} {keeping : Keeping}
    (clock : ∀ reading, (before.supply.times reading).Valid)
    (published :
      settings.publisher.publish sender.recorded
          settings.archive.vault.recorded type draft before =
        (.ok identifier, after))
    (diverted : after.vault.2 = before.vault.2 ++ [keeping])
    (resender : Transport τ) {later : World (τ × List Delivery) Backend}
    (waiting :
      later.vault.documents.find? settings.archive.schema
          keeping.record.messageId =
        after.vault.1.documents.find? settings.archive.schema
          keeping.record.messageId)
    (direct : Transport ρ) (vault : Vault ν)
    {start : World (ρ × List Delivery) ν}
    (permitted : settings.publisher.rejection? start = none) :
    ∃ first,
      handed start
          (settings.publisher.publish direct.recorded vault type draft
            start).2 =
        [first] ∧
      handed later
          (settings.replayer.replayAll resender.recorded settings.archive
            later).2 =
        (settings.replayer.passCalls resender settings.archive later).map
          Prod.snd ∧
      (∀ again,
        (keeping.record, again) ∈
            settings.replayer.passCalls resender settings.archive later →
          again.Repeats first) ∧
      ∀ scan backend,
        settings.archive.scan later.vault = (.ok scan, backend) →
          keeping.record ∈ scan.unsent ∧
            (draft.payload.nesting + 2 ≤ Json.nestingLimit →
              ∃ again,
                (keeping.record, again) ∈
                  settings.replayer.passCalls resender settings.archive
                    later) := by
  obtain ⟨topic, routed⟩ := total_topics loaded type
  obtain ⟨ownType, ownEnvelope, ⟨reading, failedAt⟩, _⟩ :=
    Publisher.kept_envelope published diverted
  have filed := Publisher.find?_kept published diverted
  have valid : before.supply.now.1.Valid := clock before.supply.timed
  have record :
      keeping.record =
        .ofFailedSend type (before.supply.envelope type draft)
          keeping.failedAt := by
    unfold Keeping.record
    rw [ownType, ownEnvelope]
  have storable : keeping.record.Storable :=
    BackupRecord.storable_ofFailedSend _ _ (failedAt ▸ clock reading)
  have passes : settings.publisher.Passes type draft topic :=
    ⟨kind, routed, rfl⟩
  obtain ⟨first, called, carries⟩ :=
    Publisher.handed_publish passes permitted direct vault
  have seen :=
    settings.replayer.handed_replayAll resender settings.archive later
  refine ⟨first, called, seen, ?_, ?_⟩
  · intro again member
    rw [record] at member
    have carriesAgain :=
      carries_of_mem_passCalls routed kind proper steady valid member
    exact carriesAgain.repeats carries
  · intro scan backend scanned
    have listed : keeping.record ∈ scan.unsent :=
      Archive.mem_unsent_of_find? storable rfl (waiting.trans filed) scanned
    refine ⟨listed, ?_⟩
    intro fits
    rw [record] at listed ⊢
    exact exists_mem_passCalls routed kind proper steady fits valid scanned
      listed

/-! ## A survey kept during an outage -/

/-- Only a prefix for topics is set. -/
def leadOnly : Lookup := fun key =>
  if key = "CENSUS_TOPIC_PREFIX" then some "it-" else none

/-- The settings that are loaded where only the prefix is set. -/
def behindLead : Settings :=
  { standard with topics := .standardBehind "it-" }

/-- A survey whose metadata are there and are null. -/
def openSurvey : Draft :=
  ⟨⟨.survey, (⟨"", none, none, none, some .null⟩ : Survey)⟩, .sampleLoader,
    .rm, some "user"⟩

/-- A watched outside whose transport fails and whose archive is empty. -/
def outage : World (Memory.Sender × List Delivery) (Backend × List Keeping) :=
  ⟨.still ⟨0, 0, 0⟩, (.initial .always, []), (.empty, []), .initial⟩

/-- The outside after the survey was published during the outage. -/
def afterOutage :
    World (Memory.Sender × List Delivery) (Backend × List Keeping) :=
  (behindLead.publisher.publish Memory.transport.recorded
    behindLead.archive.vault.recorded .surveyUpdate openSurvey outage).2

/-- What the archive is given for the survey. -/
def keptSurvey : Keeping :=
  ⟨.surveyUpdate, outage.supply.envelope .surveyUpdate openSurvey, ⟨0, 0, 0⟩,
    .ok ()⟩

/-- The same archive, with a transport that works. -/
def calm : World (Memory.Sender × List Delivery) Backend :=
  { afterOutage with
    transport := (.initial .none, [])
    vault := afterOutage.vault.1 }

/-- The survey is kept, and a replay repeats what a direct delivery says. -/
theorem replayed_repeats_direct_survey :
    Settings.load leadOnly = .ok behindLead ∧
      openSurvey.payload.Proper ∧ openSurvey.payload.Steady ∧
      (∀ reading, (outage.supply.times reading).Valid) ∧
      behindLead.publisher.publish Memory.transport.recorded
          behindLead.archive.vault.recorded .surveyUpdate openSurvey outage =
        (.ok outage.supply.mint.1, afterOutage) ∧
      afterOutage.vault.2 = outage.vault.2 ++ [keptSurvey] ∧
      calm.vault.documents.find? behindLead.archive.schema
          keptSurvey.record.messageId =
        afterOutage.vault.1.documents.find? behindLead.archive.schema
          keptSurvey.record.messageId ∧
      behindLead.publisher.rejection? calm = none ∧
      ∃ first again,
        handed calm
            (behindLead.publisher.publish Memory.transport.recorded
              behindLead.archive.vault .surveyUpdate openSurvey calm).2 =
          [first] ∧
        (keptSurvey.record, again) ∈
          behindLead.replayer.passCalls Memory.transport behindLead.archive
            calm ∧
        again.Repeats first := by
  have loaded : Settings.load leadOnly = .ok behindLead := rfl
  have proper : openSurvey.payload.Proper := by
    refine ⟨nofun, ?_⟩
    rintro _ ⟨⟩
    exact .null
  have steady : openSurvey.payload.Steady := by
    refine Survey.steady nofun ?_
    rintro _ ⟨⟩
    exact .null
  have clock : ∀ reading, (outage.supply.times reading).Valid :=
    Publisher.clock_refusing
  have published :
      behindLead.publisher.publish Memory.transport.recorded
          behindLead.archive.vault.recorded .surveyUpdate openSurvey outage =
        (.ok outage.supply.mint.1, afterOutage) :=
    rfl
  have diverted : afterOutage.vault.2 = outage.vault.2 ++ [keptSurvey] := rfl
  have permitted : behindLead.publisher.rejection? calm = none := rfl
  have waiting :
      calm.vault.documents.find? behindLead.archive.schema
          keptSurvey.record.messageId =
        afterOutage.vault.1.documents.find? behindLead.archive.schema
          keptSurvey.record.messageId :=
    rfl
  obtain ⟨first, called, _, repeats, takes⟩ :=
    replayed_repeats_direct loaded rfl proper steady clock published diverted
      Memory.transport waiting Memory.transport behindLead.archive.vault
      permitted
  obtain ⟨_, makes⟩ := takes _ _ rfl
  obtain ⟨again, member⟩ := makes (by decide)
  exact ⟨loaded, proper, steady, clock, published, diverted, waiting, permitted,
    first, again, called, member, repeats again member⟩

end Settings

end EventRelay
