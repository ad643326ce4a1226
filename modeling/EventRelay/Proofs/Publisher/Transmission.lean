import EventRelay.Publisher

/-!
# What one publication does

A draft that passes the checks is made into one envelope, and then one of four
things happens.  The envelope is sent; it is not sent and the caller is told;
it is not sent and the vault keeps it; or neither the transport nor the vault
takes it.  `Publishes` lists the four with all that changes outside, for any
transport and any vault, and `publishes` says that there is no fifth.

A draft that does not pass the checks is refused and nothing outside changes.
-/

namespace EventRelay

namespace Supply

/-- The envelope that publishing a draft makes of what is supplied next. -/
def envelope (supply : Supply) (type : EventType) (draft : Draft) : Envelope :=
  ⟨.mint type draft supply.mint.1 supply.now.1, draft.payload⟩

/--
The supply after an envelope has been made and the steady clock has been read
so often.
-/
def afterEnvelope (supply : Supply) (ticked : Nat) : Supply :=
  { supply with
    minted := supply.minted + 1
    timed := supply.timed + 1
    ticked := ticked }

end Supply

namespace Publisher

variable {σ ν : Type}

/-- Why the breaker, if there is one, would not let the next call pass. -/
def rejection? (publisher : Publisher) (world : World σ ν) : Option Cause :=
  match publisher.backup with
  | .enabled (some setup) =>
    if (world.breaker.ask setup world.supply.tick.1).1 then none
    else some (.rejected setup.name)
  | _ => none

/--
How sending ends and leaves the transport, which is called unless the breaker
rejects.
-/
def sending (publisher : Publisher) (transport : Transport σ) (topic : String)
    (envelope : Envelope) (world : World σ ν) : Except Cause Unit × σ :=
  match publisher.rejection? world with
  | some cause => (.error cause, world.transport)
  | none => transport.deliver topic envelope world.transport

/--
The checks that a draft passes before an envelope is made of it, with the
topic found.
-/
structure Passes
    (publisher : Publisher) (type : EventType) (draft : Draft)
    (topic : String) :
    Prop where
  kind : draft.payload.kind = type.payloadKind
  routed : publisher.topics.topicFor type = some topic
  built : publisher.builders.builds type = true

/--
What publishing a draft that passes the checks answers, and the outside
afterwards.
-/
inductive Publishes
    (publisher : Publisher) (transport : Transport σ) (vault : Vault ν)
    (type : EventType) (topic : String) (envelope : Envelope)
    (world : World σ ν) :
    Except PublishError Identifier × World σ ν → Prop where
  | sent (state : σ) (ticked : Nat) (breaker : Breaker.State)
      (taken :
        publisher.sending transport topic envelope world = (.ok (), state)) :
      Publishes publisher transport vault type topic envelope world
        (.ok envelope.header.messageId,
          ⟨world.supply.afterEnvelope ticked, state, world.vault, breaker⟩)
  | told (state : σ) (ticked : Nat) (breaker : Breaker.State) (cause : Cause)
      (backup : publisher.hasBackup = false)
      (failed :
        publisher.sending transport topic envelope world =
          (.error cause, state)) :
      Publishes publisher transport vault type topic envelope world
        (.error (.send cause),
          ⟨world.supply.afterEnvelope ticked, state, world.vault, breaker⟩)
  | kept (state : σ) (ticked : Nat) (breaker : Breaker.State) (cause : Cause)
      (contents : ν) (backup : publisher.hasBackup = true)
      (failed :
        publisher.sending transport topic envelope world =
          (.error cause, state))
      (taken :
        vault.keep type envelope (world.supply.afterEnvelope ticked).now.1
            world.vault =
          (.ok (), contents)) :
      Publishes publisher transport vault type topic envelope world
        (.ok envelope.header.messageId,
          ⟨(world.supply.afterEnvelope ticked).now.2, state, contents, breaker⟩)
  | lost (state : σ) (ticked : Nat) (breaker : Breaker.State)
      (cause second : Cause) (contents : ν)
      (backup : publisher.hasBackup = true)
      (failed :
        publisher.sending transport topic envelope world =
          (.error cause, state))
      (refused :
        vault.keep type envelope (world.supply.afterEnvelope ticked).now.1
            world.vault =
          (.error second, contents)) :
      Publishes publisher transport vault type topic envelope world
        (.error (.backupFailed envelope.header.messageId cause second),
          ⟨(world.supply.afterEnvelope ticked).now.2, state, contents, breaker⟩)

/-! ## The steps of a publication -/

/-- Without a backup there is no breaker. -/
theorem rejection?_eq_none
    {publisher : Publisher} (disabled : publisher.hasBackup = false)
    (world : World σ ν) :
    publisher.rejection? world = none := by
  unfold hasBackup at disabled
  unfold rejection?
  cases backup : publisher.backup with
  | disabled => rfl
  | enabled breaker =>
      rw [backup] at disabled
      cases disabled

theorem deliver_eq
    (transport : Transport σ) (topic : String) (envelope : Envelope)
    (world : World σ ν) :
    deliver transport topic envelope world =
      ((transport.deliver topic envelope world.transport).1,
        { world with
          transport :=
            (transport.deliver topic envelope world.transport).2 }) := rfl

theorem keep_eq
    (vault : Vault ν) (type : EventType) (envelope : Envelope) (cause : Cause)
    (world : World σ ν) :
    keep vault type envelope cause world =
      ((vault.keep type envelope world.supply.now.1 world.vault).1.mapError
          (.backupFailed envelope.header.messageId cause),
        { world with
          supply := world.supply.now.2
          vault :=
            (vault.keep type envelope world.supply.now.1 world.vault).2 }) := by
  rcases now : world.supply.now with ⟨failedAt, supply⟩
  rcases kept : vault.keep type envelope failedAt world.vault
      with ⟨outcome, contents⟩
  unfold keep
  simp only [now, kept]
  cases outcome with
  | ok _ => rfl
  | error second => rfl

/--
Trying to send an envelope past the breaker moves only the transport, breaker
and its clock.
-/
theorem deliverPast_eq
    {publisher : Publisher} {breaker : Option Breaker.Setup}
    (backup : publisher.backup = .enabled breaker) (transport : Transport σ)
    (topic : String) (envelope : Envelope) (world : World σ ν) :
    ∃ ticked state,
      deliverPast breaker transport topic envelope world =
        ((publisher.sending transport topic envelope world).1,
          { world with
            supply := { world.supply with ticked := ticked }
            transport := (publisher.sending transport topic envelope world).2
            breaker := state }) := by
  unfold sending rejection?
  rw [backup]
  cases breaker with
  | none => exact ⟨world.supply.ticked, world.breaker, rfl⟩
  | some setup =>
      simp only [deliverPast, deliverGuarded]
      by_cases permitted :
          (world.breaker.ask setup world.supply.tick.1).1 = true
      · simp only [if_pos permitted]
        exact ⟨_, _, rfl⟩
      · simp only [if_neg permitted]
        exact ⟨_, _, rfl⟩

/--
A draft that passes the checks becomes the envelope of what is supplied next.
-/
theorem Passes.create
    {publisher : Publisher} {type : EventType} {draft : Draft}
    {topic : String} (passes : publisher.Passes type draft topic)
    (identifier : Identifier) (now : Timestamp) :
    publisher.builders.create type draft identifier now =
      some ⟨.mint type draft identifier now, draft.payload⟩ :=
  BuilderTable.create_eq_some passes.kind passes.built identifier now

/-- The outside once the envelope of a draft has been made. -/
private def begun (world : World σ ν) : World σ ν :=
  { world with supply := world.supply.afterEnvelope world.supply.ticked }

private theorem publishes_disabled
    {publisher : Publisher} (backup : publisher.backup = .disabled)
    (transport : Transport σ) (vault : Vault ν) (type : EventType)
    (topic : String) (envelope : Envelope) (world : World σ ν) :
    Publishes publisher transport vault type topic envelope world
      (match
          publisher.transmit transport vault type topic envelope
            (begun world) with
      | (.ok _, world) => (.ok envelope.header.messageId, world)
      | (.error error, world) => (.error error, world)) := by
  have sending : publisher.sending transport topic envelope world =
      transport.deliver topic envelope world.transport := by
    simp [Publisher.sending, rejection?, backup]
  unfold transmit
  rw [backup]
  rw [deliver_eq]
  rcases delivered : transport.deliver topic envelope world.transport
      with ⟨outcome, state⟩
  have begunDelivered :
      transport.deliver topic envelope (begun world).transport =
          (outcome, state) :=
        delivered
  rw [begunDelivered]
  cases outcome with
  | ok _ =>
      exact .sent state world.supply.ticked world.breaker
        (sending.trans delivered)
  | error cause =>
      exact .told state world.supply.ticked world.breaker cause
        (by simp [hasBackup, backup]) (sending.trans delivered)

private theorem publishes_keep
    {publisher : Publisher} (backup : publisher.hasBackup = true)
    {transport : Transport σ} {type : EventType} {topic : String}
    {envelope : Envelope} {world : World σ ν} {cause : Cause} {state : σ}
    (failed :
      publisher.sending transport topic envelope world = (.error cause, state))
    (vault : Vault ν) (ticked : Nat) (breaker : Breaker.State) :
    Publishes publisher transport vault type topic envelope world
      (match keep vault type envelope cause
          ⟨world.supply.afterEnvelope ticked, state, world.vault, breaker⟩ with
      | (.ok _, world) => (.ok envelope.header.messageId, world)
      | (.error error, world) => (.error error, world)) := by
  rw [keep_eq]
  dsimp only
  rcases kept : vault.keep type envelope
      (world.supply.afterEnvelope ticked).now.1 world.vault
    with ⟨result, contents⟩
  cases result with
  | ok _ => exact .kept state ticked breaker cause contents backup failed kept
  | error second =>
      exact .lost state ticked breaker cause second contents backup failed kept

private theorem publishes_enabled
    {publisher : Publisher} {breaker : Option Breaker.Setup}
    (backup : publisher.backup = .enabled breaker) (transport : Transport σ)
    (vault : Vault ν) (type : EventType) (topic : String) (envelope : Envelope)
    (world : World σ ν) :
    Publishes publisher transport vault type topic envelope world
      (match
          publisher.transmit transport vault type topic envelope
            (begun world) with
      | (.ok _, world) => (.ok envelope.header.messageId, world)
      | (.error error, world) => (.error error, world)) := by
  have hasBackup : publisher.hasBackup = true := by
    simp [Publisher.hasBackup, backup]
  obtain ⟨ticked, state, attempted⟩ :=
    deliverPast_eq backup transport topic envelope (begun world)
  have same : publisher.sending transport topic envelope (begun world) =
      publisher.sending transport topic envelope world := rfl
  rw [same] at attempted
  unfold transmit
  rw [backup]
  simp only [attempted]
  rcases sent : publisher.sending transport topic envelope world with
    ⟨outcome, after⟩
  cases outcome with
  | ok _ => exact .sent after ticked state sent
  | error cause => exact publishes_keep hasBackup sent vault ticked state

/-- Publishing a draft that passes the checks goes one of the four ways. -/
theorem publishes
    {publisher : Publisher} {type : EventType} {draft : Draft}
    {topic : String} (passes : publisher.Passes type draft topic)
    (transport : Transport σ) (vault : Vault ν) (world : World σ ν) :
    Publishes publisher transport vault type topic
      (world.supply.envelope type draft) world
      (publisher.publish transport vault type draft world) := by
  have kind : ¬draft.payload.kind ≠ type.payloadKind := by simp [passes.kind]
  unfold publish
  rw [if_neg kind, passes.routed]
  simp only [passes.create]
  cases backup : publisher.backup with
  | disabled =>
      exact publishes_disabled backup transport vault type topic _ world
  | enabled breaker =>
      exact publishes_enabled backup transport vault type topic _ world

/-! ## Drafts that are refused -/

/-- The first check that a draft fails, by the error that tells it. -/
inductive Refuses (publisher : Publisher) (type : EventType) (draft : Draft) :
    PublishError → Prop where
  | incompatible (kind : draft.payload.kind ≠ type.payloadKind) :
      Refuses publisher type draft
        (.incompatiblePayload type type.payloadKind draft.payload.kind)
  | unrouted (kind : draft.payload.kind = type.payloadKind)
      (unrouted : publisher.topics.topicFor type = none) :
      Refuses publisher type draft (.unsupportedType type)
  | unbuilt (kind : draft.payload.kind = type.payloadKind) (topic : String)
      (routed : publisher.topics.topicFor type = some topic)
      (unbuilt : publisher.builders.builds type = false) :
      Refuses publisher type draft (.unsupportedType type)

/-- A draft passes the checks or fails one of them. -/
theorem passes_or_refuses
    (publisher : Publisher) (type : EventType) (draft : Draft) :
    (∃ topic, publisher.Passes type draft topic) ∨
      ∃ error, publisher.Refuses type draft error := by
  by_cases kind : draft.payload.kind = type.payloadKind
  · cases routed : publisher.topics.topicFor type with
    | none => exact .inr ⟨_, .unrouted kind routed⟩
    | some topic =>
        cases built : publisher.builders.builds type with
        | true => exact .inl ⟨topic, kind, routed, built⟩
        | false => exact .inr ⟨_, .unbuilt kind topic routed built⟩
  · exact .inr ⟨_, .incompatible kind⟩

/-- A draft that fails a check is refused, and nothing outside changes. -/
theorem publish_refused
    {publisher : Publisher} {type : EventType} {draft : Draft}
    {error : PublishError} (refuses : publisher.Refuses type draft error)
    (transport : Transport σ) (vault : Vault ν) (world : World σ ν) :
    publisher.publish transport vault type draft world =
      (.error error, world) := by
  unfold publish
  cases refuses with
  | incompatible kind => rw [if_pos kind]
  | unrouted kind unrouted =>
      rw [if_neg (not_not_intro kind), unrouted]
  | unbuilt kind topic routed unbuilt =>
      rw [if_neg (not_not_intro kind), routed]
      simp [BuilderTable.create, unbuilt]

/--
A draft that does not pass the checks is refused, and nothing outside changes.
-/
theorem publish_of_not_passes
    {publisher : Publisher} {type : EventType} {draft : Draft}
    (refused : ¬∃ topic, publisher.Passes type draft topic)
    (transport : Transport σ) (vault : Vault ν) (world : World σ ν) :
    ∃ error,
      publisher.publish transport vault type draft world =
        (.error error, world) := by
  rcases publisher.passes_or_refuses type draft with passes | ⟨error, refuses⟩
  · exact absurd passes refused
  · exact ⟨error, publish_refused refuses transport vault world⟩

end Publisher

end EventRelay
