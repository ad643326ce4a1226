import EventRelay.Proofs.Backup.Archive
import EventRelay.Proofs.Identifier
import EventRelay.Proofs.Relay.Run

/-!
# What every step of a run keeps

An archive is sound when all its documents are records under identifiers that
were minted, and the events of those that are stamped have been sent again.
Publishing a draft and replaying a record lead to an outside that `Follows`
the one before: it is sound again, and what was accepted or filed stays so.

A record is filed under an identifier that was minted for it alone, so nothing
but its own stamp is ever written over it.  That no identifier is minted twice
is assumed where it is used.
-/

namespace EventRelay

open EventRelay.Json EventRelay.Store

namespace Supply

/-- No identifier has been minted twice. -/
def Distinct (supply : Supply) : Prop :=
  ∀ left < supply.minted, ∀ right < supply.minted,
    supply.identifiers left = supply.identifiers right → left = right

/-- The same supply later on, when more may have been drawn. -/
structure Since (before after : Supply) : Prop where
  identifiers : after.identifiers = before.identifiers
  times : after.times = before.times
  minted : before.minted ≤ after.minted

variable {before between after : Supply}

theorem Since.refl (supply : Supply) : supply.Since supply :=
  ⟨rfl, rfl, Nat.le_refl _⟩

theorem Since.trans
    (first : before.Since between) (second : between.Since after) :
    before.Since after :=
  ⟨second.identifiers.trans first.identifiers, second.times.trans first.times,
    Nat.le_trans first.minted second.minted⟩

theorem Since.now (since : before.Since after) : before.Since after.now.2 :=
  ⟨since.identifiers, since.times, since.minted⟩

theorem Since.distinct
    (since : before.Since after) (distinct : after.Distinct) :
    before.Distinct := by
  intro left leftMinted right rightMinted same
  rw [← since.identifiers] at same
  exact distinct left (Nat.lt_of_lt_of_le leftMinted since.minted) right
    (Nat.lt_of_lt_of_le rightMinted since.minted) same

end Supply

namespace Relay

variable {σ : Type}

/--
Whether the transport took an envelope created from the text that a record
keeps.
-/
def Resent
    (relay : Relay σ) (deliveries : List Delivery) (record : BackupRecord) :
    Prop :=
  ∃ draft identifier now envelope,
    relay.replayer.builders.recover record.type record.envelopeText =
      .ok draft ∧
    relay.replayer.builders.create record.type draft identifier now =
      some envelope ∧
    Accepted deliveries envelope

/-! ## The invariant -/

/--
A later outside with the same promises: more may have been minted and sent.
-/
structure Later (before after : Watched σ) : Prop where
  identifiers : after.supply.identifiers = before.supply.identifiers
  times : after.supply.times = before.supply.times
  minted : before.supply.minted ≤ after.supply.minted
  accepted :
      ∀ envelope,
        Accepted before.transport.2 envelope →
          Accepted after.transport.2 envelope

/--
A record lies under a minted identifier, and if it is stamped its event has
been sent again.
-/
structure Honest (relay : Relay σ) (world : Watched σ) (record : BackupRecord) :
    Prop where
  minted : ∃ index < world.supply.minted,
    record.messageId = (world.supply.identifiers index).toText
  resent : record.isSent = true → relay.Resent world.transport.2 record

/--
The clock shows timestamps, and the archive holds honest records as long as no
identifier has been minted twice.
-/
structure Sound (relay : Relay σ) (world : Watched σ) : Prop where
  clock : ∀ index, (world.supply.times index).Valid
  holds :
      world.supply.Distinct →
        relay.archive.Holds (relay.Honest world) world.vault.documents

/-- What every step of a run keeps. -/
structure Follows (relay : Relay σ) (before after : Watched σ) : Prop where
  later : Later before after
  sound : relay.Sound after
  filed :
      after.supply.Distinct →
        ∀ record,
          relay.archive.Filed before.vault.documents record →
            relay.archive.Filed after.vault.documents record

/--
A record that may be written: it is honest, and no other event is filed under
its identifier.
-/
structure Writable
    (relay : Relay σ) (before after : Watched σ) (record : BackupRecord) :
    Prop where
  storable : record.Storable
  honest : relay.Honest after record
  compatible : ∀ other, relay.archive.Filed before.vault.documents other →
    record.messageId = other.messageId → record.SameEvent other

variable {relay : Relay σ} {world before after last : Watched σ}

theorem Later.since (later : Later before after) :
    before.supply.Since after.supply :=
  ⟨later.identifiers, later.times, later.minted⟩

theorem Later.distinct
    (later : Later before after) (distinct : after.supply.Distinct) :
    before.supply.Distinct :=
  later.since.distinct distinct

theorem Later.trans (first : Later before after) (second : Later after last) :
    Later before last := by
  obtain ⟨identifiers, times, minted⟩ := first.since.trans second.since
  exact ⟨identifiers, times, minted, fun envelope taken =>
    second.accepted envelope (first.accepted envelope taken)⟩

theorem Follows.trans
    (first : relay.Follows before after) (second : relay.Follows after last) :
    relay.Follows before last := by
  refine ⟨first.later.trans second.later, second.sound, ?_⟩
  intro distinct record filed
  exact second.filed distinct record
    (first.filed (second.later.distinct distinct) record filed)

theorem Resent.sameEvent
    {deliveries : List Delivery} {left right : BackupRecord}
    (resent : relay.Resent deliveries right) (same : left.SameEvent right) :
    relay.Resent deliveries left := by
  unfold Resent
  rw [same.type, same.envelopeText]
  exact resent

theorem Honest.later
    {record : BackupRecord} (honest : relay.Honest before record)
    (later : Later before after) :
    relay.Honest after record := by
  constructor
  · obtain ⟨index, earlier, same⟩ := honest.minted
    exact ⟨index, Nat.lt_of_lt_of_le earlier later.minted,
      later.identifiers ▸ same⟩
  · intro sent
    obtain ⟨draft, identifier, now, envelope, recovered, created, taken⟩ :=
      honest.resent sent
    exact ⟨draft, identifier, now, envelope, recovered, created,
      later.accepted envelope taken⟩

/-- A step that writes nothing keeps the invariant. -/
theorem Sound.follows
    (sound : relay.Sound before) (later : Later before after)
    (same : after.vault.documents = before.vault.documents) :
    relay.Follows before after := by
  refine ⟨later, ⟨later.times ▸ sound.clock, ?_⟩, ?_⟩
  · intro distinct
    rw [same]
    exact (sound.holds (later.distinct distinct)).mono fun record honest =>
      honest.later later
  · intro _ record filed
    rw [same]
    exact filed

theorem Sound.unchanged (sound : relay.Sound world) :
    relay.Follows world world :=
  sound.follows ⟨rfl, rfl, Nat.le_refl _, fun _ taken => taken⟩ rfl

/-- A step that writes one record that may be written keeps the invariant. -/
theorem Sound.follows_put
    (sound : relay.Sound before) (later : Later before after)
    {record : BackupRecord}
    (written :
      after.vault.documents =
        before.vault.documents.put relay.archive.schema record.messageId
          (BackupRecord.codec.toDocument record))
    (writable : after.supply.Distinct → relay.Writable before after record) :
    relay.Follows before after := by
  refine ⟨later, ⟨later.times ▸ sound.clock, ?_⟩, ?_⟩
  · intro distinct
    have fits := writable distinct
    have holds := (sound.holds (later.distinct distinct)).mono
      fun record honest => honest.later later
    rw [written]
    exact holds.put fits.storable fits.honest
  · intro distinct other filed
    have fits := writable distinct
    rw [written]
    exact filed.put fits.storable (fits.compatible other filed)

/-- A filed record lies under a minted identifier. -/
theorem Sound.minted_of_filed
    (sound : relay.Sound world) (distinct : world.supply.Distinct)
    {record : BackupRecord}
    (filed : relay.archive.Filed world.vault.documents record) :
    ∃ index < world.supply.minted,
      record.messageId = (world.supply.identifiers index).toText := by
  obtain ⟨present, found, _, _⟩ := filed
  obtain ⟨listed, own, _, _, honest⟩ := (sound.holds distinct).of_find? found
  exact own ▸ honest.minted

/-! ## Publishing keeps the invariant -/

/-- Sending past a recorded transport only adds to what was accepted. -/
theorem accepted_sending
    {publisher : Publisher} {transport : Transport σ} {topic : String}
    {envelope : Envelope} {outcome : Except Cause Unit}
    {state : σ × List Delivery}
    (sending :
      publisher.sending transport.recorded topic envelope world =
        (outcome, state)) :
    (∀ other, Accepted world.transport.2 other → Accepted state.2 other) ∧
      (outcome = .ok () → Accepted state.2 envelope) := by
  unfold Publisher.sending at sending
  split at sending
  · cases sending
    exact ⟨fun _ taken => taken, nofun⟩
  · rw [Transport.deliver_recorded] at sending
    cases sending
    refine ⟨fun _ taken => taken.append_left _, ?_⟩
    intro taken
    exact ⟨_, List.mem_append_right _ (List.mem_singleton_self _), rfl, taken⟩

/--
The vault of an archive fails and changes nothing, or files the record of the
envelope.
-/
theorem keep_cases
    (archive : Archive) (type : EventType) (envelope : Envelope)
    (failedAt : Timestamp) (backend : Backend) :
    (∃ cause after,
      archive.vault.keep type envelope failedAt backend =
        (.error cause, after) ∧
      after.documents = backend.documents) ∨
    ∃ after,
      archive.vault.keep type envelope failedAt backend = (.ok (), after) ∧
        after.documents =
          backend.documents.put archive.schema
            (BackupRecord.ofFailedSend type envelope failedAt).messageId
            (BackupRecord.codec.toDocument
              (.ofFailedSend type envelope failedAt)) := by
  have wrote :=
    archive.write_fares backend (.ofFailedSend type envelope failedAt)
  unfold Archive.vault Archive.persist
  dsimp only
  generalize archive.write (.ofFailedSend type envelope failedAt) backend =
    outcome at wrote ⊢
  cases wrote with
  | failed error after same => exact .inl ⟨.store error, after, rfl, same⟩
  | answered after written => exact .inr ⟨after, rfl, written⟩

/--
What publishing a draft leaves behind, whoever publishes it into the archive.
-/
structure Published (relay : Relay σ) (publisher : Publisher) (type : EventType)
    (envelope : Envelope) (before : Watched σ)
    (result : Except PublishError Identifier × Watched σ) : Prop where
  follows : relay.Follows before result.2
  secured : ∀ identifier, result.1 = .ok identifier →
    identifier = envelope.header.messageId ∧
      (Accepted result.2.transport.2 envelope ∨
        publisher.hasBackup = true ∧ ∃ failedAt,
          relay.archive.Filed result.2.vault.documents
            (.ofFailedSend type envelope failedAt))

/--
The record of an envelope that is next to be minted is filed, and keeps the
invariant.
-/
theorem Sound.follows_keep
    (sound : relay.Sound before) (type : EventType) (draft : Draft)
    {failedAt : Timestamp} (valid : failedAt.Valid)
    (later : Later before after)
    (minted : before.supply.minted < after.supply.minted)
    (written :
      after.vault.documents =
        before.vault.documents.put relay.archive.schema
          (BackupRecord.ofFailedSend type (before.supply.envelope type draft)
            failedAt).messageId
          (BackupRecord.codec.toDocument
            (.ofFailedSend type (before.supply.envelope type draft)
              failedAt))) :
    relay.Follows before after := by
  refine sound.follows_put later written ?_
  intro distinct
  refine ⟨BackupRecord.storable_ofFailedSend type _ valid, ⟨?_, nofun⟩, ?_⟩
  · refine ⟨before.supply.minted, minted, ?_⟩
    rw [later.identifiers]
    rfl
  · intro other filed same
    -- The identifier is drawn only now, so no record can have it yet.
    obtain ⟨index, earlier, own⟩ :=
      sound.minted_of_filed (later.distinct distinct) filed
    have drawn : after.supply.identifiers before.supply.minted =
        after.supply.identifiers index := by
      rw [later.identifiers]
      exact Identifier.toText_injective (same.trans own)
    have known := distinct _ minted index (Nat.lt_trans earlier minted) drawn
    exact absurd known (Nat.ne_of_gt earlier)

theorem published
    (sound : relay.Sound world) (publisher : Publisher) (type : EventType)
    (draft : Draft) :
    relay.Published publisher type (world.supply.envelope type draft) world
      (publisher.publish relay.transport.recorded relay.archive.vault type
        draft world) := by
  by_cases passes : ∃ topic, publisher.Passes type draft topic
  · obtain ⟨topic, passes⟩ := passes
    have outcome :=
      Publisher.publishes passes relay.transport.recorded relay.archive.vault
        world
    generalize publisher.publish relay.transport.recorded relay.archive.vault
        type draft world =
      result at outcome ⊢
    cases outcome with
    | sent state ticked breaker taken =>
        obtain ⟨accepted, here⟩ := accepted_sending taken
        refine ⟨sound.follows ⟨rfl, rfl, Nat.le_succ _, accepted⟩ rfl, ?_⟩
        intro identifier answered
        cases answered
        exact ⟨rfl, .inl (here rfl)⟩
    | told state ticked breaker cause backup failed =>
        obtain ⟨accepted, _⟩ := accepted_sending failed
        exact ⟨sound.follows ⟨rfl, rfl, Nat.le_succ _, accepted⟩ rfl, nofun⟩
    | kept state ticked breaker cause contents backup failed taken =>
        obtain ⟨accepted, _⟩ := accepted_sending failed
        have valid := sound.clock (world.supply.timed + 1)
        rcases keep_cases relay.archive type (world.supply.envelope type draft)
            (world.supply.afterEnvelope ticked).now.1 world.vault with
          ⟨cause, after, kept, _⟩ | ⟨after, kept, written⟩
        · rw [taken] at kept
          cases kept
        · rw [taken] at kept
          cases kept
          refine
            ⟨sound.follows_keep type draft valid
              ⟨rfl, rfl, Nat.le_succ _, accepted⟩ (Nat.lt_succ_self _) written,
              ?_⟩
          intro identifier answered
          cases answered
          refine
            ⟨rfl, .inr ⟨backup, (world.supply.afterEnvelope ticked).now.1, ?_⟩⟩
          dsimp only
          rw [written]
          exact Archive.filed_put
            (BackupRecord.storable_ofFailedSend type _ valid)
    | lost state ticked breaker cause second contents backup failed refused =>
        obtain ⟨accepted, _⟩ := accepted_sending failed
        rcases keep_cases relay.archive type (world.supply.envelope type draft)
            (world.supply.afterEnvelope ticked).now.1 world.vault with
          ⟨cause, after, kept, same⟩ | ⟨after, kept, _⟩
        · rw [refused] at kept
          cases kept
          exact ⟨sound.follows ⟨rfl, rfl, Nat.le_succ _, accepted⟩ same, nofun⟩
        · rw [refused] at kept
          cases kept
  · obtain ⟨error, refused⟩ :=
      Publisher.publish_of_not_passes passes relay.transport.recorded
        relay.archive.vault world
    rw [refused]
    exact ⟨sound.unchanged, nofun⟩

/-! ## A replay pass keeps the invariant -/

/--
Stamping the record of an event that has been sent again keeps the invariant.
-/
theorem follows_markSent (sound : relay.Sound world) {record : BackupRecord}
    (filed :
      world.supply.Distinct →
        relay.archive.Filed world.vault.documents record)
    (resent : relay.Resent world.transport.2 record) :
    relay.Follows world { world with
      supply := world.supply.now.2
      vault :=
        (relay.archive.markSent record.messageId world.supply.now.1
          world.vault).2 } := by
  have later : Later world { world with
      supply := world.supply.now.2
      vault :=
        (relay.archive.markSent record.messageId world.supply.now.1
          world.vault).2 } :=
    ⟨rfl, rfl, Nat.le_refl _, fun _ taken => taken⟩
  have stamps := relay.archive.stamps world.vault record.messageId
    world.supply.now.1
  generalize relay.archive.markSent record.messageId world.supply.now.1
      world.vault =
    outcome at stamps later ⊢
  cases stamps with
  | failed error after same => exact sound.follows later same
  | absent after same => exact sound.follows later same
  | stamped document found after here decoded written =>
    have restated :
        after.documents =
          world.vault.documents.put relay.archive.schema
            (found.markSent world.supply.now.1).messageId
            (BackupRecord.codec.toDocument
              (found.markSent world.supply.now.1)) :=
      written
    refine sound.follows_put later restated ?_
    intro distinct
    obtain ⟨present, own, rfl, storable, honest⟩ :=
      (sound.holds (later.distinct distinct)).of_find? here
    rw [Archive.decode_toDocument storable] at decoded
    cases decoded
    have stamped := BackupRecord.sameEvent_markSent found world.supply.now.1
    refine ⟨storable.markSent (sound.clock _), ⟨honest.minted, ?_⟩, ?_⟩
    · intro _
      exact (resent.sameEvent
        ((filed (later.distinct distinct)).sameEvent storable here)).sameEvent
        stamped
    · intro other otherFiled same
      rw [← own, show found.messageId = other.messageId from same] at here
      exact stamped.trans (otherFiled.sameEvent storable here)

/--
An event that the replayer publishes without backup has been accepted as it
was created.
-/
theorem resent_of_published
    (sound : relay.Sound world) {record : BackupRecord} {draft : Draft}
    (recovered :
      relay.replayer.builders.recover record.type record.envelopeText =
        .ok draft)
    {identifier : Identifier} {after : Watched σ}
    (sent :
      relay.replayer.publisher.publish relay.transport.recorded
          relay.archive.vault record.type draft world =
        (.ok identifier, after)) :
    relay.Resent after.transport.2 record := by
  have created :
      ∃ topic, relay.replayer.publisher.Passes record.type draft topic := by
    apply Classical.byContradiction
    intro refused
    obtain ⟨error, failed⟩ :=
      Publisher.publish_of_not_passes refused relay.transport.recorded
        relay.archive.vault world
    rw [sent] at failed
    cases failed
  obtain ⟨topic, passes⟩ := created
  have published := published sound relay.replayer.publisher record.type draft
  rw [sent] at published
  rcases published.secured identifier rfl with ⟨_, taken | ⟨backup, _⟩⟩
  · exact ⟨draft, _, _, _, recovered, passes.create _ _, taken⟩
  · cases backup

/--
Publishing a record's event again keeps the invariant, and with success it has
been sent.
-/
theorem follows_resend
    (sound : relay.Sound world) {record : BackupRecord}
    {answer : Except PublishError Identifier} {after : Watched σ}
    (sent :
      relay.replayer.publisher.resend relay.transport.recorded
          relay.archive.vault record world =
        (answer, after)) :
    relay.Follows world after ∧
      (answer.isOk = true → relay.Resent after.transport.2 record) := by
  unfold Publisher.resend at sent
  split at sent
  · next draft recovered =>
      have published :=
        published sound relay.replayer.publisher record.type draft
      rw [sent] at published
      refine ⟨published.follows, ?_⟩
      intro succeeded
      cases answer with
      | ok identifier => exact resent_of_published sound recovered sent
      | error error => cases succeeded
  · cases sent
    exact ⟨sound.unchanged, nofun⟩
  · cases sent
    exact ⟨sound.unchanged, nofun⟩

theorem follows_replayRecord
    (sound : relay.Sound world) {record : BackupRecord}
    (filed :
      world.supply.Distinct → relay.archive.Filed world.vault.documents record)
    (summary : ReplaySummary) :
    relay.Follows world (relay.replayer.replayRecord relay.transport.recorded
      relay.archive record summary world).2 := by
  unfold Replayer.replayRecord
  rcases sent : relay.replayer.publisher.resend relay.transport.recorded
    relay.archive.vault record world with ⟨answer, after⟩
  obtain ⟨follows, resent⟩ := follows_resend sound sent
  cases answer with
  | error error => exact follows
  | ok identifier =>
      have stillFiled (distinct : after.supply.Distinct) :
          relay.archive.Filed after.vault.documents record :=
        follows.filed distinct record (filed (follows.later.distinct distinct))
      have stamped := follows_markSent follows.sound stillFiled (resent rfl)
      dsimp only
      split
      · exact follows.trans stamped
      · exact follows.trans stamped

theorem follows_replayRecords
    (sound : relay.Sound world) (records : List BackupRecord)
    (filed :
      world.supply.Distinct →
        ∀ record ∈ records, relay.archive.Filed world.vault.documents record)
    (summary : ReplaySummary) :
    relay.Follows world (relay.replayer.replayRecords relay.transport.recorded
      relay.archive records summary world).2 := by
  induction records generalizing summary world with
  | nil => exact sound.unchanged
  | cons record records induction =>
      have first := follows_replayRecord sound
        (fun distinct => filed distinct record List.mem_cons_self) summary
      refine first.trans (induction first.sound ?_ _)
      intro distinct other member
      exact first.filed distinct other
        (filed (first.later.distinct distinct) other
          (List.mem_cons_of_mem _ member))

/--
What has been done with a pass that has scanned the archive keeps the
invariant.
-/
theorem follows_scanned
    (sound : relay.Sound world) {scan : Scan} {backend : Backend}
    (scanned : relay.archive.scan world.vault = (.ok scan, backend))
    {done left : List BackupRecord} (parts : scan.unsent = done ++ left)
    (summary : ReplaySummary) :
    relay.Follows world (relay.replayer.replayRecords relay.transport.recorded
      relay.archive done summary { world with vault := backend }).2 := by
  have fares := relay.archive.scan_fares world.vault
  rw [scanned] at fares
  cases fares with
  | answered _ same =>
    have asked : relay.Follows world { world with vault := backend } :=
      sound.follows ⟨rfl, rfl, Nat.le_refl _, fun _ taken => taken⟩ same
    refine asked.trans (follows_replayRecords asked.sound done ?_ summary)
    intro distinct record member
    refine asked.filed distinct record
      ((sound.holds distinct).filed_of_mem_unsent ?_)
    rw [parts]
    exact List.mem_append_left _ member

theorem follows_pass (sound : relay.Sound world) :
    relay.Follows world (relay.pass world) := by
  unfold pass Replayer.replayAll
  rcases scanned : relay.archive.scan world.vault with ⟨answer, backend⟩
  cases answer with
  | ok scan => exact follows_scanned sound scanned (List.append_nil _).symm _
  | error error =>
      have fares := relay.archive.scan_fares world.vault
      rw [scanned] at fares
      cases fares with
      | failed _ _ same =>
          exact sound.follows ⟨rfl, rfl, Nat.le_refl _, fun _ taken => taken⟩
            same

end Relay

end EventRelay
