import EventRelay.Proofs.Relay.Course
import EventRelay.Proofs.Replay.Calls

/-!
# What a step of a course does

A publishing call changes nothing in the archive, or it files one record under
an identifier that is drawn only now.  A pass that begins changes nothing and
lists records that are not stamped.  The turn of a record that is filed as it
waits ends in one of three ways: its event is not sent, it is sent and the
stamp fails, or it is sent and the record is stamped.  `Does` puts the three
kinds of steps together, for everything that is counted later.
-/

namespace EventRelay

open EventRelay.Json EventRelay.Store

variable {σ : Type}

/-! ## Publishing calls -/

/--
What a publishing call does to the archive: nothing, or it files one record
under the next identifier.
-/
inductive Relay.Files (relay : Relay σ) (world : Watched σ) :
    Watched σ → Prop where
  | nothing (after : Watched σ) (since : world.supply.Since after.supply)
      (same : after.vault.documents = world.vault.documents) :
      Files relay world after
  | record (after : Watched σ) (record : BackupRecord)
      (since : world.supply.Since after.supply)
      (minted : world.supply.minted < after.supply.minted)
      (own :
        record.messageId =
          (world.supply.identifiers world.supply.minted).toText)
      (storable : record.Storable) (unsent : record.isSent = false)
      (written :
        after.vault.documents =
          world.vault.documents.put relay.archive.schema record.messageId
            (BackupRecord.codec.toDocument record)) :
      Files relay world after

theorem Relay.Files.since
    {relay : Relay σ} {world after : Watched σ}
    (files : relay.Files world after) :
    world.supply.Since after.supply := by
  cases files with
  | nothing since => exact since
  | record _ since => exact since

theorem Relay.files_publish
    (relay : Relay σ) (type : EventType) (draft : Draft) {world : Watched σ}
    (clock : ∀ index, (world.supply.times index).Valid) :
    relay.Files world
      (relay.publisher.publish relay.transport.recorded relay.archive.vault
        type draft world).2 := by
  by_cases passes : ∃ topic, relay.publisher.Passes type draft topic
  · obtain ⟨topic, passes⟩ := passes
    have outcome :=
      Publisher.publishes passes relay.transport.recorded relay.archive.vault
        world
    generalize
      relay.publisher.publish relay.transport.recorded relay.archive.vault
          type draft world =
        result at outcome ⊢
    have drawn (ticked : Nat) :
        world.supply.Since (world.supply.afterEnvelope ticked) :=
      ⟨rfl, rfl, Nat.le_succ _⟩
    cases outcome with
    | sent state ticked breaker taken => exact .nothing _ (drawn ticked) rfl
    | told state ticked breaker cause backup failed =>
        exact .nothing _ (drawn ticked) rfl
    | kept state ticked breaker cause contents backup failed taken =>
        rcases keep_cases relay.archive type (world.supply.envelope type draft)
            (world.supply.afterEnvelope ticked).now.1 world.vault with
          ⟨cause, after, kept, _⟩ | ⟨after, kept, written⟩
        · rw [taken] at kept
          cases kept
        · rw [taken] at kept
          cases kept
          exact .record _ (.ofFailedSend type (world.supply.envelope type draft)
              (world.supply.afterEnvelope ticked).now.1)
            (drawn ticked).now (Nat.lt_succ_self _) rfl
            (BackupRecord.storable_ofFailedSend type _ (clock _)) rfl written
    | lost state ticked breaker cause second contents backup failed refused =>
        rcases keep_cases relay.archive type (world.supply.envelope type draft)
            (world.supply.afterEnvelope ticked).now.1 world.vault with
          ⟨cause, after, kept, same⟩ | ⟨after, kept, _⟩
        · rw [refused] at kept
          cases kept
          exact .nothing _ (drawn ticked).now same
        · rw [refused] at kept
          cases kept
  · obtain ⟨error, refused⟩ :=
      Publisher.publish_of_not_passes passes relay.transport.recorded
        relay.archive.vault world
    rw [refused]
    exact .nothing _ (.refl _) rfl

theorem Relay.files_answer
    (relay : Relay σ) (request : Request) {world : Watched σ}
    (clock : ∀ index, (world.supply.times index).Valid) :
    relay.Files world (relay.answer request world).2 := by
  rcases relay.answer_cases request world with
    ⟨type, draft, _, published⟩ | ⟨error, refused⟩
  · rw [published]
    exact relay.files_publish type draft clock
  · rw [refused]
    exact .nothing _ (.refl _) rfl

/-! ## Turns -/

/-- The archive has the record as it is, and the record is not stamped. -/
structure Archive.Waits
    (archive : Archive) (documents : Documents) (record : BackupRecord) :
    Prop where
  found :
      documents.find? archive.schema record.messageId =
        some (BackupRecord.codec.toDocument record)
  storable : record.Storable
  unsent : record.isSent = false

/-- How the turn of a record that waits can end. -/
inductive Ends
    (archive : Archive) (record : BackupRecord) (before after : Documents)
    (entry : Logged) : Prop where
  | unsent (taken : entry.taken = 0) (stamp : entry.turn.isUnstamped = false)
      (same : after = before)
  | unstamped (taken : entry.taken = 1) (stamp : entry.turn.isUnstamped = true)
      (same : after = before)
  | stamped (taken : entry.taken = 1) (stamp : entry.turn.isUnstamped = false)
      (sentAt : Timestamp) (valid : sentAt.Valid)
      (written :
        after =
          before.put archive.schema record.messageId
            (BackupRecord.codec.toDocument (record.markSent sentAt)))

section Resends

variable {replayer : Replayer} {transport : Transport σ}
  {record : BackupRecord} {world after : Watched σ}
  {answer : Except PublishError Identifier}

theorem Replayer.Resends.since
    (resends :
      replayer.Resends transport.recorded record world (answer, after)) :
    world.supply.Since after.supply := by
  cases resends with
  | refused => exact .refl _
  | sent => exact ⟨rfl, rfl, Nat.le_succ _⟩
  | told => exact ⟨rfl, rfl, Nat.le_succ _⟩

end Resends

namespace Course

variable {archive : Archive} {course : Course σ} {record : BackupRecord}

theorem since_turn (relay : Relay σ) :
    course.world.supply.Since (course.turn archive relay record).2.supply := by
  have goes :=
    relay.replayer.goes relay.transport.recorded (relay.within archive).archive
      record course.world
  unfold turn
  generalize
    relay.replayer.turn relay.transport.recorded (relay.within archive).archive
        record course.world =
      result at goes ⊢
  cases goes with
  | unsent error after resends => exact resends.since
  | sent identifier between resends => exact resends.since.now

theorem ends_turn
    (relay : Relay σ)
    (clock : ∀ index, (course.world.supply.times index).Valid)
    (waits : archive.Waits course.world.vault.documents record) :
    Ends archive record course.world.vault.documents
      (course.turn archive relay record).2.vault.documents
      (course.entry archive relay record) := by
  have goes :=
    relay.replayer.goes relay.transport.recorded (relay.within archive).archive
      record course.world
  unfold entry turn
  generalize
    relay.replayer.turn relay.transport.recorded (relay.within archive).archive
        record course.world =
      result at goes ⊢
  cases goes with
  | unsent error after resends =>
      obtain ⟨deliveries, added, taken⟩ := resends.deliveries
      refine .unsent ?_ rfl ?_
      · show (after.transport.2.drop _).countP _ = 0
        rw [added, List.drop_left]
        exact taken
      · exact congrArg Backend.documents resends.unmoved.1
  | sent identifier between resends outcome backend stamps =>
      obtain ⟨deliveries, added, sent⟩ := resends.deliveries
      have taken :
          Logged.taken
              ⟨⟨record, .ok identifier, some outcome⟩,
                between.transport.2.drop course.world.transport.2.length⟩ =
            1 := by
        show (between.transport.2.drop _).countP _ = 1
        rw [added, List.drop_left]
        exact sent
      have same :
          between.vault.documents = course.world.vault.documents :=
        congrArg Backend.documents resends.unmoved.1
      cases stamps with
      | failed error _ unchanged =>
          exact .unstamped taken rfl (unchanged.trans same)
      | absent _ unchanged missing =>
          rw [same] at missing
          have found := waits.found
          rw [show archive.schema = (relay.within archive).archive.schema
            from rfl, missing] at found
          cases found
      | stamped document found _ here decoded written =>
          rw [same] at here written
          have present := here.symm.trans waits.found
          cases present
          rw [Archive.decode_toDocument waits.storable] at decoded
          cases decoded
          refine .stamped taken rfl between.supply.now.1 ?_ written
          have times := resends.unmoved.2
          show (between.supply.times _).Valid
          rw [times]
          exact clock _

/-! ## Steps -/

/--
What a step does to a course: nothing in the archive, it files a record under
an identifier that is drawn only now, it begins a pass, or it gives a record
its turn.
-/
inductive Does (archive : Archive) (course : Course σ) : Course σ → Prop where
  | rests (world : Watched σ)
      (same : world.vault.documents = course.world.vault.documents) :
      Does archive course
        ⟨world, course.waiting, course.earlier, course.current⟩
  | files (world : Watched σ) (record : BackupRecord)
      (minted : course.world.supply.minted < world.supply.minted)
      (own :
        record.messageId =
          (course.world.supply.identifiers
            course.world.supply.minted).toText)
      (storable : record.Storable) (unsent : record.isSent = false)
      (written :
        world.vault.documents =
          course.world.vault.documents.put archive.schema record.messageId
            (BackupRecord.codec.toDocument record)) :
      Does archive course
        ⟨world, course.waiting, course.earlier, course.current⟩
  | begins (world : Watched σ) (waiting : List BackupRecord)
      (same : world.vault.documents = course.world.vault.documents)
      (listed :
        waiting.Sublist
          (Archive.sortOut
            (course.world.vault.documents.list archive.schema)).unsent) :
      Does archive course
        ⟨world, waiting, course.earlier ++ [course.current], []⟩
  | turns (world : Watched σ) (record : BackupRecord)
      (waiting : List BackupRecord) (entry : Logged)
      (waits : course.waiting = record :: waiting)
      (own : entry.turn.record = record)
      (ends :
        Ends archive record course.world.vault.documents
          world.vault.documents entry) :
      Does archive course
        ⟨world, waiting, course.earlier, course.current ++ [entry]⟩

/-- In a step the supply only goes on. -/
theorem since_advance
    (archive : Archive)
    (clock : ∀ index, (course.world.supply.times index).Valid)
    (step : Step σ) :
    course.world.supply.Since (course.advance archive step).world.supply := by
  cases step with
  | publish relay breaker request =>
      have files :
          (relay.within archive).Files
            { course.world with breaker := breaker } _ :=
        (relay.within archive).files_answer request clock
      exact files.since
  | begin relay =>
      show course.world.supply.Since (course.begun archive relay).world.supply
      rw [begun_supply]
      exact .refl _
  | proceed relay =>
      unfold advance
      dsimp only
      split
      · exact .refl _
      · exact since_turn relay

/-- Where all that waits is filed as it waits, a step does one of these. -/
theorem does_advance
    (clock : ∀ index, (course.world.supply.times index).Valid)
    (waits :
      ∀ record ∈ course.waiting,
        archive.Waits course.world.vault.documents record)
    (step : Step σ) :
    course.Does archive (course.advance archive step) := by
  cases step with
  | publish relay breaker request =>
      have files :
          (relay.within archive).Files
            { course.world with breaker := breaker } _ :=
        (relay.within archive).files_answer request clock
      unfold advance
      dsimp only
      generalize
        ((relay.within archive).answer request
          { course.world with breaker := breaker }).2 =
            world at files ⊢
      cases files with
      | nothing _ same => exact .rests world same
      | record record _ minted own storable unsent written =>
          exact .files world record minted own storable unsent written
  | begin relay =>
      have fares := (relay.within archive).archive.scan_fares course.world.vault
      show course.Does archive (course.begun archive relay)
      unfold begun
      generalize
        (relay.within archive).archive.scan course.world.vault =
          answer at fares ⊢
      cases fares with
      | failed error after same =>
          exact .begins _ [] same (List.nil_sublist _)
      | answered after same =>
          exact .begins _ _ same (List.Sublist.refl _)
  | proceed relay =>
      unfold advance
      cases waiting : course.waiting with
      | nil =>
          dsimp only
          obtain ⟨world, _, earlier, current⟩ := course
          cases waiting
          exact .rests world rfl
      | cons record others =>
          have filed := waits record (waiting ▸ List.mem_cons_self)
          exact .turns _ record others _ waiting
            (Replayer.turn_record _ _ _ _ _) (ends_turn relay clock filed)

end Course

end EventRelay
