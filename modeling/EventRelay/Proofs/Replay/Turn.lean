import EventRelay.Proofs.Backup.Archive
import EventRelay.Proofs.Publisher.Transmission
import EventRelay.Replay

/-!
# The turns of a replay pass

A pass takes the records that wait in turn.  In its turn the event of a record
is sent again, and if that succeeds the record is stamped.  A pass keeps only
counts; here each turn leaves what both steps answered, and the counts are
those of the turns.

`Resends` lists what sending an event again can do, and `Goes` what a turn can
do, both with all that changes outside.
-/

namespace EventRelay

open EventRelay.Store

/-- What was answered when it was a record's turn. -/
structure Turn where
  record : BackupRecord
  answer : Except PublishError Identifier
  /-- What stamping the record answered, if its event was sent. -/
  stamp : Option (Except Store.Error Bool)

namespace Turn

/-- Whether the event was sent and stamping did not fail. -/
def isReplayed (turn : Turn) : Bool :=
  match turn.stamp with
  | some (.ok _) => true
  | _ => false

/-- Whether the event was sent and stamping failed. -/
def isUnstamped (turn : Turn) : Bool :=
  match turn.stamp with
  | some (.error _) => true
  | _ => false

/-- Counts a turn among those replayed or those failed. -/
def count (summary : ReplaySummary) (turn : Turn) : ReplaySummary :=
  if turn.isReplayed then Replayer.countReplayed summary
  else Replayer.countFailed summary

end Turn

namespace Replayer

variable {σ : Type}

/-! ## A pass as a list of turns -/

/-- Gives a record its turn. -/
def turn
    (replayer : Replayer) (transport : Transport σ) (archive : Archive)
    (record : BackupRecord) (world : World σ Backend) :
    Turn × World σ Backend :=
  match replayer.publisher.resend transport archive.vault record world with
  | (.error error, world) => (⟨record, .error error, none⟩, world)
  | (.ok identifier, world) =>
    let (sentAt, supply) := world.supply.now
    let (outcome, backend) :=
      archive.markSent record.messageId sentAt world.vault
    (⟨record, .ok identifier, some outcome⟩,
      { world with supply := supply, vault := backend })

/-- Gives records their turns one after the other. -/
def turns
    (replayer : Replayer) (transport : Transport σ) (archive : Archive) :
    List BackupRecord → World σ Backend → List Turn × World σ Backend
  | [], world => ([], world)
  | record :: records, world =>
    let (first, world) := replayer.turn transport archive record world
    let (others, world) := replayer.turns transport archive records world
    (first :: others, world)

/-- The turns of a pass; it has none if its scan fails. -/
def passTurns
    (replayer : Replayer) (transport : Transport σ) (archive : Archive)
    (world : World σ Backend) :
    List Turn × World σ Backend :=
  match archive.scan world.vault with
  | (.error _, backend) => ([], { world with vault := backend })
  | (.ok scan, backend) =>
    replayer.turns transport archive scan.unsent { world with vault := backend }

variable (replayer : Replayer) (transport : Transport σ) (archive : Archive)

@[simp]
theorem turn_record (record : BackupRecord) (world : World σ Backend) :
    (replayer.turn transport archive record world).1.record = record := by
  unfold turn
  split
  · rfl
  · rfl

theorem turn_answer (record : BackupRecord) (world : World σ Backend) :
    (replayer.turn transport archive record world).1.answer =
      (replayer.publisher.resend transport archive.vault record world).1 := by
  unfold turn
  rcases replayer.publisher.resend transport archive.vault record world with
    ⟨answer, after⟩
  cases answer with
  | error error => rfl
  | ok identifier => rfl

theorem turns_records
    (records : List BackupRecord) (world : World σ Backend) :
    (replayer.turns transport archive records world).1.map Turn.record =
      records := by
  induction records generalizing world with
  | nil => rfl
  | cons record records induction =>
      rw [turns, List.map_cons, turn_record, induction]

theorem replayRecord_eq
    (record : BackupRecord) (summary : ReplaySummary)
    (world : World σ Backend) :
    replayer.replayRecord transport archive record summary world =
      ((replayer.turn transport archive record world).1.count summary,
        (replayer.turn transport archive record world).2) := by
  unfold replayRecord turn
  rcases replayer.publisher.resend transport archive.vault record world with
    ⟨answer, after⟩
  cases answer with
  | error error => rfl
  | ok identifier =>
      dsimp only
      split
      · next stamped =>
          rw [stamped]
          rfl
      · next failed =>
          rw [failed]
          rfl

theorem replayRecords_eq
    (records : List BackupRecord) (summary : ReplaySummary)
    (world : World σ Backend) :
    replayer.replayRecords transport archive records summary world =
      ((replayer.turns transport archive records world).1.foldl Turn.count
          summary,
        (replayer.turns transport archive records world).2) := by
  induction records generalizing summary world with
  | nil => rfl
  | cons record records induction =>
      rw [replayRecords, replayRecord_eq, turns]
      exact induction _ _

/-- Counting turns adds to what was replayed and to what failed. -/
theorem foldl_count (turns : List Turn) (summary : ReplaySummary) :
    turns.foldl Turn.count summary =
      ⟨summary.replayed + turns.countP Turn.isReplayed, summary.skipped,
        summary.failed + turns.countP fun turn => !turn.isReplayed⟩ := by
  induction turns generalizing summary with
  | nil => rfl
  | cons first turns induction =>
      rw [List.foldl_cons, induction, List.countP_cons, List.countP_cons,
        Turn.count]
      cases first.isReplayed with
      | true => simp [countReplayed, Nat.add_assoc, Nat.add_comm 1]
      | false => simp [countFailed, Nat.add_assoc, Nat.add_comm 1]

/-- A pass leaves the outside that its turns leave. -/
theorem replayAll_passTurns (world : World σ Backend) :
    (replayer.replayAll transport archive world).2 =
      (replayer.passTurns transport archive world).2 := by
  unfold replayAll passTurns
  rcases archive.scan world.vault with ⟨answer, backend⟩
  cases answer with
  | error error => rfl
  | ok scan =>
      dsimp only
      rw [replayRecords_eq]

/-! ## What a turn does -/

variable (record : BackupRecord) (world : World σ Backend)

/--
What sending the event of a record again can do: its text gives no draft that
passes the checks, so it is refused and changes nothing; or one envelope that
was made of the record's text is handed to the transport.
-/
inductive Resends : Except PublishError Identifier × World σ Backend → Prop
    where
  | refused (error : PublishError)
      (unfit :
        ∀ draft topic,
          replayer.builders.recover record.type record.envelopeText =
              .ok draft →
            ¬replayer.publisher.Passes record.type draft topic) :
      Resends (.error error, world)
  | sent (draft : Draft) (topic : String) (state : σ) (ticked : Nat)
      (breaker : Breaker.State)
      (recovered :
        replayer.builders.recover record.type record.envelopeText = .ok draft)
      (passes : replayer.publisher.Passes record.type draft topic)
      (taken :
        transport.deliver topic (world.supply.envelope record.type draft)
            world.transport =
          (.ok (), state)) :
      Resends
        (.ok (world.supply.envelope record.type draft).header.messageId,
          ⟨world.supply.afterEnvelope ticked, state, world.vault, breaker⟩)
  | told (draft : Draft) (topic : String) (state : σ) (ticked : Nat)
      (breaker : Breaker.State) (cause : Cause)
      (recovered :
        replayer.builders.recover record.type record.envelopeText = .ok draft)
      (passes : replayer.publisher.Passes record.type draft topic)
      (failed :
        transport.deliver topic (world.supply.envelope record.type draft)
            world.transport =
          (.error cause, state)) :
      Resends
        (.error (.send cause),
          ⟨world.supply.afterEnvelope ticked, state, world.vault, breaker⟩)

theorem resends :
    replayer.Resends transport record world
      (replayer.publisher.resend transport archive.vault record world) := by
  have own : replayer.builders = replayer.publisher.builders := rfl
  unfold Publisher.resend
  split
  · next draft recovered =>
      by_cases passes :
          ∃ topic, replayer.publisher.Passes record.type draft topic
      · obtain ⟨topic, passes⟩ := passes
        have outcome :=
          Publisher.publishes passes transport archive.vault world
        generalize
          replayer.publisher.publish transport archive.vault record.type draft
              world =
            result at outcome ⊢
        -- The publisher of a replayer has no backup and no breaker.
        cases outcome with
        | sent state ticked breaker taken =>
            exact .sent draft topic state ticked breaker recovered passes taken
        | told state ticked breaker cause backup failed =>
            exact .told draft topic state ticked breaker cause recovered passes
              failed
        | kept state ticked breaker cause contents backup => cases backup
        | lost state ticked breaker cause second contents backup => cases backup
      · obtain ⟨error, refused⟩ :=
          Publisher.publish_of_not_passes passes transport archive.vault world
        rw [refused]
        refine .refused error ?_
        intro again topic rebuilt fits
        rw [own, recovered] at rebuilt
        cases rebuilt
        exact passes ⟨topic, fits⟩
  · next failed =>
      refine .refused _ ?_
      intro again topic rebuilt
      rw [own, failed] at rebuilt
      cases rebuilt
  · next failed =>
      refine .refused _ ?_
      intro again topic rebuilt
      rw [own, failed] at rebuilt
      cases rebuilt

/--
What a turn can do: the event is not sent and the archive stays as it was, or
it is sent and the record is stamped in one of the ways in which that can go.
-/
inductive Goes : Turn × World σ Backend → Prop where
  | unsent (error : PublishError) (after : World σ Backend)
      (resends :
        replayer.Resends transport record world (.error error, after)) :
      Goes (⟨record, .error error, none⟩, after)
  | sent (identifier : Identifier) (between : World σ Backend)
      (resends :
        replayer.Resends transport record world (.ok identifier, between))
      (outcome : Except Store.Error Bool) (backend : Backend)
      (stamps :
        archive.Stamps between.vault record.messageId between.supply.now.1
          (outcome, backend)) :
      Goes
        (⟨record, .ok identifier, some outcome⟩,
          { between with
            supply := between.supply.now.2
            vault := backend })

theorem goes :
    replayer.Goes transport archive record world
      (replayer.turn transport archive record world) := by
  have resends := replayer.resends transport archive record world
  unfold turn
  generalize
    replayer.publisher.resend transport archive.vault record world =
      result at resends ⊢
  obtain ⟨answer, between⟩ := result
  cases answer with
  | error error => exact .unsent error between resends
  | ok identifier =>
      exact .sent identifier between resends _ _
        (archive.stamps between.vault record.messageId between.supply.now.1)

variable {replayer transport archive record world}

/-- Sending an event again neither touches the archive nor turns the clock. -/
theorem Resends.unmoved
    {answer : Except PublishError Identifier} {after : World σ Backend}
    (resends : replayer.Resends transport record world (answer, after)) :
    after.vault = world.vault ∧ after.supply.times = world.supply.times := by
  cases resends with
  | refused => exact ⟨rfl, rfl⟩
  | sent => exact ⟨rfl, rfl⟩
  | told => exact ⟨rfl, rfl⟩

end Replayer

end EventRelay
