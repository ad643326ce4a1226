import EventRelay.Proofs.Publisher.Recorded
import EventRelay.Proofs.Replay.Turn

/-!
# The calls of a replay pass

Watching the transport of a pass tells which calls were made at the turn of
which record.  A turn makes at most one call, and what it hands over is an
envelope of the draft that the text of the record gives.
-/

namespace EventRelay.Replayer

open EventRelay.Store

variable {σ : Type}

/-- The calls that are made at the turns of records, each with its record. -/
def calls
    (replayer : Replayer) (transport : Transport σ) (archive : Archive) :
    List BackupRecord → World (σ × List Delivery) Backend →
      List (BackupRecord × Delivery)
  | [], _ => []
  | record :: records, world =>
    let after := (replayer.turn transport.recorded archive record world).2
    (handed world after).map (Prod.mk record) ++
      replayer.calls transport archive records after

/--
The calls of a pass, each with its record; it makes none if its scan fails.
-/
def passCalls
    (replayer : Replayer) (transport : Transport σ) (archive : Archive)
    (world : World (σ × List Delivery) Backend) :
    List (BackupRecord × Delivery) :=
  match archive.scan world.vault with
  | (.error _, _) => []
  | (.ok scan, backend) =>
    replayer.calls transport archive scan.unsent { world with vault := backend }

/--
What is handed over at the turn of a record: one envelope of the draft that
its text gives, or nothing where it gives none that passes the checks.
-/
inductive Hands (replayer : Replayer) (record : BackupRecord)
    (supply : Supply) : List Delivery → Prop where
  | nothing
      (unfit :
        ∀ draft topic,
          replayer.builders.recover record.type record.envelopeText =
              .ok draft →
            ¬replayer.publisher.Passes record.type draft topic) :
      Hands replayer record supply []
  | envelope (draft : Draft) (topic : String) (outcome : Except Cause Unit)
      (recovered :
        replayer.builders.recover record.type record.envelopeText = .ok draft)
      (passes : replayer.publisher.Passes record.type draft topic) :
      Hands replayer record supply
        [⟨topic, supply.envelope record.type draft, outcome⟩]

variable {replayer : Replayer} {transport : Transport σ} {archive : Archive}
  {record : BackupRecord} {world : World (σ × List Delivery) Backend}

/-- Sending an event again adds what it hands over to the calls. -/
theorem Resends.hands
    {answer : Except PublishError Identifier}
    {after : World (σ × List Delivery) Backend}
    (resends :
      replayer.Resends transport.recorded record world (answer, after)) :
    ∃ deliveries,
      replayer.Hands record world.supply deliveries ∧
        after.transport.2 = world.transport.2 ++ deliveries := by
  cases resends with
  | refused error unfit =>
      exact ⟨[], .nothing unfit, (List.append_nil _).symm⟩
  | sent draft topic state ticked breaker recovered passes taken =>
      rw [Transport.deliver_recorded] at taken
      obtain ⟨_, rfl⟩ := Prod.mk.inj taken
      exact ⟨_, .envelope draft topic _ recovered passes, rfl⟩
  | told draft topic state ticked breaker cause recovered passes failed =>
      rw [Transport.deliver_recorded] at failed
      obtain ⟨_, rfl⟩ := Prod.mk.inj failed
      exact ⟨_, .envelope draft topic _ recovered passes, rfl⟩

/--
Sending an event again adds calls to the transport, one of which is taken if it
succeeds and none otherwise.
-/
theorem Resends.deliveries
    {answer : Except PublishError Identifier}
    {after : World (σ × List Delivery) Backend}
    (resends :
      replayer.Resends transport.recorded record world (answer, after)) :
    ∃ deliveries,
      after.transport.2 = world.transport.2 ++ deliveries ∧
        deliveries.countP Delivery.isTaken = if answer.isOk then 1 else 0 := by
  cases resends with
  | refused error => exact ⟨[], (List.append_nil _).symm, rfl⟩
  | sent draft topic state ticked breaker recovered passes taken =>
      rw [Transport.deliver_recorded] at taken
      obtain ⟨accepted, rfl⟩ := Prod.mk.inj taken
      refine ⟨_, rfl, ?_⟩
      rw [accepted]
      rfl
  | told draft topic state ticked breaker cause recovered passes failed =>
      rw [Transport.deliver_recorded] at failed
      obtain ⟨refused, rfl⟩ := Prod.mk.inj failed
      refine ⟨_, rfl, ?_⟩
      rw [refused]
      rfl

variable (replayer transport archive record world)

theorem turn_hands :
    ∃ deliveries,
      replayer.Hands record world.supply deliveries ∧
        (replayer.turn transport.recorded archive record
            world).2.transport.2 =
          world.transport.2 ++ deliveries := by
  have goes := replayer.goes transport.recorded archive record world
  generalize replayer.turn transport.recorded archive record world = result
    at goes ⊢
  -- Stamping the record leaves the transport alone.
  cases goes with
  | unsent error after resends => exact resends.hands
  | sent identifier between resends => exact resends.hands

/-- The calls at a record's turn are what it hands over. -/
theorem hands_handed :
    replayer.Hands record world.supply
      (handed world
        (replayer.turn transport.recorded archive record world).2) := by
  obtain ⟨deliveries, hands, recorded⟩ :=
    replayer.turn_hands transport archive record world
  rw [handed_eq recorded]
  exact hands

theorem transport_turns (records : List BackupRecord) :
    (replayer.turns transport.recorded archive records world).2.transport.2 =
      world.transport.2 ++
        (replayer.calls transport archive records world).map Prod.snd := by
  induction records generalizing world with
  | nil => exact (List.append_nil _).symm
  | cons record records induction =>
      obtain ⟨deliveries, _, recorded⟩ :=
        replayer.turn_hands transport archive record world
      have own :
          (deliveries.map (Prod.mk record)).map Prod.snd = deliveries := by
        rw [List.map_map]
        exact List.map_id _
      unfold turns calls
      dsimp only
      rw [induction, recorded, handed_eq recorded, List.map_append, own,
        List.append_assoc]

/-- The calls of a pass are those that its transport sees. -/
theorem handed_replayAll :
    handed world
        (replayer.replayAll transport.recorded archive world).2 =
      (replayer.passCalls transport archive world).map Prod.snd := by
  apply handed_eq
  rw [replayAll_passTurns]
  unfold passTurns passCalls
  rcases archive.scan world.vault with ⟨answer, backend⟩
  cases answer with
  | error error => exact (List.append_nil _).symm
  | ok scan => exact replayer.transport_turns transport archive _ scan.unsent

variable {replayer transport archive record world}

/-- A call at the turn of a record is among what can be handed over then. -/
theorem hands_of_mem_calls
    {records : List BackupRecord} {delivery : Delivery}
    (member :
      (record, delivery) ∈ replayer.calls transport archive records world) :
    ∃ supply deliveries,
      replayer.Hands record supply deliveries ∧ delivery ∈ deliveries := by
  induction records generalizing world with
  | nil => cases member
  | cons first records induction =>
      rcases List.mem_append.mp member with here | later
      · obtain ⟨_, among, same⟩ := List.mem_map.mp here
        cases same
        exact ⟨_, _,
          replayer.hands_handed transport archive record world, among⟩
      · exact induction later

theorem hands_of_mem_passCalls
    {delivery : Delivery}
    (member :
      (record, delivery) ∈ replayer.passCalls transport archive world) :
    ∃ supply deliveries,
      replayer.Hands record supply deliveries ∧ delivery ∈ deliveries := by
  unfold passCalls at member
  split at member
  · cases member
  · exact hands_of_mem_calls member

/-- A record whose text gives a draft that passes the checks makes a call. -/
theorem exists_mem_calls
    {records : List BackupRecord} (listed : record ∈ records) {draft : Draft}
    {topic : String}
    (recovered :
      replayer.builders.recover record.type record.envelopeText = .ok draft)
    (passes : replayer.publisher.Passes record.type draft topic) :
    ∃ delivery,
      (record, delivery) ∈ replayer.calls transport archive records world := by
  induction records generalizing world with
  | nil => cases listed
  | cons first records induction =>
      unfold calls
      rcases List.mem_cons.mp listed with rfl | later
      · have hands := replayer.hands_handed transport archive record world
        dsimp only
        generalize
          handed world
            (replayer.turn transport.recorded archive record world).2 =
              deliveries at hands ⊢
        cases hands with
        | nothing unfit => exact absurd passes (unfit draft topic recovered)
        | envelope => exact ⟨_, List.mem_cons_self⟩
      · obtain ⟨delivery, member⟩ := induction later
        exact ⟨delivery, List.mem_append_right _ member⟩

theorem exists_mem_passCalls
    {scan : Scan} {backend : Backend}
    (scanned : archive.scan world.vault = (.ok scan, backend))
    (listed : record ∈ scan.unsent) {draft : Draft} {topic : String}
    (recovered :
      replayer.builders.recover record.type record.envelopeText = .ok draft)
    (passes : replayer.publisher.Passes record.type draft topic) :
    ∃ delivery,
      (record, delivery) ∈ replayer.passCalls transport archive world := by
  unfold passCalls
  rw [scanned]
  exact exists_mem_calls listed recovered passes

end EventRelay.Replayer
