import EventRelay.Proofs.Relay.Tally
import EventRelay.Proofs.Replay.Stamp

/-!
# Duplicates come from failed stamps

The event of a record is sent again as often as a pass sent it and failed to
stamp the record, and once more when the record is stamped.  After that no
turn is given to the record.  This holds of every course over an archive that
was filled by persisting envelopes.
-/

namespace EventRelay

open EventRelay.Json EventRelay.Store

namespace Course

variable {σ : Type}

/-! ## Where a course starts -/

/--
What a schema holds after it was empty and then filled only by persisting
envelopes whose identifiers were minted; any of the calls may have failed.
-/
inductive Populated (archive : Archive) (supply : Supply) : Backend → Prop where
  | empty (backend : Backend)
      (none : backend.documents.inSchema archive.schema = []) :
      Populated archive supply backend
  | persist (policy : Retry.Policy) (type : EventType) (envelope : Envelope)
      (failedAt : Timestamp) (backend : Backend)
      (earlier : Populated archive supply backend)
      (minted : ∃ index < supply.minted,
        envelope.header.messageId = supply.identifiers index)
      (valid : failedAt.Valid) :
      Populated archive supply
        (Archive.persist ⟨policy, archive.schema⟩ type envelope failedAt
          backend).2

theorem Populated.holds
    {supply : Supply} {backend : Backend}
    (populated : Populated archive supply backend) :
    archive.Holds
      (fun record => supply.Minted record ∧ record.isSent = false)
      backend.documents := by
  induction populated with
  | empty backend none =>
      constructor
      · rw [none]
        exact Dictionary.ascending_nil
      · intro entry member
        rw [none] at member
        cases member
  | persist policy type envelope failedAt backend earlier minted valid holds =>
      have fares := Archive.write_fares ⟨policy, archive.schema⟩ backend
        (.ofFailedSend type envelope failedAt)
      unfold Archive.persist
      generalize
        Archive.write ⟨policy, archive.schema⟩
            (.ofFailedSend type envelope failedAt) backend =
          answer at fares ⊢
      cases fares with
      | failed error after same => exact same ▸ holds
      | answered after written =>
          obtain ⟨index, earlier, named⟩ := minted
          exact written ▸ holds.put
            (BackupRecord.storable_ofFailedSend type envelope valid)
            ⟨⟨index, earlier, congrArg Identifier.toText named⟩, rfl⟩

theorem kept_start
    {world : World σ Backend}
    (populated : Populated archive world.supply world.vault)
    (clock : ∀ index, (world.supply.times index).Valid) :
    Kept archive (start world) := by
  refine ⟨clock, ?_⟩
  intro _
  have holds := populated.holds
  refine ⟨holds.mono fun record known => known.1, ?_, ?_, ?_, ?_, ?_⟩
  · intro messageId
    show 0 = 0 + archive.stampsAt world.vault.documents messageId
    cases found : world.vault.documents.find? archive.schema messageId with
    | none => rw [Archive.stampsAt_of_missing found]
    | some document =>
        obtain ⟨record, _, rfl, storable, _, unsent⟩ := holds.of_find? found
        rw [Archive.stampsAt_of_find? storable found, unsent]
        rfl
  · intro entry member
    cases member
  · intro record member
    cases member
  · exact List.nodup_nil
  · intro record member
    cases member

/--
At a point of a course that is kept, the envelopes that were taken in the turns
of a record are accounted for, and the record has no turn after its stamp.
-/
theorem Kept.accounts
    {course : Course σ} (kept : Kept archive course) (later : List (Step σ))
    (distinct : (course.run archive later).world.supply.Distinct)
    {key : String} {record : BackupRecord}
    (reads : archive.ReadsAt course.world.vault.documents key record) :
    course.taken record.messageId =
        course.unstamped record.messageId +
          (if record.isSent then 1 else 0) ∧
      (∀ logged ∈ course.turnsOf record.messageId,
        record.SameEvent logged.turn.record) ∧
      (record.isSent = true →
        (course.run archive later).turnsOf record.messageId =
          course.turnsOf record.messageId) := by
  have tally := kept.tally ((kept.run later).2.distinct distinct)
  obtain ⟨document, found, decoded⟩ := reads
  obtain ⟨present, own, rfl, storable, _⟩ := tally.holds.of_find? found
  rw [Archive.decode_toDocument storable] at decoded
  cases decoded
  subst own
  have stamps := Archive.stampsAt_of_find? storable found
  refine ⟨?_, ?_, ?_⟩
  · rw [← stamps]
    exact tally.balanced record.messageId
  · intro logged member
    obtain ⟨given, concerned⟩ := List.mem_filter.mp member
    have own : logged.turn.record.messageId = record.messageId :=
      of_decide_eq_true concerned
    exact (tally.filed logged given).sameEvent storable (own ▸ found)
  · intro sent
    rw [if_pos sent] at stamps
    exact kept.settled stamps later distinct

/--
From an archive that was filled by persisting envelopes, after any steps: for
every record the envelopes that were taken in its turns are as many as the
passes that sent its event and failed to stamp it, and one more if it is
stamped.  All these turns were given to the same event, and once the record is
stamped it has no further turn.
-/
theorem taken_eq_unstamped
    (archive : Archive) (world : World σ Backend)
    (populated : Populated archive world.supply world.vault)
    (clock : ∀ index, (world.supply.times index).Valid)
    (steps later : List (Step σ))
    (distinct :
      ((start world).run archive (steps ++ later)).world.supply.Distinct)
    (key : String) (record : BackupRecord)
    (reads :
      archive.ReadsAt
        ((start world).run archive steps).world.vault.documents key record) :
    ((start world).run archive steps).taken record.messageId =
        ((start world).run archive steps).unstamped record.messageId +
          (if record.isSent then 1 else 0) ∧
      (∀ logged ∈
          ((start world).run archive steps).turnsOf record.messageId,
        record.SameEvent logged.turn.record) ∧
      (record.isSent = true →
        ((start world).run archive (steps ++ later)).turnsOf
            record.messageId =
          ((start world).run archive steps).turnsOf record.messageId) := by
  rw [run_append] at distinct ⊢
  obtain ⟨kept, _⟩ := (kept_start populated clock).run steps
  exact kept.accounts later distinct reads

/-! ## A stamp that fails once -/

section Jammed

open Replayer (openTransport blankRecord standardArchive)

/-- A relay whose transport takes every envelope. -/
def replaying : Relay Unit :=
  ⟨.withBackup none, .standard, openTransport, standardArchive⟩

/-- A store with the record of an event, and what its next reads will meet. -/
def holding (script : List (Option Store.Error)) : Backend :=
  (standardArchive.persist .surveyLaunch
    (Publisher.refused .surveyLaunch Publisher.blankLaunch).envelope ⟨0, 0, 0⟩
    { Backend.empty with readScript := script }).2

/-- What a store reports that cannot be reached. -/
def away : Store.Error := .backend .unavailable "away"

/-- A store that will fail when a record is looked up for the first time. -/
def jammed : World Unit Backend :=
  ⟨{ Supply.still ⟨0, 0, 0⟩ with minted := 1 }, (),
    holding [none, some away, none], .initial⟩

theorem populated_jammed :
    Populated standardArchive jammed.supply jammed.vault :=
  .persist _ _ _ _ _ (.empty _ rfl) ⟨0, Nat.one_pos, rfl⟩
    (Publisher.clock_refusing 0)

theorem scan_holding (script : List (Option Store.Error)) :
    standardArchive.scan (holding (none :: script)) =
      (.ok ⟨[blankRecord], 0, []⟩, holding script) := by
  have only :
      (holding (none :: script)).documents.inSchema standardArchive.schema =
        [(blankRecord.messageId,
          BackupRecord.codec.toDocument blankRecord)] :=
    rfl
  rw [← Archive.sortOut_single Replayer.blankRecord_storable rfl only]
  rfl

theorem markSent_holding :
    ∃ backend,
      standardArchive.markSent blankRecord.messageId ⟨0, 0, 0⟩ (holding []) =
        (.ok true, backend) ∧
      standardArchive.ReadsAt backend.documents blankRecord.messageId
        (blankRecord.markSent ⟨0, 0, 0⟩) := by
  have stamps :=
    standardArchive.stamps (holding []) blankRecord.messageId ⟨0, 0, 0⟩
  have present :
      (holding []).documents.find? standardArchive.schema
          blankRecord.messageId =
        some (BackupRecord.codec.toDocument blankRecord) :=
    rfl
  have reads := Archive.decode_toDocument Replayer.blankRecord_storable
  generalize
    standardArchive.markSent blankRecord.messageId ⟨0, 0, 0⟩ (holding []) =
      result at stamps ⊢
  cases stamps with
  | failed error after same reason =>
      obtain ⟨_, document, found, refused⟩ := reason ⟨nofun, nofun⟩
      rw [present] at found
      cases found
      rw [reads] at refused
      cases refused
  | absent after same missing =>
      rw [present] at missing
      cases missing
  | stamped document record after found decoded written =>
      rw [present] at found
      cases found
      rw [reads] at decoded
      cases decoded
      refine ⟨after, rfl, ?_⟩
      rw [written]
      exact Archive.readsAt_markSent Replayer.blankRecord_storable
        (Publisher.clock_refusing 0) (Documents.find?_put_self _ _ _ _)

/-- One pass over the store sends the event and looks the record up once. -/
theorem run_holding
    {supply : Supply} (still : ∀ index, supply.times index = ⟨0, 0, 0⟩)
    {script : List (Option Store.Error)} {outcome : Except Store.Error Bool}
    {left : Backend}
    (marks :
      standardArchive.markSent blankRecord.messageId ⟨0, 0, 0⟩
          (holding script) =
        (outcome, left))
    (state : Unit × List Delivery) (breaker : Breaker.State)
    (waiting : List BackupRecord) (earlier : List (List Logged))
    (current : List Logged) :
    ∃ after last breaker' identifier deliveries,
      (Course.mk ⟨supply, state, holding (none :: script), breaker⟩ waiting
          earlier current).run standardArchive
          [.begin replaying, .proceed replaying] =
        ⟨⟨after, last, left, breaker'⟩, [], earlier ++ [current],
          [⟨⟨blankRecord, .ok identifier, some outcome⟩, deliveries⟩]⟩ ∧
      after.identifiers = supply.identifiers ∧
      after.times = supply.times ∧ after.minted = supply.minted + 1 := by
  have began :
      (Course.mk ⟨supply, state, holding (none :: script), breaker⟩ waiting
          earlier current).begun standardArchive replaying =
        ⟨⟨supply, state, holding script, breaker⟩, [blankRecord],
          earlier ++ [current], []⟩ := by
    unfold begun
    rw [show (replaying.within standardArchive).archive = standardArchive
      from rfl, scan_holding]
  have takes : openTransport.recorded.Healthy := fun _ _ _ => rfl
  obtain ⟨draft, kind, recovered⟩ := Replayer.blankRecord_rebuilds
  obtain ⟨identifier, ticked, last, breaker', turned⟩ :=
    @Replayer.turn_healthy _ openTransport.recorded standardArchive _
      ⟨supply, state, holding script, breaker⟩ takes draft kind recovered
  dsimp only at turned
  rw [still, marks] at turned
  refine ⟨(supply.afterEnvelope ticked).now.2, last, breaker', identifier,
    last.2.drop state.2.length, ?_, rfl, rfl, rfl⟩
  show ((Course.mk ⟨supply, state, holding (none :: script), breaker⟩ waiting
    earlier current).begun standardArchive replaying).advance standardArchive
      (.proceed replaying) = _
  rw [began]
  show Course.give standardArchive replaying blankRecord [] _ = _
  have given :
      (Course.mk ⟨supply, state, holding script, breaker⟩ [blankRecord]
          (earlier ++ [current]) []).turn standardArchive replaying
          blankRecord =
        (⟨blankRecord, .ok identifier, some outcome⟩,
          ⟨(supply.afterEnvelope ticked).now.2, last, left, breaker'⟩) :=
    turned
  unfold give entry
  rw [given]
  rfl

/-- A pass over a store with one record. -/
def onePass : List (Step Unit) :=
  [.begin replaying, .proceed replaying]

/-- The first pass fails to stamp the record, and the second stamps it. -/
theorem run_jammed :
    ∃ after first second,
      (start jammed).run standardArchive (onePass ++ onePass) =
        ⟨after, [], [[], [first]], [second]⟩ ∧
      (first.turn.record = blankRecord ∧ first.turn.isUnstamped = true) ∧
      (second.turn.record = blankRecord ∧ second.turn.isUnstamped = false) ∧
      after.supply.identifiers = jammed.supply.identifiers ∧
      after.supply.minted = 3 ∧
      standardArchive.ReadsAt after.vault.documents blankRecord.messageId
        (blankRecord.markSent ⟨0, 0, 0⟩) := by
  have still : ∀ index, jammed.supply.times index = ⟨0, 0, 0⟩ :=
    fun _ => rfl
  have fails :
      standardArchive.markSent blankRecord.messageId ⟨0, 0, 0⟩
          (holding [some away, none]) =
        (.error away, holding [none]) :=
    rfl
  obtain ⟨stamped, marks, reads⟩ := markSent_holding
  obtain ⟨supply, state, breaker, identifier, deliveries, ran, identifiers,
      times, minted⟩ :=
    run_holding still fails ((), []) .initial [] [] []
  obtain ⟨last, state', breaker', identifier', deliveries', ran', identifiers',
      _, minted'⟩ :=
    run_holding (fun index => times ▸ still index) marks state breaker []
      ([] ++ [[]])
      [⟨⟨blankRecord, .ok identifier, some (.error away)⟩, deliveries⟩]
  refine ⟨⟨last, state', stamped, breaker'⟩,
    ⟨⟨blankRecord, .ok identifier, some (.error away)⟩, deliveries⟩,
    ⟨⟨blankRecord, .ok identifier', some (.ok true)⟩, deliveries'⟩,
    ?_, ⟨rfl, rfl⟩, ⟨rfl, rfl⟩, identifiers'.trans identifiers, ?_, reads⟩
  · rw [run_append]
    refine (congrArg (run standardArchive · onePass) ran).trans ?_
    exact ran'
  · exact minted'.trans (congrArg (· + 1) minted)

/--
The event of the record is taken twice, for the stamp that failed and for the
one that it bears.
-/
theorem taken_eq_unstamped_jammed :
    Populated standardArchive jammed.supply jammed.vault ∧
      (∀ index, (jammed.supply.times index).Valid) ∧
      ((start jammed).run standardArchive
        (onePass ++ onePass ++ [.begin replaying])).world.supply.Distinct ∧
      standardArchive.ReadsAt
        ((start jammed).run standardArchive
          (onePass ++ onePass)).world.vault.documents
        blankRecord.messageId (blankRecord.markSent ⟨0, 0, 0⟩) ∧
      ((start jammed).run standardArchive (onePass ++ onePass)).unstamped
          blankRecord.messageId =
        1 ∧
      ((start jammed).run standardArchive (onePass ++ onePass)).taken
          blankRecord.messageId =
        2 ∧
      ((start jammed).run standardArchive
          (onePass ++ onePass ++ [.begin replaying])).turnsOf
          blankRecord.messageId =
        ((start jammed).run standardArchive (onePass ++ onePass)).turnsOf
          blankRecord.messageId := by
  have clock : ∀ index, (jammed.supply.times index).Valid :=
    Publisher.clock_refusing
  obtain ⟨after, first, second, ran, one, two, identifiers, minted, reads⟩ :=
    run_jammed
  have supplied :
      ((start jammed).run standardArchive
          (onePass ++ onePass ++ [.begin replaying])).world.supply =
        after.supply := by
    rw [run_append, ran]
    exact begun_supply standardArchive replaying _
  have distinct :
      ((start jammed).run standardArchive
        (onePass ++ onePass ++ [.begin replaying])).world.supply.Distinct := by
    rw [supplied]
    unfold Supply.Distinct
    rw [identifiers, minted]
    show ∀ left < 3, ∀ right < 3,
      Identifier.timeOrdered 0 left = Identifier.timeOrdered 0 right →
        left = right
    decide
  have reads :
      standardArchive.ReadsAt
        ((start jammed).run standardArchive
          (onePass ++ onePass)).world.vault.documents
        blankRecord.messageId (blankRecord.markSent ⟨0, 0, 0⟩) := by
    rw [ran]
    exact reads
  have unstamped :
      ((start jammed).run standardArchive (onePass ++ onePass)).unstamped
          blankRecord.messageId =
        1 := by
    rw [ran]
    simp [Course.unstamped, Logged.concerns, one, two]
  obtain ⟨balanced, _, settled⟩ :=
    taken_eq_unstamped standardArchive jammed populated_jammed clock
      (onePass ++ onePass) [.begin replaying] distinct
      blankRecord.messageId _ reads
  rw [BackupRecord.messageId_markSent, BackupRecord.isSent_markSent, unstamped]
    at balanced
  rw [BackupRecord.messageId_markSent, BackupRecord.isSent_markSent] at settled
  exact ⟨populated_jammed, clock, distinct, reads, unstamped, balanced,
    settled rfl⟩

end Jammed

end Course

end EventRelay
