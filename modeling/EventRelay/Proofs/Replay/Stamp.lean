import EventRelay.Proofs.Backup.Overlay
import EventRelay.Proofs.Publisher.Rebuilding
import EventRelay.Proofs.Replay.Turn

/-!
# Which records a pass stamps

A pass lists the documents of an archive by their keys, but it stamps the
record that it finds under the identifier in the document.  The two are the
same for every record that the archive has filed itself.  Where a document
tells the identifier of another key, nothing is stamped under its own: the pass
counts the record as replayed, and the next one sends its event again.
-/

namespace EventRelay

open EventRelay.Json EventRelay.Store

namespace Replayer

variable {σ : Type}

/-- The clock and the store work, and the documents have only been stamped. -/
structure Intact
    (archive : Archive) (start : Documents) (world : World σ Backend) :
    Prop where
  clock : ∀ index, (world.supply.times index).Valid
  healthy : world.vault.Healthy
  overlay : archive.Overlay start world.vault.documents

/-- What a pass has achieved when it has given some turns. -/
structure Advances
    (archive : Archive) (start : Documents) (world : World σ Backend)
    (turns : List Turn) (after : World σ Backend) : Prop where
  intact : Intact archive start after
  kept : ∀ key,
    archive.StampedAt world.vault.documents key →
      archive.StampedAt after.vault.documents key
  stamped : ∀ turn ∈ turns, turn.isReplayed = true →
    archive.ReadsAt start turn.record.messageId turn.record →
      archive.StampedAt after.vault.documents turn.record.messageId

variable (replayer : Replayer) (transport : Transport σ) {archive : Archive}
  {start : Documents} {world : World σ Backend}

theorem Intact.resends
    {replayer : Replayer} {transport : Transport σ} {between : World σ Backend}
    (intact : Intact archive start world) {record : BackupRecord}
    {answer : Except PublishError Identifier}
    (resends : replayer.Resends transport record world (answer, between)) :
    Intact archive start between := by
  obtain ⟨vault, times⟩ := resends.unmoved
  exact ⟨times ▸ intact.clock, vault ▸ intact.healthy, vault ▸ intact.overlay⟩

/-- A turn whose stamp succeeds stamps a record under its own identifier. -/
theorem Intact.advances_turn
    (intact : Intact archive start world) (record : BackupRecord) :
    Advances archive start world
      [(replayer.turn transport archive record world).1]
      (replayer.turn transport archive record world).2 := by
  have goes := replayer.goes transport archive record world
  generalize replayer.turn transport archive record world = result at goes ⊢
  cases goes with
  | unsent error after resends =>
      refine ⟨intact.resends resends, ?_, ?_⟩
      · intro key stamped
        exact resends.unmoved.1 ▸ stamped
      · intro turn member replayed
        cases List.mem_singleton.mp member
        cases replayed
  | sent identifier between resends outcome backend stamps =>
      obtain ⟨clock, healthy, overlay⟩ := intact.resends resends
      have same : between.vault.documents = world.vault.documents :=
        congrArg Backend.documents resends.unmoved.1
      cases stamps with
      | failed error _ unchanged reason =>
          refine ⟨⟨clock, (reason healthy).1, unchanged ▸ overlay⟩, ?_, ?_⟩
          · intro key stamped
            rw [show backend.documents = world.vault.documents from
              unchanged.trans same]
            exact stamped
          · intro turn member replayed
            cases List.mem_singleton.mp member
            cases replayed
      | absent _ unchanged missing stays =>
          refine ⟨⟨clock, stays healthy, unchanged ▸ overlay⟩, ?_, ?_⟩
          · intro key stamped
            rw [show backend.documents = world.vault.documents from
              unchanged.trans same]
            exact stamped
          · intro turn member _ reads
            cases List.mem_singleton.mp member
            obtain ⟨_, ⟨_, here, _⟩, _⟩ := overlay.own reads
            rw [missing] at here
            cases here
      | stamped document found _ here decoded written stays =>
          have reads :
              archive.ReadsAt between.vault.documents record.messageId found :=
            ⟨document, here, decoded⟩
          have valid : between.supply.now.1.Valid := clock _
          refine ⟨⟨clock, stays healthy, ?_⟩, ?_, ?_⟩
          · rw [written]
            exact overlay.put valid reads
          · intro key stamped
            rw [written, same]
            exact stamped.put reads.storable valid
          · intro turn member _ original
            cases List.mem_singleton.mp member
            obtain ⟨named, namedReads, own⟩ := overlay.own original
            obtain rfl := reads.unique namedReads
            rw [written, ← own]
            exact Archive.stampedAt_put reads.storable valid

theorem Intact.advances_turns
    (intact : Intact archive start world) (records : List BackupRecord) :
    Advances archive start world
      (replayer.turns transport archive records world).1
      (replayer.turns transport archive records world).2 := by
  induction records generalizing world with
  | nil =>
      refine ⟨intact, fun _ stamped => stamped, ?_⟩
      intro turn member
      cases member
  | cons record records induction =>
      have first :=
        intact.advances_turn replayer transport record
      have others := induction first.intact
      rw [turns]
      refine ⟨others.intact, ?_, ?_⟩
      · exact fun key stamped => others.kept key (first.kept key stamped)
      · intro turn member replayed reads
        rcases List.mem_cons.mp member with rfl | later
        · exact others.kept _
            (first.stamped _ (List.mem_singleton_self _) replayed reads)
        · exact others.stamped turn later replayed reads

/-! ## What a pass counts as replayed -/

variable (archive)

/-- The records that a pass gives a turn. -/
def taken (world : World σ Backend) : List BackupRecord :=
  (replayer.passTurns transport archive world).1.map Turn.record

/-- The records that a pass counts as replayed. -/
def replayed (world : World σ Backend) : List BackupRecord :=
  ((replayer.passTurns transport archive world).1.filter
    Turn.isReplayed).map Turn.record

/-- Over a store that works a pass gives every record that waits its turn. -/
theorem passTurns_healthy {world : World σ Backend}
    (healthy : world.vault.Healthy) :
    ∃ backend : Backend,
      backend.documents = world.vault.documents ∧ backend.Healthy ∧
        replayer.passTurns transport archive world =
          replayer.turns transport archive
            (Archive.sortOut
              (world.vault.documents.list archive.schema)).unsent
            { world with vault := backend } ∧
        ∃ summary : ReplaySummary,
          summary.replayed =
              (replayer.replayed transport archive world).length ∧
            replayer.replayAll transport archive world =
              (.ok summary,
                (replayer.passTurns transport archive world).2) := by
  have fares := archive.scan_fares world.vault
  unfold replayed replayAll passTurns
  generalize archive.scan world.vault = answer at fares ⊢
  cases fares with
  | failed error after same ailing => exact absurd healthy ailing
  | answered backend same stays =>
      refine ⟨backend, same, stays healthy, rfl, ?_⟩
      dsimp only
      rw [replayRecords_eq]
      refine ⟨_, ?_, rfl⟩
      rw [foldl_count]
      dsimp only
      rw [List.length_map, ← List.countP_eq_length_filter]
      exact Nat.zero_add _

theorem taken_healthy {world : World σ Backend}
    (healthy : world.vault.Healthy) :
    replayer.taken transport archive world =
      (Archive.sortOut (world.vault.documents.list archive.schema)).unsent := by
  obtain ⟨backend, _, _, same, _⟩ :=
    replayer.passTurns_healthy transport archive healthy
  unfold taken
  rw [same, turns_records]

variable {archive}

/-- A record that is counted as replayed was not stamped before. -/
theorem unsent_of_mem_replayed
    {replayer : Replayer} {transport : Transport σ} {world : World σ Backend}
    (healthy : world.vault.Healthy)
    {record : BackupRecord}
    (replayed : record ∈ replayer.replayed transport archive world) :
    record.isSent = false := by
  obtain ⟨turn, member, rfl⟩ := List.mem_map.mp replayed
  have taken : turn.record ∈ replayer.taken transport archive world :=
    List.mem_map.mpr ⟨turn, (List.mem_filter.mp member).1, rfl⟩
  rw [replayer.taken_healthy transport archive healthy] at taken
  exact (Archive.mem_unsent_iff.mp taken).1

theorem advances_pass
    {world : World σ Backend} (healthy : world.vault.Healthy)
    (ordered : (world.vault.documents.inSchema archive.schema).Ascending)
    (clock : ∀ index, (world.supply.times index).Valid) :
    Advances archive world.vault.documents world
      (replayer.passTurns transport archive world).1
      (replayer.passTurns transport archive world).2 := by
  obtain ⟨backend, same, stays, turns, _⟩ :=
    replayer.passTurns_healthy transport archive healthy
  have unchanged :
      archive.Overlay world.vault.documents backend.documents := by
    rw [same]
    exact .refl ordered
  have begun :
      Intact archive world.vault.documents { world with vault := backend } :=
    ⟨clock, stays, unchanged⟩
  have advances := begun.advances_turns replayer transport
    (Archive.sortOut (world.vault.documents.list archive.schema)).unsent
  rw [turns]
  refine ⟨advances.intact, ?_, advances.stamped⟩
  intro key stamped
  exact advances.kept key (same ▸ stamped)

/-- A record that is counted as replayed is stamped under its own identifier. -/
theorem Advances.stampedAt
    {replayer : Replayer} {transport : Transport σ}
    {world after : World σ Backend}
    (advances :
      Advances archive start world
        (replayer.passTurns transport archive world).1 after)
    {record : BackupRecord}
    (replayed : record ∈ replayer.replayed transport archive world)
    (reads : archive.ReadsAt start record.messageId record) :
    archive.StampedAt after.vault.documents record.messageId := by
  obtain ⟨turn, member, rfl⟩ := List.mem_map.mp replayed
  obtain ⟨given, succeeded⟩ := List.mem_filter.mp member
  exact advances.stamped turn given succeeded reads

/--
Over a store that works, a pass ends with a summary that counts the records
replayed.  A document of such a record is stamped if it lies under the
identifier of the record, and only then unless another document tells its key.
The next pass takes such a record again exactly if a document under another
key than its identifier is still read as the record.
-/
theorem replayed_stamped_iff
    (replayer : Replayer) (transport : Transport σ) (archive : Archive)
    (world : World σ Backend) (healthy : world.vault.Healthy)
    (ordered : (world.vault.documents.inSchema archive.schema).Ascending)
    (clock : ∀ index, (world.supply.times index).Valid) :
    ∃ summary after,
      replayer.replayAll transport archive world = (.ok summary, after) ∧
      summary.replayed = (replayer.replayed transport archive world).length ∧
      ∀ record ∈ replayer.replayed transport archive world,
        (∀ key,
          archive.ReadsAt world.vault.documents key record →
            (key = record.messageId →
              archive.StampedAt after.vault.documents key) ∧
            ((∀ other, other ≠ key →
                ¬archive.NamedAt world.vault.documents other key) →
              (archive.StampedAt after.vault.documents key ↔
                key = record.messageId))) ∧
        (record ∈ replayer.taken transport archive after ↔
          ∃ key, key ≠ record.messageId ∧
            archive.ReadsAt world.vault.documents key record ∧
            archive.ReadsAt after.vault.documents key record) := by
  obtain ⟨_, _, _, _, summary, counted, passed⟩ :=
    replayer.passTurns_healthy transport archive healthy
  have advances :=
    advances_pass replayer transport healthy ordered clock
  have overlay := advances.intact.overlay
  refine ⟨summary, _, passed, counted, ?_⟩
  intro record replayed
  have unsent := unsent_of_mem_replayed healthy replayed
  constructor
  · intro key reads
    refine ⟨fun own => own ▸ advances.stampedAt replayed (own ▸ reads), ?_⟩
    intro unnamed
    refine ⟨?_, fun own => own ▸ advances.stampedAt replayed (own ▸ reads)⟩
    intro stamped
    apply Classical.byContradiction
    intro misplaced
    have kept := overlay.readsAt_of_unnamed reads misplaced unnamed
    exact kept.not_stampedAt unsent stamped
  · rw [replayer.taken_healthy transport archive advances.intact.healthy,
      Archive.mem_unsent_iff_readsAt overlay.ordered]
    constructor
    · rintro ⟨_, key, reads⟩
      rcases overlay.readsAt reads with original | ⟨_, _, _, _, _, rfl⟩
      · refine ⟨key, ?_, original, reads⟩
        rintro rfl
        exact reads.not_stampedAt unsent (advances.stampedAt replayed original)
      · cases unsent
    · rintro ⟨key, _, _, reads⟩
      exact ⟨unsent, key, reads⟩

/-! ## A document under another key -/

section Working

variable {σ : Type} {transport : Transport σ} {archive : Archive}
  {record : BackupRecord} {world : World σ Backend}

/--
Over a transport that works, the turn of a record that can be rebuilt sends its
event and goes on to stamp it.
-/
theorem turn_healthy
    (takes : transport.Healthy) {draft : Draft}
    (kind : draft.payload.kind = record.type.payloadKind)
    (recovered :
      BuilderTable.standard.recover record.type record.envelopeText =
        .ok draft) :
    ∃ identifier ticked state breaker,
      standard.turn transport archive record world =
        (⟨record, .ok identifier,
            some
              (archive.markSent record.messageId
                (world.supply.times (world.supply.timed + 1)) world.vault).1⟩,
          ⟨(world.supply.afterEnvelope ticked).now.2, state,
            (archive.markSent record.messageId
              (world.supply.times (world.supply.timed + 1)) world.vault).2,
            breaker⟩) := by
  have succeeds :=
    Publisher.resend_healthy kind recovered takes archive.vault world
  have resends := standard.resends transport archive record world
  unfold turn
  generalize
    standard.publisher.resend transport archive.vault record world =
      result at succeeds resends ⊢
  cases resends with
  | refused => cases succeeds
  | sent draft topic state ticked breaker =>
      exact ⟨_, ticked, state, breaker, rfl⟩
  | told => cases succeeds

/--
If all there is lies under another key than its identifier, its event is sent
and nothing is stamped.
-/
theorem passTurns_misplaced
    (takes : transport.Healthy) {draft : Draft}
    (kind : draft.payload.kind = record.type.payloadKind)
    (recovered :
      BuilderTable.standard.recover record.type record.envelopeText = .ok draft)
    (storable : record.Storable) (unsent : record.isSent = false)
    (healthy : world.vault.Healthy) {key : String}
    (misplaced : record.messageId ≠ key)
    (only :
      world.vault.documents.inSchema archive.schema =
        [(key, BackupRecord.codec.toDocument record)]) :
    ∃ identifier after,
      standard.passTurns transport archive world =
        ([⟨record, .ok identifier, some (.ok false)⟩], after) ∧
      after.vault.documents = world.vault.documents ∧
      after.vault.Healthy := by
  obtain ⟨backend, same, stays, turns, _⟩ :=
    standard.passTurns_healthy transport archive healthy
  have missing :
      world.vault.documents.find? archive.schema record.messageId = none := by
    unfold Documents.find?
    rw [only]
    exact if_neg misplaced
  rw [turns, Archive.sortOut_single storable unsent only]
  show ∃ identifier after,
    ([(standard.turn transport archive record
        { world with vault := backend }).1],
      (standard.turn transport archive record
        { world with vault := backend }).2) = _ ∧ _
  have goes :=
    standard.goes transport archive record { world with vault := backend }
  have answered :
      (standard.turn transport archive record
        { world with vault := backend }).1.answer.isOk = true := by
    rw [turn_answer]
    exact Publisher.resend_healthy kind recovered takes archive.vault _
  generalize
    standard.turn transport archive record { world with vault := backend } =
      result at goes answered ⊢
  cases goes with
  | unsent error after resends => cases answered
  | sent identifier between resends outcome left stamps =>
      have unmoved : between.vault = backend := resends.unmoved.1
      have absent :
          between.vault.documents.find? archive.schema record.messageId =
            none := by
        rw [unmoved, same]
        exact missing
      cases stamps with
      | failed error _ unchanged reason =>
          obtain ⟨_, document, found, _⟩ := reason (unmoved ▸ stays)
          rw [absent] at found
          cases found
      | absent _ unchanged _ healthy =>
          refine ⟨identifier, _, rfl, ?_, healthy (unmoved ▸ stays)⟩
          exact unchanged.trans (unmoved ▸ same)
      | stamped document found _ here =>
          rw [absent] at here
          cases here

end Working

/-- A transport that takes every envelope. -/
def openTransport : Transport Unit :=
  ⟨fun _ _ _ => (.ok (), ())⟩

/-- The record of an event with next to nothing in it. -/
def blankRecord : BackupRecord :=
  (Publisher.refused .surveyLaunch Publisher.blankLaunch).record

/-- A store with a record under another key than its identifier. -/
def misplaced : World Unit Backend :=
  ⟨.still ⟨0, 0, 0⟩, (),
    { Backend.empty with
      documents := Documents.empty.put Archive.standardSchema "elsewhere"
        (BackupRecord.codec.toDocument blankRecord) },
    .initial⟩

/-- The archive under the standard policy and schema. -/
def standardArchive : Archive := ⟨.standard, Archive.standardSchema⟩

/-- The record can be made into an event again. -/
theorem blankRecord_rebuilds :
    ∃ draft : Draft,
      draft.payload.kind = blankRecord.type.payloadKind ∧
        BuilderTable.standard.recover blankRecord.type
            blankRecord.envelopeText =
          .ok draft := by
  have accepted :
      Payload.decode EventType.surveyLaunch.payloadKind Publisher.blankText =
        .ok Publisher.blankLaunch :=
    rfl
  obtain ⟨content, same, lasts⟩ := Payload.lasts_of_decode accepted
  cases same
  have valid :
      (Publisher.refused .surveyLaunch
        Publisher.blankLaunch).envelope.header.time.Valid :=
    Publisher.clock_refusing 0
  obtain ⟨draft, kind, recovered, _⟩ :=
    @Envelope.recover_encode .surveyLaunch _ _ valid lasts
  exact ⟨draft, kind, recovered⟩

theorem blankRecord_storable : blankRecord.Storable :=
  BackupRecord.storable_ofFailedSend _ _ (Publisher.clock_refusing 0)

/--
What lies in the store lies there after every pass, and is replayed again.
-/
theorem replayed_misplaced
    {world : World Unit Backend} (healthy : world.vault.Healthy)
    (same : world.vault.documents = misplaced.vault.documents) :
    ∃ summary after,
      standard.replayAll openTransport standardArchive world =
        (.ok summary, after) ∧
      summary.replayed = 1 ∧
      standard.replayed openTransport standardArchive world = [blankRecord] ∧
      after.vault.documents = misplaced.vault.documents ∧
      after.vault.Healthy := by
  obtain ⟨draft, kind, recovered⟩ := blankRecord_rebuilds
  have takes : openTransport.Healthy := fun _ _ _ => rfl
  have elsewhere : blankRecord.messageId ≠ "elsewhere" := by decide
  have only :
      world.vault.documents.inSchema standardArchive.schema =
        [("elsewhere", BackupRecord.codec.toDocument blankRecord)] := by
    rw [same]
    rfl
  obtain ⟨identifier, after, passed, left, stays⟩ :=
    passTurns_misplaced takes kind recovered blankRecord_storable rfl healthy
      elsewhere only
  have replayed :
      standard.replayed openTransport standardArchive world =
        [blankRecord] := by
    unfold replayed
    rw [passed]
    rfl
  obtain ⟨_, _, _, _, summary, counted, answered⟩ :=
    standard.passTurns_healthy openTransport standardArchive healthy
  rw [replayed] at counted
  rw [passed] at answered
  exact ⟨summary, after, answered, counted, replayed, left.trans same, stays⟩

theorem healthy_misplaced : misplaced.vault.Healthy :=
  ⟨nofun, nofun⟩

theorem reads_misplaced :
    standardArchive.ReadsAt misplaced.vault.documents "elsewhere"
      blankRecord :=
  ⟨_, rfl, Archive.decode_toDocument blankRecord_storable⟩

/-- The document is counted as replayed and is not stamped. -/
theorem replayed_stamped_misplaced :
    misplaced.vault.Healthy ∧
      (misplaced.vault.documents.inSchema
        standardArchive.schema).Ascending ∧
      (∀ index, (misplaced.supply.times index).Valid) ∧
      ∃ summary after,
        standard.replayAll openTransport standardArchive misplaced =
          (.ok summary, after) ∧
        summary.replayed = 1 ∧
        ¬standardArchive.StampedAt after.vault.documents "elsewhere" := by
  have ordered :
      (misplaced.vault.documents.inSchema
        standardArchive.schema).Ascending :=
    Dictionary.ascending_nil.insert _ _
  have clock (index : Nat) : (misplaced.supply.times index).Valid :=
    Publisher.clock_refusing index
  obtain ⟨_, _, _, _, replayed, _⟩ := replayed_misplaced healthy_misplaced rfl
  obtain ⟨summary, after, passed, counted, stamps⟩ :=
    replayed_stamped_iff standard openTransport standardArchive misplaced
      healthy_misplaced ordered clock
  rw [replayed] at counted stamps
  obtain ⟨_, exact⟩ :=
    (stamps blankRecord (List.mem_singleton_self _)).1 "elsewhere"
      reads_misplaced
  refine
    ⟨healthy_misplaced, ordered, clock, summary, after, passed, counted, ?_⟩
  rw [exact]
  · decide
  · rintro other different ⟨_, ⟨_, found, _⟩, _⟩
    have elsewhere :
        misplaced.vault.documents.find? standardArchive.schema other = none :=
      Documents.find?_put_of_ne .empty _ different _
    rw [elsewhere] at found
    cases found

/--
A pass counts the record as replayed and stamps nothing, and the next pass
sends its event again.
-/
theorem not_replayed_stamped_misplaced :
    ∃ summary between again after,
      standard.replayAll openTransport standardArchive misplaced =
        (.ok summary, between) ∧
      summary.replayed = 1 ∧
      standard.replayed openTransport standardArchive misplaced =
        [blankRecord] ∧
      ¬standardArchive.StampedAt between.vault.documents "elsewhere" ∧
      standard.replayAll openTransport standardArchive between =
        (.ok again, after) ∧
      again.replayed = 1 ∧
      standard.replayed openTransport standardArchive between =
        [blankRecord] := by
  obtain ⟨summary, between, first, counted, replayed, left, healthy⟩ :=
    replayed_misplaced healthy_misplaced rfl
  obtain ⟨again, after, second, recounted, repeated, _⟩ :=
    replayed_misplaced healthy left
  have unstamped :
      ¬standardArchive.StampedAt between.vault.documents "elsewhere" := by
    rw [left]
    exact reads_misplaced.not_stampedAt rfl
  exact ⟨summary, between, again, after, first, counted, replayed, unstamped,
    second, recounted, repeated⟩

end Replayer

end EventRelay
