import EventRelay.Proofs.Backup.Waiting
import EventRelay.Proofs.Replay.Calls
import EventRelay.Proofs.Replay.Stamp

/-!
# What a pass accounts for

A pass ends with three counts, and they account for every document that its
scan has listed: the stamped ones are skipped, the rest is replayed or failed,
and what is no record has failed.  Each waiting document makes at most one call
to the transport, and the calls come in the order of the waiting documents.
How many envelopes the transport takes lies between the records counted as
replayed and the records that waited, since an event may be sent and its stamp
fail.

Only the scan can end a pass early, before any call and any write.
-/

namespace EventRelay.Replayer

open EventRelay.Json EventRelay.Store

variable {σ : Type}

/-- The summary and the calls of a pass over some documents. -/
structure Accounts
    (replayer : Replayer) (archive : Archive) (documents : Documents)
    (summary : ReplaySummary) (deliveries : List Delivery) : Prop where
  skipped :
    summary.skipped =
      (documents.list archive.schema).countP Archive.isStamped
  /-- All other documents are replayed or failed. -/
  attempted :
    summary.replayed + summary.failed =
      (documents.list archive.schema).countP fun document =>
        !Archive.isStamped document
  /-- What failed is no record, or it is a record that was not replayed. -/
  failed :
    summary.failed =
      (documents.list archive.schema).countP Archive.isUndecodable +
        ((documents.list archive.schema).countP Archive.isWaiting -
          summary.replayed)
  /-- The transport took an envelope for everything that was replayed … -/
  replayed : summary.replayed ≤ deliveries.countP Delivery.isTaken
  /-- … and at most one for every document that waited. -/
  taken :
    deliveries.countP Delivery.isTaken ≤
      (documents.list archive.schema).countP Archive.isWaiting
  /--
  The calls are those of some waiting documents, one for each, oldest failure
  first and then by key.
  -/
  calls :
    ∃ called : List (String × BackupRecord),
      called.Pairwise Archive.Precedes ∧
      (called.map Prod.fst).Nodup ∧
      (∀ entry ∈ called,
        archive.ReadsAt documents entry.1 entry.2 ∧
          entry.2.isSent = false) ∧
      List.Forall₂
        (fun entry delivery =>
          ∃ supply, replayer.Hands entry.2 supply [delivery])
        called deliveries

variable (replayer : Replayer) (transport : Transport σ) (archive : Archive)

/-! ## Calls and turns -/

/-- A turn is replayed only if its event was sent. -/
theorem isOk_of_isReplayed
    (record : BackupRecord) (world : World σ Backend)
    (replayed :
      (replayer.turn transport archive record world).1.isReplayed = true) :
    (replayer.turn transport archive record world).1.answer.isOk = true := by
  have goes := replayer.goes transport archive record world
  generalize replayer.turn transport archive record world = result
    at goes replayed ⊢
  cases goes with
  | unsent error after resends => cases replayed
  | sent identifier between resends outcome backend stamps => rfl

/-- The transport takes an envelope at a turn exactly if its event is sent. -/
theorem taken_turn
    (record : BackupRecord) (world : World (σ × List Delivery) Backend) :
    (handed world
        (replayer.turn transport.recorded archive record world).2).countP
        Delivery.isTaken =
      if (replayer.turn transport.recorded archive record
        world).1.answer.isOk then 1 else 0 := by
  have goes := replayer.goes transport.recorded archive record world
  generalize replayer.turn transport.recorded archive record world = result
    at goes ⊢
  cases goes with
  | unsent error after resends =>
      obtain ⟨deliveries, recorded, counted⟩ := resends.deliveries
      rw [handed_eq recorded]
      exact counted
  | sent identifier between resends outcome backend stamps =>
      -- Stamping the record leaves the transport alone.
      obtain ⟨deliveries, recorded, counted⟩ := resends.deliveries
      have same :
          handed world
              { between with
                supply := between.supply.now.2
                vault := backend } =
            deliveries :=
        handed_eq recorded
      rw [same]
      exact counted

/-- The transport takes as many envelopes as there are events that are sent. -/
theorem taken_calls
    (records : List BackupRecord)
    (world : World (σ × List Delivery) Backend) :
    ((replayer.calls transport archive records world).map Prod.snd).countP
        Delivery.isTaken =
      (replayer.turns transport.recorded archive records world).1.countP
        fun turn => turn.answer.isOk := by
  induction records generalizing world with
  | nil => rfl
  | cons record records induction =>
      unfold calls turns
      dsimp only
      rw [List.map_append, List.countP_append, List.map_map, List.countP_cons,
        induction, Nat.add_comm]
      exact congrArg (_ + ·)
        ((congrArg (List.countP _) (List.map_id _)).trans
          (replayer.taken_turn transport archive record world))

/-- What is replayed was sent. -/
theorem replayed_le_sent
    (records : List BackupRecord) (world : World σ Backend) :
    (replayer.turns transport archive records world).1.countP
        Turn.isReplayed ≤
      (replayer.turns transport archive records world).1.countP
        fun turn => turn.answer.isOk := by
  induction records generalizing world with
  | nil => exact Nat.le_refl 0
  | cons record records induction =>
      have others :=
        induction (replayer.turn transport archive record world).2
      have first := replayer.isOk_of_isReplayed transport archive record world
      unfold turns
      dsimp only
      rw [List.countP_cons, List.countP_cons]
      refine Nat.add_le_add others ?_
      split
      · next replayed => rw [if_pos (first replayed)]
      · exact Nat.zero_le _

/-- The records of the calls are some of those that have a turn, in order. -/
theorem sublist_calls
    (records : List BackupRecord)
    (world : World (σ × List Delivery) Backend) :
    ((replayer.calls transport archive records world).map Prod.fst).Sublist
      records := by
  induction records generalizing world with
  | nil => exact .slnil
  | cons record records induction =>
      have hands := replayer.hands_handed transport archive record world
      unfold calls
      dsimp only
      rw [List.map_append]
      generalize
        handed world
          (replayer.turn transport.recorded archive record world).2 =
            deliveries at hands ⊢
      cases hands with
      | nothing unfit => exact (induction _).cons _
      | envelope draft topic outcome recovered passes =>
          exact (induction _).cons_cons _

/-- Every turn is replayed or it is not. -/
theorem countP_turns
    (records : List BackupRecord) (world : World σ Backend) :
    (replayer.turns transport archive records world).1.countP
          Turn.isReplayed +
        (replayer.turns transport archive records world).1.countP
          (fun turn => !turn.isReplayed) =
      records.length := by
  have every := congrArg List.length
    (replayer.turns_records transport archive records world)
  rw [List.length_map] at every
  rw [← every, List.length_eq_countP_add_countP Turn.isReplayed]
  simp

/--
The calls are those of some of the records, each of which hands over the one
envelope that it gives.
-/
theorem exists_called
    (entries : List (String × BackupRecord))
    (world : World (σ × List Delivery) Backend) :
    ∃ called : List (String × BackupRecord),
      called.Sublist entries ∧
      List.Forall₂
        (fun entry delivery =>
          ∃ supply, replayer.Hands entry.2 supply [delivery])
        called
        ((replayer.calls transport archive (entries.map Prod.snd) world).map
          Prod.snd) := by
  obtain ⟨called, among, same⟩ := List.sublist_map_iff.mp
    (replayer.sublist_calls transport archive (entries.map Prod.snd) world)
  have hands :
      List.Forall₂
        (fun record delivery =>
          ∃ supply, replayer.Hands record supply [delivery])
        (called.map Prod.snd)
        ((replayer.calls transport archive (entries.map Prod.snd) world).map
          Prod.snd) := by
    rw [← same, List.forall₂_map_left_iff, List.forall₂_map_right_iff,
      List.forall₂_same]
    rintro ⟨record, delivery⟩ member
    obtain ⟨supply, deliveries, hands, present⟩ := hands_of_mem_calls member
    refine ⟨supply, ?_⟩
    cases hands with
    | nothing unfit => cases present
    | envelope draft topic outcome recovered passes =>
        rw [List.mem_singleton.mp present]
        exact .envelope draft topic outcome recovered passes
  exact ⟨called, among, List.forall₂_map_left_iff.mp hands⟩

/-! ## The account of a pass -/

/-- The turns of the records that wait account for all documents. -/
theorem accounts_turns
    (world : World (σ × List Delivery) Backend) {documents : Documents}
    (ordered : (documents.inSchema archive.schema).Ascending) {scan : Scan}
    (scanned : scan = Archive.sortOut (documents.list archive.schema)) :
    replayer.Accounts archive documents
      ((replayer.turns transport.recorded archive scan.unsent
        world).1.foldl Turn.count ⟨0, scan.sent, scan.undecodable.length⟩)
      (handed world
        (replayer.turns transport.recorded archive scan.unsent world).2) := by
  obtain ⟨stamped, waiting, undecodable⟩ :=
    Archive.sortOut_counts (documents.list archive.schema)
  rw [← scanned] at stamped waiting undecodable
  have unstamped :=
    Archive.countP_not_isStamped (documents.list archive.schema)
  have every :=
    replayer.countP_turns transport.recorded archive scan.unsent world
  have sent :=
    replayer.replayed_le_sent transport.recorded archive scan.unsent world
  have taken := replayer.taken_calls transport archive scan.unsent world
  have waits := archive.map_waiting documents
  rw [← scanned] at waits
  obtain ⟨called, among, hands⟩ :=
    replayer.exists_called transport archive (archive.waiting documents) world
  rw [waits] at hands
  rw [handed_eq (replayer.transport_turns transport archive world scan.unsent),
    foldl_count]
  constructor
  case skipped => exact stamped
  case attempted => dsimp only; omega
  case failed => dsimp only; omega
  case replayed => dsimp only; omega
  case taken =>
    calc
      _ ≤ _ := List.countP_le_length
      _ = called.length := hands.length_eq.symm
      _ ≤ (archive.waiting documents).length := among.length_le
      _ = scan.unsent.length := by rw [← waits, List.length_map]
      _ = _ := waiting
  case calls =>
    refine ⟨called, (Archive.pairwise_waiting ordered).sublist among,
      (Archive.nodup_waiting ordered).sublist (among.map _), ?_, hands⟩
    intro entry member
    exact (Archive.mem_waiting ordered).mp (among.subset member)

/--
A pass fails only with its scan, before any call and any write; otherwise its
summary and its calls account for all documents of the archive.
-/
theorem replayAll_accounts
    (world : World (σ × List Delivery) Backend)
    (ordered :
      (world.vault.documents.inSchema archive.schema).Ascending) :
    match world.vault.list archive.schema with
    | (.error error, listed) =>
      replayer.replayAll transport.recorded archive world =
          (.error error, { world with vault := listed }) ∧
        listed.documents = world.vault.documents ∧
        listed.writes = world.vault.writes
    | (.ok _, _) =>
      ∃ summary after,
        replayer.replayAll transport.recorded archive world =
            (.ok summary, after) ∧
          replayer.Accounts archive world.vault.documents summary
            (handed world after) := by
  unfold replayAll Archive.scan Backend.list Backend.ask
  dsimp only
  cases world.vault.readScript.head?.join with
  | some error => exact ⟨rfl, rfl, rfl⟩
  | none =>
      dsimp only
      rw [replayRecords_eq]
      exact ⟨_, _, rfl,
        replayer.accounts_turns transport archive _ ordered rfl⟩

/-- A store with a record that waits, a stamped one and a document of none. -/
def mixed : World (Unit × List Delivery) Backend :=
  ⟨.still ⟨0, 0, 0⟩, ((), []),
    { Backend.empty with
      documents :=
        ((Documents.empty.put Archive.standardSchema "sent"
          (BackupRecord.codec.toDocument
            (blankRecord.markSent ⟨0, 0, 0⟩))).put
          Archive.standardSchema "none" .null).put
          Archive.standardSchema "waiting"
          (BackupRecord.codec.toDocument blankRecord) },
    .initial⟩

/-- A pass over the store skips one document and attempts the other two. -/
theorem replayAll_accounts_mixed :
    (mixed.vault.documents.inSchema standardArchive.schema).Ascending ∧
      ∃ summary after,
        standard.replayAll openTransport.recorded standardArchive mixed =
            (.ok summary, after) ∧
          summary.skipped = 1 ∧
          summary.attempted = 2 ∧
          (handed mixed after).countP Delivery.isTaken ≤ 1 := by
  have ordered :
      (mixed.vault.documents.inSchema standardArchive.schema).Ascending := by
    unfold mixed standardArchive
    dsimp only
    rw [Documents.inSchema_put, Documents.inSchema_put,
      Documents.inSchema_put]
    exact ((Dictionary.ascending_nil.insert _ _).insert _ _).insert _ _
  obtain ⟨summary, after, passed, accounts⟩ :=
    replayAll_accounts standard openTransport standardArchive mixed ordered
  have listed :
      mixed.vault.documents.list standardArchive.schema =
        [.null,
          BackupRecord.codec.toDocument (blankRecord.markSent ⟨0, 0, 0⟩),
          BackupRecord.codec.toDocument blankRecord] :=
    rfl
  have stamped : (blankRecord.markSent ⟨0, 0, 0⟩).Storable :=
    blankRecord_storable.markSent (Publisher.clock_refusing 0)
  have counted (kind : Json → Bool) :
      (mixed.vault.documents.list standardArchive.schema).countP kind =
        [kind .null,
          kind (BackupRecord.codec.toDocument (blankRecord.markSent ⟨0, 0, 0⟩)),
          kind (BackupRecord.codec.toDocument blankRecord)].countP id := by
    rw [listed]
    exact (List.countP_map (l := [_, _, _])).symm
  refine ⟨ordered, summary, after, passed, ?_, ?_, ?_⟩
  · rw [accounts.skipped, counted, Archive.isStamped_toDocument stamped,
      Archive.isStamped_toDocument blankRecord_storable]
    rfl
  · rw [ReplaySummary.attempted, accounts.attempted, counted,
      Archive.isStamped_toDocument stamped,
      Archive.isStamped_toDocument blankRecord_storable]
    rfl
  · refine accounts.taken.trans (Nat.le_of_eq ?_)
    rw [counted, Archive.isWaiting_toDocument stamped,
      Archive.isWaiting_toDocument blankRecord_storable]
    rfl

end EventRelay.Replayer
