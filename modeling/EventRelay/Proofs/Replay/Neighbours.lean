import EventRelay.Proofs.Replay.Judged

/-!
# Passes over stores with more documents

Documents may be added to an archive under keys that are free: some that are no
records, some whose events cannot be made or sent, and some good ones.  Where
each record lies under its own identifier and the transport judges only what it
is offered, a pass over the larger archive sends the events of the old records
as it would have without the others, in the same order, and stamps the same
documents.  Of the added documents it changes only those that it has sent.

Both passes are compared by what their waiting documents offer, so the two may
run at different times and with other identifiers.
-/

namespace EventRelay.Replayer

open EventRelay.Json EventRelay.Store

variable {σ : Type}

/-- The kinds of records that may be added under a key. -/
inductive Harmless
    (replayer : Replayer) (verdict : Offer → Except Cause Unit) (key : String)
    (record : BackupRecord) : Prop where
  | stamped (sent : record.isSent = true)
  | malformed (error : BuildError)
      (unfit :
        replayer.builders.recover record.type record.envelopeText =
          .error error)
  | unregistered (unbuilt : replayer.builders.builds record.type = false)
  | unroutable (nowhere : replayer.topics.topicFor record.type = none)
  | refused
      (refuses :
        ∀ offer, replayer.offer? record = some offer →
          verdict offer ≠ .ok ())
  | placed (own : record.messageId = key)

/-- The kinds of documents that may be added under a key. -/
inductive Neighbour
    (replayer : Replayer) (verdict : Offer → Except Cause Unit) (key : String)
    (document : Json) : Prop where
  | undecodable (error : Store.Error)
      (unread : Archive.decode document = .error error)
  | record (record : BackupRecord)
      (read : Archive.decode document = .ok record)
      (harmless : replayer.Harmless verdict key record)

/--
An archive with each record under its own identifier, and one that has more
documents under other keys.
-/
structure Neighbours
    (replayer : Replayer) (verdict : Offer → Except Cause Unit)
    (archive : Archive) (base extended : Documents) : Prop where
  ordered : (base.inSchema archive.schema).Ascending
  extendedOrdered : (extended.inSchema archive.schema).Ascending
  own : ∀ key record,
    archive.ReadsAt base key record → record.messageId = key
  kept : ∀ key document,
    base.find? archive.schema key = some document →
      extended.find? archive.schema key = some document
  added : ∀ key document,
    base.find? archive.schema key = none →
      extended.find? archive.schema key = some document →
        replayer.Neighbour verdict key document

variable {replayer : Replayer} {transport : Transport σ} {archive : Archive}
  {verdict : Offer → Except Cause Unit} {base extended : Documents}
  {key : String} {record : BackupRecord}
  {world : World (σ × List Delivery) Backend}

/-! ## Adding documents -/

/-- An archive that only its own records reach may be added to. -/
theorem neighbours_of_holds
    {property : BackupRecord → Prop} (holds : archive.Holds property base) :
    replayer.Neighbours verdict archive base base where
  ordered := holds.ascending
  extendedOrdered := holds.ascending
  own key record reads := by
    obtain ⟨document, found, decoded⟩ := reads
    obtain ⟨held, same, rfl, storable, _⟩ := holds.of_find? found
    rw [Archive.decode_toDocument storable] at decoded
    cases decoded
    exact same
  kept _ _ found := found
  added key document free found := by
    rw [free] at found
    cases found

/-- A document may be added under any key that is free. -/
theorem Neighbours.put
    (neighbours : replayer.Neighbours verdict archive base extended)
    (free : extended.find? archive.schema key = none) {document : Json}
    (neighbour : replayer.Neighbour verdict key document) :
    replayer.Neighbours verdict archive base
      (extended.put archive.schema key document) where
  ordered := neighbours.ordered
  extendedOrdered := by
    rw [Documents.inSchema_put]
    exact neighbours.extendedOrdered.insert _ _
  own := neighbours.own
  kept other present found := by
    have here := neighbours.kept other present found
    have different : other ≠ key := by
      rintro rfl
      rw [free] at here
      cases here
    rw [Documents.find?_put_of_ne _ _ different]
    exact here
  added other present unused found := by
    by_cases here : other = key
    · subst here
      rw [Documents.find?_put_self] at found
      cases found
      exact neighbour
    · rw [Documents.find?_put_of_ne _ _ here] at found
      exact neighbours.added other present unused found

/-! ## What waits among the neighbours -/

/-- An added record that is sent lies under its own identifier. -/
theorem Harmless.own
    (harmless : replayer.Harmless verdict key record)
    (unsent : record.isSent = false)
    (sends : replayer.Sends verdict record) :
    record.messageId = key := by
  obtain ⟨⟨topic, draft⟩, offered, taken⟩ := sends
  obtain ⟨recovered, passes⟩ := offer?_eq_some_iff.mp offered
  cases harmless with
  | stamped sent =>
      rw [unsent] at sent
      cases sent
  | malformed error unfit =>
      rw [recovered] at unfit
      cases unfit
  | unregistered unbuilt =>
      rw [(BuilderTable.passes_of_recover recovered).2] at unbuilt
      cases unbuilt
  | unroutable nowhere =>
      have routed : replayer.topics.topicFor record.type = some topic :=
        passes.routed
      rw [nowhere] at routed
      cases routed
  | refused refuses => exact absurd taken (refuses _ offered)
  | placed own => exact own

/-- All records that are sent lie under their own identifiers. -/
theorem Neighbours.own_waiting
    (neighbours : replayer.Neighbours verdict archive base extended) :
    ∀ entry ∈ archive.waiting extended,
      replayer.Sends verdict entry.2 → entry.2.messageId = entry.1 := by
  rintro ⟨key, record⟩ listed sends
  obtain ⟨⟨document, found, decoded⟩, unsent⟩ :=
    (Archive.mem_waiting neighbours.extendedOrdered).mp listed
  cases original : base.find? archive.schema key with
  | none =>
      cases neighbours.added key document original found with
      | undecodable error unread =>
          rw [decoded] at unread
          cases unread
      | record other read harmless =>
          rw [decoded] at read
          cases read
          exact harmless.own unsent sends
  | some other =>
      have same := neighbours.kept key other original
      rw [found] at same
      cases same
      exact neighbours.own key record ⟨document, original, decoded⟩

/-- What waits in the smaller archive waits in the larger, in the same order. -/
theorem Neighbours.filter_waiting
    (neighbours : replayer.Neighbours verdict archive base extended) :
    (archive.waiting extended).filter
        (fun entry => (base.find? archive.schema entry.1).isSome) =
      archive.waiting base := by
  have ordered := neighbours.ordered
  have wider := neighbours.extendedOrdered
  have distinct := (Archive.nodup_waiting ordered).of_map
  have widely := (Archive.nodup_waiting wider).of_map
  have same :
      ((archive.waiting extended).filter fun entry =>
          (base.find? archive.schema entry.1).isSome).Perm
        (archive.waiting base) := by
    refine (List.perm_ext_iff_of_nodup (widely.filter _) distinct).mpr ?_
    rintro ⟨key, record⟩
    rw [List.mem_filter, Archive.mem_waiting ordered,
      Archive.mem_waiting wider]
    constructor
    · rintro ⟨⟨⟨document, found, decoded⟩, unsent⟩, present⟩
      obtain ⟨other, original⟩ := Option.isSome_iff_exists.mp present
      have kept := neighbours.kept key other original
      rw [found] at kept
      cases kept
      exact ⟨⟨document, original, decoded⟩, unsent⟩
    · rintro ⟨⟨document, original, decoded⟩, unsent⟩
      exact ⟨⟨⟨document, neighbours.kept key document original, decoded⟩,
        unsent⟩, Option.isSome_iff_exists.mpr ⟨document, original⟩⟩
  refine same.eq_of_pairwise ?_
    ((Archive.pairwise_waiting wider).filter _)
    (Archive.pairwise_waiting ordered)
  intro left right _ _ before after
  exact absurd after before.asymm

/-- The keys of calls are those of the entries that make them. -/
theorem filter_judged
    (chosen : String → Bool) (entries : List (String × BackupRecord)) :
    (entries.filterMap (replayer.judged? verdict)).filter
        (fun call => chosen call.1) =
      (entries.filter fun entry => chosen entry.1).filterMap
        (replayer.judged? verdict) := by
  rw [List.filter_filterMap, List.filterMap_filter]
  apply congrArg (fun found => List.filterMap found entries)
  funext entry
  unfold judged?
  cases replayer.offer? entry.2 with
  | none => simp
  | some offer => simp [Option.filter]

/-! ## Both passes -/

/--
A pass over a larger archive compared with one over a smaller: each is given
by the outside before and after it.
-/
structure Undisturbed
    (replayer : Replayer) (transport : Transport σ) (archive : Archive)
    (short first long second : World (σ × List Delivery) Backend) :
    Prop where
  /-- The calls at old documents are the same, in the same order. -/
  calls :
    (view (replayer.passCallsAt transport archive long)).filter
        (fun call =>
          (short.vault.documents.find? archive.schema call.1).isSome) =
      view (replayer.passCallsAt transport archive short)
  /-- An old document whose event is not sent is left by both … -/
  left :
    ∀ key document,
      short.vault.documents.find? archive.schema key = some document →
        ¬replayer.SentAt transport archive short key →
          first.vault.documents.find? archive.schema key = some document ∧
            second.vault.documents.find? archive.schema key = some document
  /-- … and one whose event is sent is stamped by both. -/
  stamped :
    ∀ key document,
      short.vault.documents.find? archive.schema key = some document →
        replayer.SentAt transport archive short key →
          ∃ record sentAt sentAgain,
            Archive.decode document = .ok record ∧
            first.vault.documents.find? archive.schema key =
              some (BackupRecord.codec.toDocument (record.markSent sentAt)) ∧
            second.vault.documents.find? archive.schema key =
              some (BackupRecord.codec.toDocument (record.markSent sentAgain))
  /-- An added document is left if it is no record or its event is not sent. -/
  added :
    ∀ key document,
      short.vault.documents.find? archive.schema key = none →
        long.vault.documents.find? archive.schema key = some document →
          (∀ record, Archive.decode document = .ok record →
            ¬replayer.SentAt transport archive long key) →
            second.vault.documents.find? archive.schema key = some document

variable {short first long second : World (σ × List Delivery) Backend}

/--
Two passes that mark the documents whose events they send do not differ in old
documents, if they offer what waits.
-/
theorem Neighbours.undisturbed
    (neighbours :
      replayer.Neighbours verdict archive short.vault.documents
        long.vault.documents)
    (shownShort :
      view (replayer.passCallsAt transport archive short) =
        (archive.waiting short.vault.documents).filterMap
          (replayer.judged? verdict))
    (shownLong :
      view (replayer.passCallsAt transport archive long) =
        (archive.waiting long.vault.documents).filterMap
          (replayer.judged? verdict))
    (marksShort : replayer.Marks transport archive short first)
    (marksLong : replayer.Marks transport archive long second) :
    replayer.Undisturbed transport archive short first long second := by
  have alike {key : String} {document : Json}
      (original :
        short.vault.documents.find? archive.schema key = some document) :
      replayer.SentAt transport archive long key ↔
        replayer.SentAt transport archive short key := by
    rw [sentAt_iff shownLong, sentAt_iff shownShort,
      ← neighbours.filter_waiting]
    simp [original]
  constructor
  case calls =>
    rw [shownLong, shownShort, ← neighbours.filter_waiting]
    exact filter_judged
      (fun key => (short.vault.documents.find? archive.schema key).isSome) _
  case left =>
    intro key document original idle
    have found := neighbours.kept key document original
    constructor
    · exact (marksShort.left key idle).trans original
    · exact (marksLong.left key (mt (alike original).mp idle)).trans found
  case stamped =>
    intro key document original sent
    obtain ⟨record, sentAt, ⟨_, present, decoded⟩, written⟩ :=
      marksShort.stamped key sent
    rw [original] at present
    cases present
    obtain ⟨other, sentAgain, ⟨_, here, read⟩, rewritten⟩ :=
      marksLong.stamped key ((alike original).mpr sent)
    rw [neighbours.kept key document original] at here
    cases here
    rw [decoded] at read
    cases read
    exact ⟨record, sentAt, sentAgain, decoded, written, rewritten⟩
  case added =>
    intro key document free found idle
    have unsent : ¬replayer.SentAt transport archive long key := by
      intro sent
      obtain ⟨record, _, ⟨_, here, decoded⟩, _⟩ := marksLong.stamped key sent
      rw [found] at here
      cases here
      exact idle record decoded sent
    exact (marksLong.left key unsent).trans found

/--
Over stores that work, documents that are added under free keys do not disturb
a pass: it makes the calls at old documents that it would have made, stamps
the same ones and leaves the others, and it leaves all added documents whose
events it does not send.
-/
theorem replayAll_neighbours
    (replayer : Replayer) {transport : Transport σ}
    (judges : transport.Judges verdict) (archive : Archive)
    (short long : World (σ × List Delivery) Backend)
    (soundShort : short.vault.Healthy) (soundLong : long.vault.Healthy)
    (neighbours :
      replayer.Neighbours verdict archive short.vault.documents
        long.vault.documents) :
    ∃ less more first second,
      replayer.replayAll transport.recorded archive short =
          (.ok less, first) ∧
      replayer.replayAll transport.recorded archive long =
          (.ok more, second) ∧
      handed short first =
          (replayer.passCallsAt transport archive short).map Prod.snd ∧
      handed long second =
          (replayer.passCallsAt transport archive long).map Prod.snd ∧
      replayer.Undisturbed transport archive short first long second := by
  have placed :
      ∀ entry ∈ archive.waiting short.vault.documents,
        replayer.Sends verdict entry.2 → entry.2.messageId = entry.1 := by
    intro entry listed _
    exact neighbours.own _ _
      ((Archive.mem_waiting neighbours.ordered).mp listed).1
  obtain ⟨less, first, passedShort, shownShort, marksShort⟩ :=
    marks_replayAll judges soundShort neighbours.ordered placed
  obtain ⟨more, second, passedLong, shownLong, marksLong⟩ :=
    marks_replayAll judges soundLong neighbours.extendedOrdered
      neighbours.own_waiting
  have seenShort := replayer.handed_passCallsAt transport archive short
  have seenLong := replayer.handed_passCallsAt transport archive long
  rw [passedShort] at seenShort
  rw [passedLong] at seenLong
  exact ⟨less, more, first, second, passedShort, passedLong, seenShort,
    seenLong,
    neighbours.undisturbed shownShort shownLong marksShort marksLong⟩

/-- A store with one record, under its own identifier. -/
def lonely : World (Unit × List Delivery) Backend :=
  ⟨.still ⟨0, 0, 0⟩, ((), []),
    { Backend.empty with
      documents :=
        Documents.empty.put Archive.standardSchema blankRecord.messageId
          (BackupRecord.codec.toDocument blankRecord) },
    .initial⟩

/-- The store with a document that is no record beside the record. -/
def accompanied : World (Unit × List Delivery) Backend :=
  { lonely with
    vault :=
      { Backend.empty with
        documents :=
          lonely.vault.documents.put Archive.standardSchema "none" .null } }

/-- A document that is no record stays, and the record fares as without it. -/
theorem replayAll_neighbours_accompanied :
    openTransport.Judges (fun _ => .ok ()) ∧
      lonely.vault.Healthy ∧ accompanied.vault.Healthy ∧
      standard.Neighbours (fun _ => .ok ()) standardArchive
        lonely.vault.documents accompanied.vault.documents ∧
      ∃ less more first second,
        standard.replayAll openTransport.recorded standardArchive lonely =
            (.ok less, first) ∧
        standard.replayAll openTransport.recorded standardArchive
            accompanied =
          (.ok more, second) ∧
        second.vault.documents.find? standardArchive.schema "none" =
          some .null ∧
        standard.Undisturbed openTransport standardArchive lonely first
          accompanied second := by
  have judges : openTransport.Judges (fun _ => .ok ()) := fun _ _ _ => rfl
  have soundShort : lonely.vault.Healthy := ⟨nofun, nofun⟩
  have soundLong : accompanied.vault.Healthy := ⟨nofun, nofun⟩
  have different : "none" ≠ blankRecord.messageId := by decide
  have free :
      lonely.vault.documents.find? standardArchive.schema "none" = none :=
    Documents.find?_put_of_ne .empty _ different _
  have holds :
      standardArchive.Holds (fun _ => True) lonely.vault.documents :=
    Archive.holds_empty.put blankRecord_storable trivial
  have neighbours :
      standard.Neighbours (fun _ => .ok ()) standardArchive
        lonely.vault.documents accompanied.vault.documents :=
    (neighbours_of_holds holds).put free (.undecodable _ rfl)
  obtain ⟨less, more, first, second, passedShort, passedLong, _, _,
      undisturbed⟩ :=
    replayAll_neighbours standard judges standardArchive lonely accompanied
      soundShort soundLong neighbours
  have found :
      accompanied.vault.documents.find? standardArchive.schema "none" =
        some .null :=
    Documents.find?_put_self _ _ _ _
  refine ⟨judges, soundShort, soundLong, neighbours, less, more, first,
    second, passedShort, passedLong, ?_, undisturbed⟩
  exact undisturbed.added "none" .null free found nofun

end EventRelay.Replayer
