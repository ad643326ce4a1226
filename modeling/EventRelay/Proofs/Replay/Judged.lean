import EventRelay.Proofs.Replay.Accounts

/-!
# Passes over a transport that judges what it is offered

A transport may judge an envelope by its topic, its payload and its routing,
and by nothing else.  Then the record alone decides what its turn does: what is
offered to the transport, what comes of it, and whether the document of the
record gives way to its stamped form.  No turn reads or writes the document of
another.
-/

namespace EventRelay

open EventRelay.Json EventRelay.Store

/-- What may be judged of a call: the topic, the payload and the routing. -/
structure Offer where
  topic : String
  draft : Draft

/-- The call without the identity of its envelope. -/
def Delivery.offer (delivery : Delivery) : Offer :=
  ⟨delivery.topic, delivery.envelope.toDraft⟩

/-- The outcome of every call is a verdict on what is offered. -/
def Transport.Judges
    {σ : Type} (transport : Transport σ) (verdict : Offer → Except Cause Unit) :
    Prop :=
  ∀ topic envelope state,
    (transport.deliver topic envelope state).1 =
      verdict ⟨topic, envelope.toDraft⟩

/-- A table recovers only drafts of the right kind, of types that it builds. -/
theorem BuilderTable.passes_of_recover
    {table : BuilderTable} {type : EventType} {text : String} {draft : Draft}
    (recovered : table.recover type text = .ok draft) :
    draft.payload.kind = type.payloadKind ∧ table.builds type = true := by
  unfold recover at recovered
  split at recovered
  · next built =>
      split at recovered
      · next decoded =>
          cases recovered
          exact ⟨Envelope.kind_of_decode decoded, built⟩
      · cases recovered
  · cases recovered

namespace Replayer

/-- What is offered at the turn of a record, if anything is. -/
def offer? (replayer : Replayer) (record : BackupRecord) : Option Offer :=
  match replayer.builders.recover record.type record.envelopeText with
  | .ok draft => (replayer.topics.topicFor record.type).map (⟨·, draft⟩)
  | .error _ => none

/-- Whether the event of a record is taken when it is offered. -/
def Sends
    (replayer : Replayer) (verdict : Offer → Except Cause Unit)
    (record : BackupRecord) : Prop :=
  ∃ offer, replayer.offer? record = some offer ∧ verdict offer = .ok ()

variable {σ : Type} {replayer : Replayer} {transport : Transport σ}
  {archive : Archive} {verdict : Offer → Except Cause Unit}
  {record : BackupRecord}

theorem offer?_eq_some_iff {topic : String} {draft : Draft} :
    replayer.offer? record = some ⟨topic, draft⟩ ↔
      replayer.builders.recover record.type record.envelopeText = .ok draft ∧
        replayer.publisher.Passes record.type draft topic := by
  unfold offer?
  cases recovered :
      replayer.builders.recover record.type record.envelopeText with
  | error error => exact iff_of_false nofun nofun
  | ok found =>
      obtain ⟨kind, built⟩ := BuilderTable.passes_of_recover recovered
      constructor
      · intro offered
        obtain ⟨routed, topical, same⟩ := Option.map_eq_some_iff.mp offered
        cases same
        exact ⟨rfl, kind, topical, built⟩
      · rintro ⟨same, passes⟩
        cases same
        exact Option.map_eq_some_iff.mpr ⟨topic, passes.routed, rfl⟩

/-! ## One turn -/

/--
What a watched transport sees of an event that is sent again, and whether it
is taken.
-/
structure Shows
    (replayer : Replayer) (verdict : Offer → Except Cause Unit)
    (record : BackupRecord) (deliveries : List Delivery) (taken : Bool) :
    Prop where
  calls :
    deliveries.map (fun delivery => (delivery.offer, delivery.outcome)) =
      (replayer.offer? record).toList.map fun offer => (offer, verdict offer)
  taken : taken = true ↔ replayer.Sends verdict record

theorem shows_nothing
    (unfit :
      ∀ draft topic,
        replayer.builders.recover record.type record.envelopeText =
            .ok draft →
          ¬replayer.publisher.Passes record.type draft topic) :
    replayer.Shows verdict record [] false := by
  have nothing : replayer.offer? record = none := by
    cases offered : replayer.offer? record with
    | none => rfl
    | some offer =>
        obtain ⟨recovered, passes⟩ := offer?_eq_some_iff.mp offered
        exact absurd passes (unfit _ _ recovered)
  constructor
  · rw [nothing]
    rfl
  · refine iff_of_false Bool.false_ne_true ?_
    rintro ⟨offer, offered, _⟩
    rw [nothing] at offered
    cases offered

/-- An envelope that is handed over shows the offer of its record. -/
theorem shows_delivery
    (judges : transport.Judges verdict) {draft : Draft} {topic : String}
    (recovered :
      replayer.builders.recover record.type record.envelopeText = .ok draft)
    (passes : replayer.publisher.Passes record.type draft topic)
    {supply : Supply} {before after : σ × List Delivery}
    {outcome : Except Cause Unit}
    (called :
      transport.recorded.deliver topic (supply.envelope record.type draft)
          before =
        (outcome, after)) :
    ∃ deliveries,
      after.2 = before.2 ++ deliveries ∧
        replayer.Shows verdict record deliveries outcome.isOk := by
  have offered : replayer.offer? record = some ⟨topic, draft⟩ :=
    offer?_eq_some_iff.mpr ⟨recovered, passes⟩
  have judged := judges topic (supply.envelope record.type draft) before.1
  rw [Transport.deliver_recorded] at called
  obtain ⟨same, rfl⟩ := Prod.mk.inj called
  rw [judged] at same
  refine ⟨_, rfl, ?_, ?_⟩
  · rw [offered, judged]
    rfl
  · constructor
    · intro taken
      cases outcome with
      | ok _ => exact ⟨_, offered, same⟩
      | error cause => cases taken
    · rintro ⟨offer, other, taken⟩
      rw [offered] at other
      cases other
      rw [← same]
      exact congrArg Except.isOk taken

/-- What a transport that is watched sees when an event is sent again. -/
theorem Resends.shows
    (judges : transport.Judges verdict)
    {world after : World (σ × List Delivery) Backend}
    {answer : Except PublishError Identifier}
    (resends :
      replayer.Resends transport.recorded record world (answer, after)) :
    ∃ deliveries,
      after.transport.2 = world.transport.2 ++ deliveries ∧
        replayer.Shows verdict record deliveries answer.isOk := by
  cases resends with
  | refused error unfit =>
      exact ⟨[], (List.append_nil _).symm, shows_nothing unfit⟩
  | sent draft topic state ticked breaker recovered passes taken =>
      exact shows_delivery judges recovered passes taken
  | told draft topic state ticked breaker cause recovered passes failed =>
      exact shows_delivery judges recovered passes failed

variable {world : World (σ × List Delivery) Backend} {key : String}

/-- The calls at the turn of a record show what it offers. -/
theorem shows_turn
    (replayer : Replayer) (judges : transport.Judges verdict)
    (archive : Archive) (record : BackupRecord)
    (world : World (σ × List Delivery) Backend) :
    ∃ deliveries,
      (replayer.turn transport.recorded archive record world).2.transport.2 =
          world.transport.2 ++ deliveries ∧
        replayer.Shows verdict record deliveries
          (replayer.turn transport.recorded archive record
            world).1.answer.isOk := by
  have goes := replayer.goes transport.recorded archive record world
  generalize replayer.turn transport.recorded archive record world = result
    at goes ⊢
  -- Stamping the record leaves the transport alone.
  cases goes with
  | unsent error after resends => exact resends.shows judges
  | sent identifier between resends outcome backend stamps =>
      exact resends.shows judges

/--
What a turn makes of the documents: the event is not sent and they stay as they
are, or it is sent and the document of the record gives way to its stamped
form.
-/
inductive Settles
    (replayer : Replayer) (verdict : Offer → Except Cause Unit)
    (archive : Archive) (record : BackupRecord) (before after : Documents) :
    Prop where
  | left (unsent : ¬replayer.Sends verdict record) (same : after = before)
  | stamped (sends : replayer.Sends verdict record) (sentAt : Timestamp)
      (written :
        after =
          before.put archive.schema record.messageId
            (BackupRecord.codec.toDocument (record.markSent sentAt)))

/--
The turn of a record that lies under its own identifier, or is not sent,
settles it.
-/
theorem settles_turn
    (judges : transport.Judges verdict) (healthy : world.vault.Healthy)
    (reads : archive.ReadsAt world.vault.documents key record)
    (own : replayer.Sends verdict record → record.messageId = key) :
    (replayer.turn transport.recorded archive record
        world).2.vault.Healthy ∧
      replayer.Settles verdict archive record world.vault.documents
        (replayer.turn transport.recorded archive record
          world).2.vault.documents := by
  have goes := replayer.goes transport.recorded archive record world
  obtain ⟨_, _, shows⟩ := replayer.shows_turn judges archive record world
  have sends := shows.taken
  generalize replayer.turn transport.recorded archive record world = result
    at goes sends ⊢
  cases goes with
  | unsent error after resends =>
      have unsent : ¬replayer.Sends verdict record := fun taken =>
        Bool.false_ne_true (sends.mpr taken)
      have vault := resends.unmoved.1
      exact ⟨vault ▸ healthy, .left unsent (congrArg Backend.documents vault)⟩
  | sent identifier between resends outcome backend stamps =>
      have taken : replayer.Sends verdict record := sends.mp rfl
      have vault := resends.unmoved.1
      have sound : between.vault.Healthy := vault ▸ healthy
      obtain ⟨document, here, decoded⟩ := reads
      rw [← own taken, ← vault] at here
      cases stamps with
      | failed error _ same reason =>
          obtain ⟨_, other, there, unread⟩ := reason sound
          rw [here] at there
          cases there
          rw [decoded] at unread
          cases unread
      | absent _ same missing stays =>
          rw [here] at missing
          cases missing
      | stamped other found _ there read written stays =>
          rw [here] at there
          cases there
          rw [decoded] at read
          cases read
          refine ⟨stays sound, .stamped taken between.supply.now.1 ?_⟩
          rw [vault] at written
          exact written

/-! ## All turns -/

/-- The calls that are made at the turns of entries, each with its key. -/
def callsAt
    (replayer : Replayer) (transport : Transport σ) (archive : Archive) :
    List (String × BackupRecord) → World (σ × List Delivery) Backend →
      List (String × Delivery)
  | [], _ => []
  | (key, record) :: entries, world =>
    let after := (replayer.turn transport.recorded archive record world).2
    (handed world after).map (Prod.mk key) ++
      replayer.callsAt transport archive entries after

/--
The calls of a pass, each with the key of its document; it makes none if its
scan fails.
-/
def passCallsAt
    (replayer : Replayer) (transport : Transport σ) (archive : Archive)
    (world : World (σ × List Delivery) Backend) :
    List (String × Delivery) :=
  match archive.scan world.vault with
  | (.error _, _) => []
  | (.ok _, backend) =>
    replayer.callsAt transport archive
      (archive.waiting world.vault.documents) { world with vault := backend }

/-- Calls by the keys of their documents, without the identities. -/
def view (calls : List (String × Delivery)) :
    List (String × Offer × Except Cause Unit) :=
  calls.map fun call => (call.1, call.2.offer, call.2.outcome)

/-- What a pass offers for an entry that waits, and how it is judged. -/
def judged?
    (replayer : Replayer) (verdict : Offer → Except Cause Unit)
    (entry : String × BackupRecord) :
    Option (String × Offer × Except Cause Unit) :=
  (replayer.offer? entry.2).map fun offer => (entry.1, offer, verdict offer)

variable {entries : List (String × BackupRecord)}

theorem map_callsAt (entries : List (String × BackupRecord))
    (world : World (σ × List Delivery) Backend) :
    (replayer.callsAt transport archive entries world).map Prod.snd =
      (replayer.calls transport archive (entries.map Prod.snd) world).map
        Prod.snd := by
  induction entries generalizing world with
  | nil => rfl
  | cons entry entries induction =>
      obtain ⟨key, record⟩ := entry
      unfold callsAt
      rw [List.map_cons]
      unfold calls
      dsimp only
      rw [List.map_append, List.map_append, induction, List.map_map,
        List.map_map]
      rfl

/-- The calls are the offers of the entries, whatever the store holds. -/
theorem callsAt_eq
    (judges : transport.Judges verdict) (archive : Archive)
    (entries : List (String × BackupRecord))
    (world : World (σ × List Delivery) Backend) :
    view (replayer.callsAt transport archive entries world) =
      entries.filterMap (replayer.judged? verdict) := by
  induction entries generalizing world with
  | nil => rfl
  | cons entry entries induction =>
      obtain ⟨key, record⟩ := entry
      obtain ⟨deliveries, recorded, shows⟩ :=
        replayer.shows_turn judges archive record world
      unfold view at induction ⊢
      unfold callsAt
      dsimp only
      rw [handed_eq recorded, List.map_append, induction, List.map_map,
        List.filterMap_cons]
      have own :
          deliveries.map (fun delivery =>
              (key, delivery.offer, delivery.outcome)) =
            (replayer.judged? verdict (key, record)).toList := by
        have calls := congrArg (List.map (Prod.mk key)) shows.calls
        rw [List.map_map, List.map_map] at calls
        refine calls.trans ?_
        unfold judged?
        cases replayer.offer? record with
        | none => rfl
        | some offer => rfl
      refine (congrArg (· ++ _) own).trans ?_
      cases replayer.judged? verdict (key, record) with
      | none => rfl
      | some call => rfl

/-- Settling a record changes nothing under other keys. -/
theorem Settles.find?_of_ne
    {before after : Documents}
    (settles : replayer.Settles verdict archive record before after)
    (own : replayer.Sends verdict record → record.messageId = key)
    {other : String} (different : other ≠ key) :
    after.find? archive.schema other = before.find? archive.schema other := by
  cases settles with
  | left unsent same => rw [same]
  | stamped sends sentAt written =>
      rw [written, own sends]
      exact Documents.find?_put_of_ne _ _ different _

/--
What turns make of the document under a key: it stays as it is unless one of
their records lies there and is sent, and is then that record with a stamp.
-/
structure Treats
    (replayer : Replayer) (verdict : Offer → Except Cause Unit)
    (archive : Archive) (entries : List (String × BackupRecord))
    (before after : Documents) : Prop where
  left :
    ∀ key,
      (∀ record, (key, record) ∈ entries →
        ¬replayer.Sends verdict record) →
        after.find? archive.schema key = before.find? archive.schema key
  stamped :
    ∀ key record,
      (key, record) ∈ entries → replayer.Sends verdict record →
        ∃ sentAt,
          after.find? archive.schema key =
            some (BackupRecord.codec.toDocument (record.markSent sentAt))

/-- A turn and the turns that follow it treat the documents alike. -/
theorem Treats.cons
    {before between after : Documents}
    (fresh : key ∉ entries.map Prod.fst)
    (own : replayer.Sends verdict record → record.messageId = key)
    (settles : replayer.Settles verdict archive record before between)
    (others : replayer.Treats verdict archive entries between after) :
    replayer.Treats verdict archive ((key, record) :: entries) before
      after := by
  have alone : after.find? archive.schema key = between.find? archive.schema
      key := by
    refine others.left key ?_
    intro record listed
    exact absurd (List.mem_map_of_mem listed) fresh
  constructor
  case left =>
    intro other unsent
    by_cases here : other = key
    · subst here
      rw [alone]
      cases settles with
      | left _ same => rw [same]
      | stamped sends => exact absurd sends (unsent _ List.mem_cons_self)
    · rw [others.left other fun record listed =>
        unsent record (List.mem_cons_of_mem _ listed)]
      exact settles.find?_of_ne own here
  case stamped =>
    intro other present listed sends
    rcases List.mem_cons.mp listed with here | later
    · cases here
      rw [alone]
      cases settles with
      | left unsent => exact absurd sends unsent
      | stamped _ sentAt written =>
          refine ⟨sentAt, ?_⟩
          rw [written, own sends]
          exact Documents.find?_put_self _ _ _ _
    · exact others.stamped other present later sends

/-- The turns of entries under different keys treat their documents. -/
theorem treats_turns
    (world : World (σ × List Delivery) Backend)
    (judges : transport.Judges verdict) (healthy : world.vault.Healthy)
    (distinct : (entries.map Prod.fst).Nodup)
    (reads :
      ∀ entry ∈ entries,
        archive.ReadsAt world.vault.documents entry.1 entry.2)
    (own :
      ∀ entry ∈ entries,
        replayer.Sends verdict entry.2 → entry.2.messageId = entry.1) :
    replayer.Treats verdict archive entries world.vault.documents
      (replayer.turns transport.recorded archive (entries.map Prod.snd)
        world).2.vault.documents := by
  induction entries generalizing world with
  | nil => exact ⟨fun _ _ => rfl, fun _ _ never => nomatch never⟩
  | cons entry entries induction =>
      obtain ⟨key, record⟩ := entry
      obtain ⟨fresh, distinct⟩ := List.nodup_cons.mp distinct
      obtain ⟨here, later⟩ := List.forall_mem_cons.mp reads
      obtain ⟨first, others⟩ := List.forall_mem_cons.mp own
      obtain ⟨stays, settles⟩ := replayer.settles_turn judges healthy here first
      refine .cons fresh first settles (induction _ stays distinct ?_ others)
      intro entry listed
      obtain ⟨document, found, decoded⟩ := later entry listed
      have different : entry.1 ≠ key := by
        rintro rfl
        exact fresh (List.mem_map.mpr ⟨entry, listed, rfl⟩)
      exact ⟨document, (settles.find?_of_ne first different).trans found,
        decoded⟩

/-! ## A pass -/

/-- Whether the event of the document under a key is sent in a pass. -/
def SentAt
    (replayer : Replayer) (transport : Transport σ) (archive : Archive)
    (world : World (σ × List Delivery) Backend) (key : String) : Prop :=
  ∃ delivery,
    (key, delivery) ∈ replayer.passCallsAt transport archive world ∧
      delivery.outcome = .ok ()

/-- The calls of a pass, without their keys, are those its transport sees. -/
theorem handed_passCallsAt
    (replayer : Replayer) (transport : Transport σ) (archive : Archive)
    (world : World (σ × List Delivery) Backend) :
    handed world (replayer.replayAll transport.recorded archive world).2 =
      (replayer.passCallsAt transport archive world).map Prod.snd := by
  have fares := archive.scan_fares world.vault
  rw [handed_replayAll]
  unfold passCalls passCallsAt
  generalize archive.scan world.vault = answer at fares ⊢
  cases fares with
  | failed error after same ailing => rfl
  | answered backend same healthy =>
      dsimp only
      rw [map_callsAt, Archive.map_waiting]

/--
Over a store that works a pass makes the calls that its waiting documents
offer, and treats these documents.
-/
theorem treats_replayAll
    (judges : transport.Judges verdict) (healthy : world.vault.Healthy)
    (ordered : (world.vault.documents.inSchema archive.schema).Ascending)
    (own :
      ∀ entry ∈ archive.waiting world.vault.documents,
        replayer.Sends verdict entry.2 → entry.2.messageId = entry.1) :
    ∃ summary after,
      replayer.replayAll transport.recorded archive world =
          (.ok summary, after) ∧
        view (replayer.passCallsAt transport archive world) =
          (archive.waiting world.vault.documents).filterMap
            (replayer.judged? verdict) ∧
        replayer.Treats verdict archive
          (archive.waiting world.vault.documents)
          world.vault.documents after.vault.documents := by
  have fares := archive.scan_fares world.vault
  unfold replayAll passCallsAt
  generalize archive.scan world.vault = answer at fares ⊢
  cases fares with
  | failed error after same ailing => exact absurd healthy ailing
  | answered backend same stays =>
      have reads :
          ∀ entry ∈ archive.waiting world.vault.documents,
            archive.ReadsAt backend.documents entry.1 entry.2 := by
        rw [same]
        exact fun entry listed => ((Archive.mem_waiting ordered).mp listed).1
      have treats :=
        treats_turns { world with vault := backend } judges
          (stays healthy) (Archive.nodup_waiting ordered) reads own
      dsimp only at treats ⊢
      rw [same, Archive.map_waiting] at treats
      rw [replayRecords_eq]
      exact ⟨_, _, rfl, callsAt_eq judges archive _ _, treats⟩

/-- A pass sends the events of the waiting documents that are taken. -/
theorem sentAt_iff
    (shown :
      view (replayer.passCallsAt transport archive world) =
        (archive.waiting world.vault.documents).filterMap
          (replayer.judged? verdict)) :
    replayer.SentAt transport archive world key ↔
      ∃ record, (key, record) ∈ archive.waiting world.vault.documents ∧
        replayer.Sends verdict record := by
  have seen :
      replayer.SentAt transport archive world key ↔
        ∃ offer,
          (key, offer, .ok ()) ∈
            view (replayer.passCallsAt transport archive world) := by
    unfold SentAt view
    constructor
    · rintro ⟨delivery, called, taken⟩
      refine ⟨delivery.offer, List.mem_map.mpr ⟨_, called, ?_⟩⟩
      exact congrArg (fun outcome => (key, delivery.offer, outcome)) taken
    · rintro ⟨offer, listed⟩
      obtain ⟨⟨other, delivery⟩, called, same⟩ := List.mem_map.mp listed
      obtain ⟨rfl, rest⟩ := Prod.mk.inj same
      exact ⟨delivery, called, (Prod.mk.inj rest).2⟩
  rw [seen, shown]
  constructor
  · rintro ⟨offer, listed⟩
    obtain ⟨⟨other, record⟩, waits, judged⟩ := List.mem_filterMap.mp listed
    obtain ⟨found, offered, same⟩ := Option.map_eq_some_iff.mp judged
    obtain ⟨rfl, rest⟩ := Prod.mk.inj same
    exact ⟨record, waits, found, offered, (Prod.mk.inj rest).2⟩
  · rintro ⟨record, waits, offer, offered, taken⟩
    refine ⟨offer, List.mem_filterMap.mpr ⟨_, waits, ?_⟩⟩
    refine Option.map_eq_some_iff.mpr ⟨offer, offered, ?_⟩
    exact congrArg (fun outcome => (key, offer, outcome)) taken

/--
What a pass makes of the documents: those whose events it sends are stamped,
and all others stay as they are.
-/
structure Marks
    (replayer : Replayer) (transport : Transport σ) (archive : Archive)
    (world after : World (σ × List Delivery) Backend) : Prop where
  left :
    ∀ key, ¬replayer.SentAt transport archive world key →
      after.vault.documents.find? archive.schema key =
        world.vault.documents.find? archive.schema key
  stamped :
    ∀ key, replayer.SentAt transport archive world key →
      ∃ record sentAt,
        archive.ReadsAt world.vault.documents key record ∧
          after.vault.documents.find? archive.schema key =
            some (BackupRecord.codec.toDocument (record.markSent sentAt))

/--
Over a store that works a pass makes the calls that its waiting documents
offer, and stamps those whose events are taken.
-/
theorem marks_replayAll
    (judges : transport.Judges verdict) (healthy : world.vault.Healthy)
    (ordered : (world.vault.documents.inSchema archive.schema).Ascending)
    (own :
      ∀ entry ∈ archive.waiting world.vault.documents,
        replayer.Sends verdict entry.2 → entry.2.messageId = entry.1) :
    ∃ summary after,
      replayer.replayAll transport.recorded archive world =
          (.ok summary, after) ∧
        view (replayer.passCallsAt transport archive world) =
          (archive.waiting world.vault.documents).filterMap
            (replayer.judged? verdict) ∧
        replayer.Marks transport archive world after := by
  obtain ⟨summary, after, passed, shown, treats⟩ :=
    treats_replayAll judges healthy ordered own
  refine ⟨summary, after, passed, shown, ?_, ?_⟩
  · intro key idle
    refine treats.left key ?_
    intro record listed sends
    exact idle ((sentAt_iff shown).mpr ⟨record, listed, sends⟩)
  · intro key sent
    obtain ⟨record, listed, sends⟩ := (sentAt_iff shown).mp sent
    obtain ⟨sentAt, written⟩ := treats.stamped key record listed sends
    exact ⟨record, sentAt, ((Archive.mem_waiting ordered).mp listed).1, written⟩

end Replayer

end EventRelay
