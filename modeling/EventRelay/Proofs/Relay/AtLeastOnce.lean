import EventRelay.Memory
import EventRelay.Proofs.Relay.Soundness
import Mathlib.Data.List.Induction

/-!
# At least once

An event whose publication was answered with success has been sent, or it lies
in the archive under its identifier, and once its record is stamped the event
has been sent again under a new identity.  This holds at every point of every
run, whatever fails.
-/

namespace EventRelay

open EventRelay.Json EventRelay.Store

namespace Relay

variable {σ : Type}

/--
The archive has a readable record of an envelope, whose stamp only says what
is true.
-/
structure Archived
    (relay : Relay σ) (world : Watched σ) (type : EventType)
    (envelope : Envelope) (document : Json) (record : BackupRecord) : Prop where
  found :
      world.vault.documents.find? relay.archive.schema
          envelope.header.messageId.toText =
        some document
  decoded : Archive.decode document = .ok record
  messageId : record.messageId = envelope.header.messageId.toText
  type : record.type = type
  envelopeText : record.envelopeText = envelope.encode
  resent : record.isSent = true → relay.Resent world.transport.2 record

/-- An envelope has been sent, or it lies in the archive. -/
def Safe
    (relay : Relay σ) (world : Watched σ) (type : EventType)
    (envelope : Envelope) : Prop :=
  Accepted world.transport.2 envelope ∨
    ∃ document record, relay.Archived world type envelope document record

variable {relay : Relay σ} {world before after : Watched σ}

/-! ## Receipts -/

/-- A receipt names the envelope of its call, and that envelope is safe. -/
def Honoured (relay : Relay σ) (world : Watched σ) (receipt : Receipt) : Prop :=
  ∃ type draft,
    receipt.request.asked? relay.publisher.builders = some (type, draft) ∧
      receipt.identifier =
        (receipt.supply.envelope type draft).header.messageId ∧
      relay.Safe world type (receipt.supply.envelope type draft)

/--
A receipt names the envelope of its call, which has been accepted or filed.
-/
def Secured (relay : Relay σ) (world : Watched σ) (receipt : Receipt) : Prop :=
  ∃ type draft,
    receipt.request.asked? relay.publisher.builders = some (type, draft) ∧
      receipt.identifier =
        (receipt.supply.envelope type draft).header.messageId ∧
      (Accepted world.transport.2 (receipt.supply.envelope type draft) ∨
        ∃ failedAt, relay.archive.Filed world.vault.documents
          (.ofFailedSend type (receipt.supply.envelope type draft) failedAt))

/--
The invariant of a run: a sound outside, and receipts that are secured in it.
-/
structure Keeps (relay : Relay σ) (history : History σ) : Prop where
  sound : relay.Sound history.world
  secured : history.world.supply.Distinct → ∀ receipt ∈ history.receipts,
    relay.Secured history.world receipt

theorem Secured.follows
    {receipt : Receipt} (secured : relay.Secured before receipt)
    (follows : relay.Follows before after) (distinct : after.supply.Distinct) :
    relay.Secured after receipt := by
  obtain ⟨type, draft, asked, own, accepted | ⟨failedAt, filed⟩⟩ := secured
  · exact ⟨type, draft, asked, own, .inl (follows.later.accepted _ accepted)⟩
  · exact ⟨type, draft, asked, own,
      .inr ⟨failedAt, follows.filed distinct _ filed⟩⟩

/-- In a sound outside a secured receipt is honoured. -/
theorem Secured.honoured
    {receipt : Receipt} (secured : relay.Secured world receipt)
    (sound : relay.Sound world) (distinct : world.supply.Distinct) :
    relay.Honoured world receipt := by
  obtain ⟨type, draft, asked, own, accepted | ⟨failedAt, filed⟩⟩ := secured
  · exact ⟨type, draft, asked, own, .inl accepted⟩
  · refine ⟨type, draft, asked, own, .inr ?_⟩
    obtain ⟨present, found, storable, same⟩ := filed
    obtain ⟨listed, _, document, listedStorable, honest⟩ :=
      (sound.holds distinct).of_find? found
    cases Archive.eq_of_toDocument storable listedStorable document
    exact ⟨_, present, found, Archive.decode_toDocument storable,
      same.messageId, same.type, same.envelopeText, honest.resent⟩

/-- A step that leaves no receipt keeps the invariant. -/
theorem Keeps.follows
    {history : History σ} (keeps : relay.Keeps history)
    (follows : relay.Follows history.world after) :
    relay.Keeps ⟨after, history.receipts⟩ := by
  refine ⟨follows.sound, ?_⟩
  intro distinct receipt member
  exact (keeps.secured (follows.later.distinct distinct) receipt member).follows
    follows distinct

/-- Publishing keeps the invariant, with a receipt when it succeeds. -/
theorem keeps_submit
    {history : History σ} (keeps : relay.Keeps history) (request : Request) :
    relay.Keeps (relay.perform history (.submit request)) := by
  unfold perform
  dsimp only
  rcases relay.answer_cases request history.world with
    ⟨type, draft, asked, answered⟩ | ⟨error, refused⟩
  · have step := published keeps.sound relay.publisher type draft
    rw [← answered] at step
    rcases outcome : relay.answer request history.world with ⟨answer, after⟩
    rw [outcome] at step
    have earlier := keeps.follows step.follows
    cases answer with
    | error error => exact earlier
    | ok identifier =>
        obtain ⟨own, taken⟩ := step.secured identifier rfl
        refine ⟨earlier.sound, ?_⟩
        intro distinct receipt member
        rcases List.mem_append.mp member with old | new
        · exact earlier.secured distinct receipt old
        · cases List.mem_singleton.mp new
          exact ⟨type, draft, asked, own, taken.imp_right And.right⟩
  · rw [refused]
    exact keeps

theorem keeps_perform
    {history : History σ} (keeps : relay.Keeps history)
    (operation : Operation) :
    relay.Keeps (relay.perform history operation) := by
  cases operation with
  | submit request => exact keeps_submit keeps request
  | replay => exact keeps.follows (follows_pass keeps.sound)

/-- The invariant holds after any operations on an archive that starts empty. -/
theorem keeps_run
    {start : World σ Backend} (empty : start.vault.documents = .empty)
    (clock : ∀ index, (start.supply.times index).Valid)
    (operations : List Operation) :
    relay.Keeps (relay.run start operations) := by
  induction operations using List.reverseRecOn with
  | nil =>
      refine ⟨⟨clock, ?_⟩, ?_⟩
      · intro _
        rw [show (relay.run start []).world.vault.documents = .empty from empty]
        exact Archive.holds_empty
      · intro _ receipt member
        cases member
  | append_singleton operations operation induction =>
      rw [run_append_singleton]
      exact keeps_perform induction operation

/-- The invariant holds at every point, also within a pass. -/
theorem keeps_point
    {start : World σ Backend} (empty : start.vault.documents = .empty)
    (clock : ∀ index, (start.supply.times index).Valid) {history : History σ}
    (point : relay.Point start history) :
    relay.Keeps history := by
  cases point with
  | between operations => exact keeps_run empty clock operations
  | within operations scan backend scanned done left parts summary =>
      have keeps : relay.Keeps (relay.run start operations) :=
        keeps_run empty clock operations
      exact keeps.follows (follows_scanned keeps.sound scanned parts summary)

/--
At every point of every run that starts with an empty archive, the envelope of
every publishing call that succeeded has been sent, or lies in the archive
under its identifier; and if its record is stamped, an envelope created from
the text of the record has been sent.
-/
theorem at_least_once
    (relay : Relay σ) (start : World σ Backend)
    (empty : start.vault.documents = .empty)
    (clock : ∀ index, (start.supply.times index).Valid) (history : History σ)
    (point : relay.Point start history)
    (distinct : history.world.supply.Distinct) :
    ∀ receipt ∈ history.receipts, relay.Honoured history.world receipt := by
  have keeps := keeps_point empty clock point
  intro receipt member
  exact (keeps.secured distinct receipt member).honoured keeps.sound distinct

/-- A relay over a transport in memory and an archive. -/
def inMemory : Relay Memory.Sender :=
  ⟨.withBackup none, .standard, Memory.transport,
    ⟨.standard, Archive.standardSchema⟩⟩

/-- An empty archive, and a transport that fails when it is first called. -/
def interrupted : World Memory.Sender Backend :=
  ⟨.still ⟨0, 0, 0⟩, .initial (.next 1), .empty, .initial⟩

/-- Publishes an event with next to nothing in it. -/
def blankEvent : Operation :=
  .submit (.publish .newCase
    ⟨⟨.newCase, (⟨"", none, [], []⟩ : NewCase)⟩, .sampleLoader, .rm, none⟩)

/--
The first of two events is kept and the second is sent, and both are safe.
-/
theorem at_least_once_interrupted :
    interrupted.vault.documents = .empty ∧
      (∀ index, (interrupted.supply.times index).Valid) ∧
      inMemory.Point interrupted
        (inMemory.run interrupted [blankEvent, blankEvent]) ∧
      (inMemory.run interrupted
        [blankEvent, blankEvent]).world.supply.Distinct ∧
      (inMemory.run interrupted [blankEvent, blankEvent]).receipts.length = 2 ∧
      ∀ receipt ∈ (inMemory.run interrupted [blankEvent, blankEvent]).receipts,
        inMemory.Honoured
          (inMemory.run interrupted [blankEvent, blankEvent]).world
          receipt := by
  have clock : ∀ index, (interrupted.supply.times index).Valid := by
    intro index
    show (Timestamp.mk 0 0 0).Valid
    decide
  have distinct :
      (inMemory.run interrupted
        [blankEvent, blankEvent]).world.supply.Distinct := by
    show ∀ left < 2, ∀ right < 2,
      Identifier.timeOrdered 0 left = Identifier.timeOrdered 0 right →
        left = right
    decide
  have point :
      inMemory.Point interrupted
        (inMemory.run interrupted [blankEvent, blankEvent]) :=
    .between [blankEvent, blankEvent]
  exact ⟨rfl, clock, point, distinct, rfl,
    at_least_once inMemory interrupted rfl clock _ point distinct⟩

end Relay

end EventRelay
