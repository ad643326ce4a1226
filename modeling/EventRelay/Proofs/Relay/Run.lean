import EventRelay.Proofs.Publisher.Recorded
import EventRelay.Proofs.Publisher.Request
import EventRelay.Replay

/-!
# Runs of a relay

A relay is a publisher and a replayer over one transport and one archive.  A
run is any sequence of publishing calls and replay passes.  The transport is
recorded, and each publishing call that succeeds leaves a receipt.

How the transport behaves is a choice of the transport, and which reads and
writes fail is a choice of the scripts that the backend starts with, so a run
covers every pattern of failures.  Its points lie between two operations and,
within a pass, between two records.
-/

namespace EventRelay

open EventRelay.Store

/-- A publisher and a replayer that share a transport and an archive. -/
structure Relay (σ : Type) where
  publisher : Publisher
  replayer : Replayer
  transport : Transport σ
  archive : Archive

/-- What remains of a publishing call that succeeded. -/
structure Receipt where
  request : Request
  /-- What was supplied next when the call was made. -/
  supply : Supply
  /-- The identifier that the call answered. -/
  identifier : Identifier

/-- The outside of a relay, with the calls that its transport has seen. -/
abbrev Watched (σ : Type) := World (σ × List Delivery) Backend

/-- The outside before the transport has seen any call. -/
def World.watched {σ : Type} (world : World σ Backend) : Watched σ :=
  { world with transport := (world.transport, []) }

/-- The outside of a relay and the receipts so far. -/
structure History (σ : Type) where
  world : Watched σ
  receipts : List Receipt

/-- What is done with a relay. -/
inductive Operation where
  | submit (request : Request)
  | replay

namespace Relay

variable {σ : Type}

/-- What a publishing call answers, and the outside after it. -/
def answer (relay : Relay σ) (request : Request) (world : Watched σ) :
    Except PublishError Identifier × Watched σ :=
  match request with
  | .publish type draft =>
    relay.publisher.publish relay.transport.recorded relay.archive.vault type
      draft world
  | .sendEvent type source channel payload =>
    relay.publisher.sendEvent relay.transport.recorded relay.archive.vault type
      source channel payload world
  | .sendText type source channel text =>
    relay.publisher.sendText relay.transport.recorded relay.archive.vault type
      source channel text world
  | .resend record =>
    relay.publisher.resend relay.transport.recorded relay.archive.vault record
      world

/-- The outside after a whole replay pass. -/
def pass (relay : Relay σ) (world : Watched σ) : Watched σ :=
  (relay.replayer.replayAll relay.transport.recorded relay.archive world).2

/-- Does one operation; a publishing call that succeeds leaves a receipt. -/
def perform (relay : Relay σ) (history : History σ) : Operation → History σ
  | .submit request =>
    match relay.answer request history.world with
    | (.ok identifier, world) =>
      ⟨world, history.receipts ++ [⟨request, history.world.supply, identifier⟩]⟩
    | (.error _, world) => ⟨world, history.receipts⟩
  | .replay => ⟨relay.pass history.world, history.receipts⟩

/--
Does operations one after the other, the transport having seen no call before.
-/
def run
    (relay : Relay σ) (world : World σ Backend) (operations : List Operation) :
    History σ :=
  operations.foldl relay.perform ⟨world.watched, []⟩

/-- The points of the runs that begin with an outside. -/
inductive Point (relay : Relay σ) (world : World σ Backend) :
    History σ → Prop where
  /-- Operations have been done and no pass is under way. -/
  | between (operations : List Operation) :
      Point relay world (relay.run world operations)
  /--
  After operations a pass has scanned the archive and is done with some
  records.
  -/
  | within (operations : List Operation) (scan : Scan) (backend : Backend)
      (scanned : relay.archive.scan (relay.run world operations).world.vault =
        (.ok scan, backend))
      (done left : List BackupRecord) (parts : scan.unsent = done ++ left)
      (summary : ReplaySummary) :
      Point relay world
        ⟨(relay.replayer.replayRecords relay.transport.recorded relay.archive
          done summary
          { (relay.run world operations).world with vault := backend }).2,
          (relay.run world operations).receipts⟩

/-! ## What the steps of a run do -/

/--
A publishing call publishes the draft it asks for, or is refused and changes
nothing.
-/
theorem answer_cases (relay : Relay σ) (request : Request) (world : Watched σ) :
    (∃ type draft,
      request.asked? relay.publisher.builders = some (type, draft) ∧
        relay.answer request world =
          relay.publisher.publish relay.transport.recorded relay.archive.vault
            type draft world) ∨
    ∃ error, relay.answer request world = (.error error, world) := by
  have same :
      relay.answer request world =
        relay.publisher.respond relay.transport.recorded relay.archive.vault
          request world := by
    cases request with
    | publish => rfl
    | sendEvent => rfl
    | sendText => rfl
    | resend => rfl
  rw [same]
  rcases relay.publisher.asked_or_unreadable request with
    ⟨type, draft, asked⟩ | ⟨error, unreadable⟩
  · exact .inl ⟨type, draft, asked, Publisher.respond_asked asked _ _ _⟩
  · exact .inr ⟨error, Publisher.respond_unreadable unreadable _ _ _⟩

theorem run_append_singleton (relay : Relay σ) (world : World σ Backend)
    (operations : List Operation) (operation : Operation) :
    relay.run world (operations ++ [operation]) =
      relay.perform (relay.run world operations) operation := by
  simp [run, List.foldl_append]

end Relay

end EventRelay
