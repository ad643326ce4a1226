import EventRelay.Proofs.Relay.Soundness
import EventRelay.Proofs.Replay.Turn

/-!
# Courses of passes and publications

A course goes on over one schema of a store, and in each step another relay
may act.  It makes a publishing call, it begins a replay pass, or it gives the
next record of the pass its turn.  Calls may come between two turns, and a pass
that is begun breaks off the one before it.

The log of a course has the turns of every pass, each with the calls that it
made to the transport.
-/

namespace EventRelay

open EventRelay.Json EventRelay.Store

/-- A turn and the calls that it made to the transport. -/
structure Logged where
  turn : Turn
  deliveries : List Delivery

namespace Logged

/-- Whether the turn was that of a record with the identifier. -/
def concerns (messageId : String) (logged : Logged) : Bool :=
  logged.turn.record.messageId = messageId

/-- How many envelopes the transport took in the turn. -/
def taken (logged : Logged) : Nat :=
  logged.deliveries.countP Delivery.isTaken

end Logged

/-- The same relay with the schema of an archive. -/
def Relay.within {σ : Type} (relay : Relay σ) (archive : Archive) : Relay σ :=
  { relay with archive := ⟨relay.archive.policy, archive.schema⟩ }

/-- The outside in the course of passes and publications, and their log. -/
structure Course (σ : Type) where
  world : Watched σ
  /-- The records of the pass that wait for their turn. -/
  waiting : List BackupRecord
  /-- The turns of the passes before, oldest first. -/
  earlier : List (List Logged)
  /-- The turns that the pass has given. -/
  current : List Logged

/-- What a relay does in one step. -/
inductive Step (σ : Type) where
  /-- A call to a publisher whose breaker is in the given state. -/
  | publish (relay : Relay σ) (breaker : Breaker.State) (request : Request)
  | begin (relay : Relay σ)
  | proceed (relay : Relay σ)

namespace Course

variable {σ : Type}

/-- The course before any pass. -/
def start (world : World σ Backend) : Course σ :=
  ⟨world.watched, [], [], []⟩

/-- Begins a pass; if its scan fails, no record waits. -/
def begun (archive : Archive) (relay : Relay σ) (course : Course σ) :
    Course σ :=
  match (relay.within archive).archive.scan course.world.vault with
  | (.error _, backend) =>
    ⟨{ course.world with vault := backend }, [],
      course.earlier ++ [course.current], []⟩
  | (.ok scan, backend) =>
    ⟨{ course.world with vault := backend }, scan.unsent,
      course.earlier ++ [course.current], []⟩

theorem begun_supply
    (archive : Archive) (relay : Relay σ) (course : Course σ) :
    (course.begun archive relay).world.supply = course.world.supply := by
  unfold begun
  split <;> rfl

/-- The turn of a record, and the outside after it. -/
def turn
    (archive : Archive) (relay : Relay σ) (record : BackupRecord)
    (course : Course σ) :
    Turn × Watched σ :=
  relay.replayer.turn relay.transport.recorded (relay.within archive).archive
    record course.world

/-- What the log keeps of the turn of a record. -/
def entry
    (archive : Archive) (relay : Relay σ) (record : BackupRecord)
    (course : Course σ) :
    Logged :=
  ⟨(course.turn archive relay record).1,
    (course.turn archive relay record).2.transport.2.drop
      course.world.transport.2.length⟩

/-- Gives a record its turn, after which others wait. -/
def give
    (archive : Archive) (relay : Relay σ) (record : BackupRecord)
    (waiting : List BackupRecord) (course : Course σ) :
    Course σ :=
  ⟨(course.turn archive relay record).2, waiting, course.earlier,
    course.current ++ [course.entry archive relay record]⟩

/-- One step; proceeding does nothing when no record waits. -/
def advance (archive : Archive) (course : Course σ) : Step σ → Course σ
  | .publish relay breaker request =>
    { course with
      world :=
        ((relay.within archive).answer request
          { course.world with breaker := breaker }).2 }
  | .begin relay => course.begun archive relay
  | .proceed relay =>
    match course.waiting with
    | [] => course
    | record :: waiting => course.give archive relay record waiting

/-- The steps of a course, one after the other. -/
def run (archive : Archive) (course : Course σ) (steps : List (Step σ)) :
    Course σ :=
  steps.foldl (advance archive) course

/-- The turns that records with the identifier have had, oldest first. -/
def turnsOf (course : Course σ) (messageId : String) : List Logged :=
  (course.earlier.flatten ++ course.current).filter (Logged.concerns messageId)

/-- How many envelopes were taken in the turns of records with the identifier.
-/
def taken (course : Course σ) (messageId : String) : Nat :=
  ((course.turnsOf messageId).flatMap Logged.deliveries).countP Delivery.isTaken

/--
How many passes sent the event of a record with the identifier and failed to
stamp it.
-/
def unstamped (course : Course σ) (messageId : String) : Nat :=
  (course.earlier ++ [course.current]).countP fun pass =>
    pass.any fun logged =>
      logged.concerns messageId && logged.turn.isUnstamped

theorem run_append
    (archive : Archive) (course : Course σ) (first second : List (Step σ)) :
    run archive course (first ++ second) =
      run archive (run archive course first) second := by
  simp [run, List.foldl_append]

end Course

end EventRelay
