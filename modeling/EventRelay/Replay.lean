import EventRelay.Backup.Archive
import EventRelay.Publisher

/-!
# Replay

A replay pass sends the events of an archive that still wait.  It has a
publisher without backup, so an event that fails again stays in its record
instead of being kept twice.  After an event has been sent its record is
stamped; if the stamp fails the event counts as failed, and a later pass will
send it again.
-/

namespace EventRelay

open EventRelay.Store

/-- What a replay pass did. -/
structure ReplaySummary where
  replayed : Nat
  /-- Records that had been sent before. -/
  skipped : Nat
  failed : Nat
  deriving DecidableEq

/-- How many documents a pass tried to send. -/
def ReplaySummary.attempted (summary : ReplaySummary) : Nat :=
  summary.replayed + summary.failed

/-- An archive as a vault. -/
def Archive.vault (archive : Archive) : Vault Backend where
  keep type envelope failedAt backend :=
    match archive.persist type envelope failedAt backend with
    | (.ok _, backend) => (.ok (), backend)
    | (.error error, backend) => (.error (.store error), backend)

/-- How a replayer is set up: its publisher never has a backup. -/
structure Replayer where
  builders : BuilderTable
  topics : TopicTable

namespace Replayer

variable {σ : Type}

/-- The replayer with a builder and a topic for every type. -/
def standard : Replayer := ⟨.standard, .standard⟩

/-- The publisher of a pass, which keeps no event a second time. -/
def publisher (replayer : Replayer) : Publisher :=
  ⟨.disabled, replayer.builders, replayer.topics⟩

/-- Counts an event that was sent and whose stamping did not fail. -/
def countReplayed (summary : ReplaySummary) : ReplaySummary :=
  { summary with replayed := summary.replayed + 1 }

/-- Counts an event that was not sent, or whose stamping failed. -/
def countFailed (summary : ReplaySummary) : ReplaySummary :=
  { summary with failed := summary.failed + 1 }

/-- Sends the event of one record and stamps the record. -/
def replayRecord
    (replayer : Replayer) (transport : Transport σ) (archive : Archive)
    (record : BackupRecord) (summary : ReplaySummary)
    (world : World σ Backend) :
    ReplaySummary × World σ Backend :=
  match replayer.publisher.resend transport archive.vault record world with
  | (.error _, world) => (countFailed summary, world)
  | (.ok _, world) =>
    let (sentAt, supply) := world.supply.now
    let (outcome, backend) :=
      archive.markSent record.messageId sentAt world.vault
    let world := { world with supply := supply, vault := backend }
    match outcome with
    | .ok _ => (countReplayed summary, world)
    | .error _ => (countFailed summary, world)

/-- Sends the events of records one after the other. -/
def replayRecords
    (replayer : Replayer) (transport : Transport σ) (archive : Archive) :
    List BackupRecord → ReplaySummary → World σ Backend →
      ReplaySummary × World σ Backend
  | [], summary, world => (summary, world)
  | record :: records, summary, world =>
    let (summary, world) :=
      replayer.replayRecord transport archive record summary world
    replayer.replayRecords transport archive records summary world

/--
Sends every event that waits, once; only a failing scan ends the pass early.
-/
def replayAll
    (replayer : Replayer) (transport : Transport σ) (archive : Archive)
    (world : World σ Backend) :
    Except Store.Error ReplaySummary × World σ Backend :=
  match archive.scan world.vault with
  | (.error error, backend) => (.error error, { world with vault := backend })
  | (.ok scan, backend) =>
    let start : ReplaySummary := ⟨0, scan.sent, scan.undecodable.length⟩
    let (summary, world) :=
      replayer.replayRecords transport archive scan.unsent start
        { world with vault := backend }
    (.ok summary, world)

/-- The replayer as a description. -/
def describe (replayer : Replayer) : String :=
  "BackupReplayer \x7b publisher: " ++ replayer.publisher.describe ++
    ", .. \x7d"

end Replayer

end EventRelay
