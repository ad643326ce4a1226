import EventRelay.Proofs.Publisher.Account
import EventRelay.Proofs.Store.Attempts
import EventRelay.Replay

/-!
# Events that the store does not take

A write that is tried again puts its document in place, or it leaves the store
as it was and tells why.  An event that was not sent is kept by such a write,
under its message identifier.  Where the store does not take it either, the
event is lost, but nothing of it is left behind, and the error says which
message it was.
-/

namespace EventRelay

namespace Store

/-- A script in which every failure is a status that the store reports. -/
def OnlyStatuses (script : List (Option Error)) : Prop :=
  ∀ error, some error ∈ script →
    ∃ status message, error = .backend status message

namespace Backend

variable {schema key : String} {document : Json} {diagnostic : String}
  {backend after : Backend} {budget writes : Nat}

/-- A write that succeeds changes the document under its own key only. -/
theorem Ended.placed
    (ended :
      Ended budget schema key document diagnostic backend writes
        (.ok (), after)) :
    after.documents.find? schema key = some document ∧
      ∀ other place, (other, place) ≠ (schema, key) →
        after.documents.find? other place =
          backend.documents.find? other place := by
  cases ended with
  | stored _ met left =>
      rw [left]
      refine ⟨Documents.find?_put_self _ _ _ _, ?_⟩
      intro other place elsewhere
      exact Documents.find?_put_elsewhere _ elsewhere document

theorem Ended.untouched
    {error : Error}
    (ended :
      Ended budget schema key document diagnostic backend writes
        (.error error, after)) :
    after.documents = backend.documents := by
  cases ended with
  | refused _ _ met lasting same => exact same
  | exhausted last _ spent met contention same => exact same

/-- The error for too many attempts is made by the attempts alone. -/
theorem Ended.named
    (statuses : OnlyStatuses backend.writeScript) {name : String}
    {attempts : Nat} {last : Error}
    (ended :
      Ended budget schema key document diagnostic backend writes
        (.error (.exhausted name attempts last), after)) :
    name = diagnostic ∧ attempts = budget ∧
      fate backend.writeScript budget = some last ∧
        last.isContention = true := by
  cases ended with
  | refused _ _ met lasting same =>
      obtain ⟨status, message, reported⟩ := statuses _ (mem_of_fate met)
      cases reported
  | exhausted _ _ spent met contention same =>
      exact ⟨rfl, rfl, spent ▸ met, contention⟩

end Backend

end Store

open EventRelay.Store

/-- An archive refuses an envelope when the attempts to write it end so. -/
theorem Archive.vault_refuses
    {archive : Archive} {type : EventType} {envelope : Envelope}
    {failedAt : Timestamp} {before after : Backend} {cause : Cause}
    (refused :
      archive.vault.keep type envelope failedAt before =
        (.error cause, after)) :
    ∃ error writes,
      cause = .store error ∧
      FirstLastWrite before.writeScript archive.policy.budget writes ∧
      after.writes = before.writes + writes ∧
      Backend.Ended archive.policy.budget archive.schema
        envelope.header.messageId.toText
        (BackupRecord.codec.toDocument (.ofFailedSend type envelope failedAt))
        envelope.header.messageId.toText before writes
        (.error error, after) := by
  obtain ⟨writes, first, result, left, answered, _, _, made, ended⟩ :=
    before.putRetrying_ended archive.policy archive.schema
      envelope.header.messageId.toText
      (BackupRecord.codec.toDocument (.ofFailedSend type envelope failedAt))
      envelope.header.messageId.toText
  have kept :
      archive.persist type envelope failedAt before = (result, left) :=
    answered
  unfold Archive.vault at refused
  simp only [kept] at refused
  cases result with
  | ok value => cases refused
  | error error =>
      cases refused
      exact ⟨error, writes, rfl, first, made, ended⟩

namespace Publisher

variable {σ ν : Type}

/-- An event is lost only where the vault has refused its envelope. -/
theorem refused_of_lost
    {publisher : Publisher} {transport : Transport σ} {vault : Vault ν}
    {type : EventType} {draft : Draft} {before after : World σ ν}
    {identifier : Identifier} {sending keeping : Cause}
    (lost :
      publisher.publish transport vault type draft before =
        (.error (.backupFailed identifier sending keeping), after)) :
    identifier = (before.supply.envelope type draft).header.messageId ∧
      ∃ failedAt,
        vault.keep type (before.supply.envelope type draft) failedAt
            before.vault =
          (.error keeping, after.vault) := by
  rcases publisher.passes_or_refuses type draft with
    ⟨topic, passes⟩ | ⟨error, refuses⟩
  · have outcome := publishes passes transport vault before
    rw [lost] at outcome
    cases outcome with
    | lost state ticked breaker cause second contents backup failed refused =>
        exact ⟨rfl, _, refused⟩
  · rw [publish_refused refuses] at lost
    cases refuses with
    | incompatible kind => cases lost
    | unrouted kind unrouted => cases lost
    | unbuilt kind topic routed unbuilt => cases lost

/--
A write that is tried again makes as many writes as it takes to the first that
succeeds, that fails with something other than contention, or that is the last
one allowed.  It leaves the document in place and all others alone, or it
leaves all documents alone and tells the failure that lasts or the last of the
contention.  To have tried too often is no contention.

An event that is neither sent nor kept changes no document, and where the
store was tried too often the error names its message.
-/
theorem stored_or_untouched
    (policy : Retry.Policy) (schema key : String) (document : Json)
    (diagnostic : String) (backend : Backend) :
    (∃ writes,
      FirstLastWrite backend.writeScript policy.budget writes ∧
      ∃ result after,
        backend.putRetrying policy schema key document diagnostic =
          (result, after) ∧
        after.writes = backend.writes + writes ∧
        Backend.Ended policy.budget schema key document diagnostic backend
          writes (result, after) ∧
        (result = .ok () →
          after.documents.find? schema key = some document ∧
            ∀ other place, (other, place) ≠ (schema, key) →
              after.documents.find? other place =
                backend.documents.find? other place) ∧
        (∀ error, result = .error error →
          after.documents = backend.documents)) ∧
    (∀ name attempts last,
      (Error.exhausted name attempts last).isContention = false) ∧
    (∀ (publisher : Publisher) (transport : Transport σ) (type : EventType)
        (draft : Draft) (before after : World σ Backend)
        (identifier : Identifier) (sending keeping : Cause),
      publisher.publish transport (Archive.vault ⟨policy, schema⟩) type draft
          before =
        (.error (.backupFailed identifier sending keeping), after) →
      identifier = (before.supply.envelope type draft).header.messageId ∧
      after.vault.documents = before.vault.documents ∧
      ∃ error writes,
        keeping = .store error ∧
        FirstLastWrite before.vault.writeScript policy.budget writes ∧
        after.vault.writes = before.vault.writes + writes ∧
        (OnlyStatuses before.vault.writeScript →
          ∀ name attempts last, error = .exhausted name attempts last →
            name = identifier.toText ∧ attempts = policy.budget ∧
              fate before.vault.writeScript policy.budget = some last ∧
                last.isContention = true)) := by
  refine ⟨?_, fun _ _ _ => rfl, ?_⟩
  · obtain ⟨writes, first, result, after, answered, _, _, made, ended⟩ :=
      backend.putRetrying_ended policy schema key document diagnostic
    refine ⟨writes, first, result, after, answered, made, ended, ?_, ?_⟩
    · rintro rfl
      exact ended.placed
    · rintro error rfl
      exact ended.untouched
  · intro publisher transport type draft before after identifier sending
      keeping lost
    obtain ⟨rfl, failedAt, refused⟩ := refused_of_lost lost
    obtain ⟨error, writes, store, first, made, ended⟩ :=
      Archive.vault_refuses refused
    refine ⟨rfl, ended.untouched, error, writes, store, first, made, ?_⟩
    rintro statuses name attempts last rfl
    exact ended.named statuses

/-- An outside whose transport fails and whose store is busy for two writes. -/
def overload : World Memory.Sender Backend :=
  ⟨.still ⟨0, 0, 0⟩, .initial .always,
    Backend.empty.failWrites
      [.backend .unavailable "busy", .backend .aborted "again"],
    .initial⟩

/--
An event that is neither sent nor kept within two attempts is named by the
error, and the store stays empty.
-/
theorem stored_or_untouched_overload :
    ∃ identifier after,
      (withBackup none).publish Memory.transport
          (Archive.vault ⟨.fixed 2 .zero, "event-backup"⟩) .newCase blankCase
          overload =
        (.error
          (.backupFailed identifier (.transportUnavailable "event_new-case")
            (.store
              (.exhausted identifier.toText 2 (.backend .aborted "again")))),
          after) ∧
      identifier =
        (overload.supply.envelope .newCase blankCase).header.messageId ∧
      after.vault.documents = .empty := by
  have lost :
      (withBackup none).publish Memory.transport
          (Archive.vault ⟨.fixed 2 .zero, "event-backup"⟩) .newCase blankCase
          overload =
        (.error
          (.backupFailed
            (overload.supply.envelope .newCase blankCase).header.messageId
            (.transportUnavailable "event_new-case")
            (.store
              (.exhausted
                (overload.supply.envelope .newCase
                  blankCase).header.messageId.toText 2
                (.backend .aborted "again")))),
          _) :=
    rfl
  obtain ⟨same, untouched, _⟩ :=
    (stored_or_untouched (.fixed 2 .zero) "event-backup" "" .null ""
      .empty).2.2 (withBackup none) Memory.transport .newCase blankCase
      overload _ _ _ _ lost
  exact ⟨_, _, lost, same, untouched⟩

end Publisher

end EventRelay
