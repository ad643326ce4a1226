import EventRelay.Memory
import EventRelay.Proofs.Backup.Record
import EventRelay.Proofs.Event.Envelope
import EventRelay.Proofs.Publisher.Recorded
import EventRelay.Proofs.Publisher.Transmission
import EventRelay.Replay

/-!
# Events that can be rebuilt

An event that was given as text, could not be sent and was kept is rebuilt
from its record, and sent by a replay over a transport that works, exactly if
its payload is nested two levels less than a text may be.  The text of a
payload is accepted up to the limit itself, but it is stored inside an
envelope; the records of payloads at the last two levels are filed, and no
replay will ever send them.
-/

namespace EventRelay

variable {σ ν : Type}

/-- The record of a call that kept an envelope. -/
def Keeping.record (keeping : Keeping) : BackupRecord :=
  .ofFailedSend keeping.type keeping.envelope keeping.failedAt

/-- The standard builder of the type of a record makes a draft of its text. -/
def BackupRecord.Rebuilds (record : BackupRecord) : Prop :=
  ∃ draft,
    BuilderTable.standard.recover record.type record.envelopeText = .ok draft

/-- A transport that takes every envelope. -/
def Transport.Healthy (transport : Transport σ) : Prop :=
  ∀ topic envelope state, (transport.deliver topic envelope state).1 = .ok ()

namespace Publisher

/-! ## What was kept -/

/-- A draft whose publication succeeded has passed the checks. -/
theorem passes_of_published
    {publisher : Publisher} {transport : Transport σ} {vault : Vault ν}
    {type : EventType} {draft : Draft} {world after : World σ ν}
    {identifier : Identifier}
    (published :
      publisher.publish transport vault type draft world =
        (.ok identifier, after)) :
    ∃ topic, publisher.Passes type draft topic := by
  apply Classical.byContradiction
  intro refused
  obtain ⟨error, failed⟩ := publish_of_not_passes refused transport vault world
  rw [failed] at published
  cases published

/--
The one envelope that a successful publication gives to the vault is the one
it made, and the vault keeps it.
-/
theorem kept_envelope
    {publisher : Publisher} {transport : Transport σ} {vault : Vault ν}
    {type : EventType} {draft : Draft}
    {world after : World σ (ν × List Keeping)} {identifier : Identifier}
    {keeping : Keeping}
    (published :
      publisher.publish transport vault.recorded type draft world =
        (.ok identifier, after))
    (kept : after.vault.2 = world.vault.2 ++ [keeping]) :
    keeping.type = type ∧ keeping.envelope = world.supply.envelope type draft ∧
      (∃ reading, keeping.failedAt = world.supply.times reading) ∧
      vault.keep keeping.type keeping.envelope keeping.failedAt world.vault.1 =
        (.ok (), after.vault.1) := by
  obtain ⟨topic, passes⟩ := passes_of_published published
  have outcome := publishes passes transport vault.recorded world
  rw [published] at outcome
  cases outcome with
  | sent state ticked breaker taken =>
      have shorter := congrArg List.length kept
      simp at shorter
  | kept state ticked breaker cause contents backup failed taken =>
      rw [Vault.keep_recorded] at taken
      obtain ⟨held, rfl⟩ := Prod.mk.inj taken
      obtain rfl := List.singleton_inj.mp (List.append_cancel_left kept)
      exact ⟨rfl, rfl, ⟨world.supply.timed + 1, rfl⟩, Prod.ext held rfl⟩

/-! ## What a replay makes of a record -/

/--
A record that is rebuilt is sent again by a replayer whose transport is
healthy.
-/
theorem resend_healthy
    {record : BackupRecord} {draft : Draft}
    (kind : draft.payload.kind = record.type.payloadKind)
    (recovered :
      BuilderTable.standard.recover record.type record.envelopeText = .ok draft)
    {transport : Transport σ} (healthy : transport.Healthy) (vault : Vault ν)
    (world : World σ ν) :
    (Replayer.standard.publisher.resend transport vault record
      world).1.isOk = true := by
  have passes : Replayer.standard.publisher.Passes record.type draft
      ("" ++ record.type.standardTopic) := ⟨kind, rfl, rfl⟩
  have outcome := publishes passes transport vault world
  have resent :
      Replayer.standard.publisher.resend transport vault record world =
        Replayer.standard.publisher.publish transport vault record.type draft
          world := by
    unfold resend
    rw [show Replayer.standard.publisher.builders = .standard from rfl,
      recovered]
  rw [resent]
  generalize
    Replayer.standard.publisher.publish transport vault record.type draft
      world = result at outcome ⊢
  cases outcome with
  | sent state ticked breaker taken => rfl
  | told state ticked breaker cause backup failed =>
      have taken := healthy ("" ++ record.type.standardTopic)
        (world.supply.envelope record.type draft) world.transport
      have refused :
          transport.deliver ("" ++ record.type.standardTopic)
              (world.supply.envelope record.type draft) world.transport =
            (.error cause, state) :=
        failed
      rw [refused] at taken
      cases taken
  | kept state ticked breaker cause contents backup failed taken => cases backup
  | lost state ticked breaker cause second contents backup failed refused =>
      cases backup

/--
A record that is not rebuilt fails at every replay, and nothing outside
changes.
-/
theorem resend_malformed
    {record : BackupRecord} {type : EventType} {fault : Json.Fault}
    (refused :
      BuilderTable.standard.recover record.type record.envelopeText =
        .error (.malformed type fault))
    (transport : Transport σ) (vault : Vault ν) (world : World σ ν) :
    Replayer.standard.publisher.resend transport vault record world =
      (.error (.malformedBackup record.messageId (.malformed type fault)),
        world) := by
  unfold resend
  rw [show Replayer.standard.publisher.builders = .standard from rfl, refused]

/--
The text of a kept envelope gives a draft again where two more levels may be
opened.
-/
theorem recover_kept
    {publisher : Publisher} {transport : Transport σ} {vault : Vault ν}
    {type : EventType} {source : Source} {channel : Channel} {text : String}
    {payload : Payload} {world after : World σ (ν × List Keeping)}
    {identifier : Identifier} {keeping : Keeping}
    (clock : ∀ reading, (world.supply.times reading).Valid)
    (accepted : Payload.decode type.payloadKind text = .ok payload)
    (answered :
      publisher.sendText transport vault.recorded type source channel text
          world =
        (.ok identifier, after))
    (kept : after.vault.2 = world.vault.2 ++ [keeping]) :
    keeping.record.Storable ∧
      ∃ draft : Draft,
        draft.payload.kind = keeping.record.type.payloadKind ∧
          BuilderTable.standard.recover keeping.record.type
              keeping.record.envelopeText =
            if payload.nesting + 2 ≤ Json.nestingLimit then .ok draft else
              .error (.malformed keeping.record.type .malformed) := by
  unfold sendText at answered
  rw [accepted] at answered
  obtain ⟨rfl, envelope, ⟨reading, failedAt⟩, _⟩ := kept_envelope answered kept
  obtain ⟨content, rfl, lasts⟩ := Payload.lasts_of_decode accepted
  refine ⟨BackupRecord.storable_ofFailedSend _ _ (failedAt ▸ clock reading), ?_⟩
  unfold Keeping.record BackupRecord.ofFailedSend
  dsimp only
  rw [envelope]
  have valid :
      (Header.mint keeping.type
        ⟨⟨keeping.type.payloadKind, content⟩, source, channel, none⟩
        world.supply.mint.1 world.supply.now.1).time.Valid :=
    clock world.supply.timed
  obtain ⟨draft, kind, recovered, _⟩ := Envelope.recover_encode valid lasts
  exact ⟨draft, kind, recovered⟩

/--
An event that was given as text and kept is rebuilt from the document of its
record, and sent by a replay over a healthy transport, exactly if its payload
is nested two levels less than a text may be.
-/
theorem sendText_kept_rebuilds_iff
    {publisher : Publisher} {transport : Transport σ} {vault : Vault ν}
    {type : EventType} {source : Source} {channel : Channel} {text : String}
    {payload : Payload} {world after : World σ (ν × List Keeping)}
    {identifier : Identifier} {keeping : Keeping}
    (clock : ∀ reading, (world.supply.times reading).Valid)
    (accepted : Payload.decode type.payloadKind text = .ok payload)
    (answered :
      publisher.sendText transport vault.recorded type source channel text
          world =
        (.ok identifier, after))
    (kept : after.vault.2 = world.vault.2 ++ [keeping]) :
    ∃ record,
      Archive.decode (BackupRecord.codec.toDocument keeping.record) =
        .ok record ∧
      (record.Rebuilds ↔ payload.nesting + 2 ≤ Json.nestingLimit) ∧
      ∀ {σ' ν' : Type} (healthy : Transport σ') (other : Vault ν')
        (later : World σ' ν'), healthy.Healthy →
        ((Replayer.standard.publisher.resend healthy other record
            later).1.isOk = true ↔
          payload.nesting + 2 ≤ Json.nestingLimit) := by
  obtain ⟨storable, draft, kind, recovered⟩ :=
    recover_kept clock accepted answered kept
  refine ⟨keeping.record, Archive.decode_toDocument storable, ?_⟩
  by_cases fits : payload.nesting + 2 ≤ Json.nestingLimit
  · rw [if_pos fits] at recovered
    refine ⟨⟨fun _ => fits, fun _ => ⟨draft, recovered⟩⟩, ?_⟩
    intro _ _ healthy other later takes
    exact ⟨fun _ => fits,
      fun _ => resend_healthy kind recovered takes other later⟩
  · rw [if_neg fits] at recovered
    refine ⟨⟨?_, fun more => absurd more fits⟩, ?_⟩
    · rintro ⟨_, rebuilt⟩
      rw [recovered] at rebuilt
      cases rebuilt
    · intro _ _ healthy other later _
      refine ⟨?_, fun more => absurd more fits⟩
      rw [resend_malformed recovered]
      intro never
      cases never

/-! ## Two events kept during an outage -/

/-- A watched outside whose transport fails and whose vault works. -/
def refusing : World Memory.Sender (Memory.Keeper × List Keeping) :=
  ⟨.still ⟨0, 0, 0⟩, .initial .always, (.initial .none, []), .initial⟩

/--
What the vault is given for a payload that is sent while the transport fails.
-/
def refused (type : EventType) (payload : Payload) : Keeping :=
  ⟨type, refusing.supply.envelope type ⟨payload, .sampleLoader, .rm, none⟩,
    ⟨0, 0, 0⟩, .ok ()⟩

theorem clock_refusing (reading : Nat) :
    (refusing.supply.times reading).Valid := by
  show (Timestamp.mk 0 0 0).Valid
  decide

/-- While the transport fails, an event that was given as text is kept. -/
theorem sendText_refusing
    {type : EventType} {text : String} {payload : Payload}
    (accepted : Payload.decode type.payloadKind text = .ok payload) :
    ∃ identifier after,
      (withBackup none).sendText Memory.transport Memory.vault.recorded type
          .sampleLoader .rm text refusing =
        (.ok identifier, after) ∧
      after.vault.2 = refusing.vault.2 ++ [refused type payload] := by
  obtain ⟨content, rfl, _⟩ := Payload.lasts_of_decode accepted
  have passes :
      (withBackup none).Passes type
        ⟨⟨type.payloadKind, content⟩, .sampleLoader, .rm, none⟩
        ("" ++ type.standardTopic) :=
    ⟨rfl, rfl, rfl⟩
  have outcome :=
    publishes passes Memory.transport Memory.vault.recorded refusing
  unfold sendText
  rw [accepted]
  show ∃ identifier after,
    (withBackup none).publish Memory.transport Memory.vault.recorded type
        ⟨⟨type.payloadKind, content⟩, .sampleLoader, .rm, none⟩ refusing =
      (.ok identifier, after) ∧ _
  generalize
      (withBackup none).publish Memory.transport Memory.vault.recorded type
        ⟨⟨type.payloadKind, content⟩, .sampleLoader, .rm, none⟩ refusing =
    result at outcome ⊢
  cases outcome with
  | sent state ticked breaker taken => cases taken
  | told state ticked breaker cause backup failed => cases backup
  | kept state ticked breaker cause contents backup failed taken =>
      refine ⟨_, _, rfl, ?_⟩
      cases taken
      rfl
  | lost state ticked breaker cause second contents backup failed refused =>
      cases refused

/-- The text of an object without members. -/
def blankText : String := "{}"

/-- The launch that such a text is read as. -/
def blankLaunch : Payload := ⟨.launch, (⟨"", none, none⟩ : Launch)⟩

/-- An event with next to nothing in it is kept and can be rebuilt. -/
theorem sendText_kept_rebuilds_blank :
    (∀ reading, (refusing.supply.times reading).Valid) ∧
      Payload.decode EventType.surveyLaunch.payloadKind blankText =
        .ok blankLaunch ∧
      ∃ identifier after,
        (withBackup none).sendText Memory.transport Memory.vault.recorded
            .surveyLaunch .sampleLoader .rm blankText refusing =
          (.ok identifier, after) ∧
        after.vault.2 =
          refusing.vault.2 ++ [refused .surveyLaunch blankLaunch] ∧
        ∃ record,
          Archive.decode
              (BackupRecord.codec.toDocument
                (refused .surveyLaunch blankLaunch).record) =
            .ok record ∧
          record.Rebuilds := by
  have accepted :
      Payload.decode EventType.surveyLaunch.payloadKind blankText =
        .ok blankLaunch :=
    rfl
  obtain ⟨identifier, after, answered, kept⟩ := sendText_refusing accepted
  obtain ⟨record, filed, rebuilds, _⟩ :=
    sendText_kept_rebuilds_iff clock_refusing accepted answered kept
  have fits : blankLaunch.nesting + 2 ≤ Json.nestingLimit := by decide
  exact ⟨clock_refusing, accepted, identifier, after, answered, kept, record,
    filed, rebuilds.mpr fits⟩

/--
The characters of a survey whose metadata are so many arrays inside each
other.
-/
def nestedSurvey (arrays : Nat) : List Char :=
  ['\x7b', '"', 'm', 'e', 't', 'a', 'd', 'a', 't', 'a', '"', ':'] ++
    List.replicate arrays '[' ++ List.replicate arrays ']' ++ ['\x7d']

/-- A survey whose metadata reach the last level but one is accepted. -/
theorem nestedSurvey_accepted :
    ∃ payload,
      Payload.decode EventType.surveyUpdate.payloadKind
          (String.ofList (nestedSurvey 125)) =
        .ok payload ∧
      payload.nesting = 126 := by
  have read : ((Survey.codec.read Json.nestingLimit
      (nestedSurvey 125)).toOption.map fun result =>
      (result.2, (Payload.mk .survey result.1).nesting)) = some ([], 126) := by
    decide +kernel
  cases parsed : Survey.codec.read Json.nestingLimit (nestedSurvey 125) with
  | error fault =>
      rw [parsed] at read
      cases read
  | ok result =>
      rw [parsed] at read
      obtain ⟨rest, nesting⟩ := Prod.mk.inj (Option.some.inj read)
      obtain ⟨survey, after⟩ := result
      obtain rfl : after = [] := rest
      refine ⟨⟨.survey, survey⟩, ?_, nesting⟩
      show (Survey.codec.decode (String.ofList (nestedSurvey 125))).map _ = _
      unfold Json.Codec.decode
      rw [String.toList_ofList, parsed]
      rfl

/--
The kept record of such a survey is not rebuilt, and every replay fails
without changing anything.
-/
theorem sendText_kept_never_replayed :
    ∃ payload identifier after,
      Payload.decode EventType.surveyUpdate.payloadKind
          (String.ofList (nestedSurvey 125)) =
        .ok payload ∧
      (withBackup none).sendText Memory.transport Memory.vault.recorded
          .surveyUpdate .sampleLoader .rm (String.ofList (nestedSurvey 125))
          refusing =
        (.ok identifier, after) ∧
      after.vault.2 = refusing.vault.2 ++ [refused .surveyUpdate payload] ∧
      ¬ (refused .surveyUpdate payload).record.Rebuilds ∧
      ∀ {σ ν : Type} (transport : Transport σ) (vault : Vault ν)
        (world : World σ ν),
        Replayer.standard.publisher.resend transport vault
            (refused .surveyUpdate payload).record world =
          (.error
            (.malformedBackup (refused .surveyUpdate payload).record.messageId
              (.malformed .surveyUpdate .malformed)), world) := by
  obtain ⟨payload, accepted, nesting⟩ := nestedSurvey_accepted
  obtain ⟨identifier, after, answered, kept⟩ := sendText_refusing accepted
  obtain ⟨_, draft, _, recovered⟩ :=
    recover_kept clock_refusing accepted answered kept
  have exceeds : ¬ payload.nesting + 2 ≤ Json.nestingLimit := by
    rw [nesting]
    decide
  rw [if_neg exceeds] at recovered
  refine ⟨payload, identifier, after, accepted, answered, kept, ?_, ?_⟩
  · rintro ⟨_, rebuilt⟩
    rw [recovered] at rebuilt
    cases rebuilt
  · intro _ _ transport vault world
    exact resend_malformed recovered transport vault world

end Publisher

end EventRelay
