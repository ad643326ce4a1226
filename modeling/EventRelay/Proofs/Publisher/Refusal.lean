import EventRelay.Proofs.Publisher.Account
import EventRelay.Proofs.Publisher.Request

/-!
# Calls that are refused

A publishing call is refused when what it was given cannot be read, or when
the draft that it asks for fails a check.  Reading comes first, and the checks
follow in a fixed order: the kind of the payload, the topic, the builder.  The
first of them that fails decides the error.

A call that is refused has touched nothing: no call was made to the transport
or the vault, and the breaker was not asked.  Any other error comes from one
of the two, so it was preceded by a call.
-/

namespace EventRelay

/--
Whether an error blames what the call was given: it is a validation error, or
it tells of a backup record that cannot be read.
-/
def PublishError.isRefusal : PublishError → Bool
  | .malformedBackup .. => true
  | error => error.isValidation

namespace Publisher

variable {σ ν : Type} {publisher : Publisher} {request : Request}
  {type : EventType} {draft : Draft} {error : PublishError}

/-- What fails first when a call is answered, by the error that tells it. -/
inductive Rejects (publisher : Publisher) : Request → PublishError → Prop where
  | unreadable {request : Request} {error : PublishError}
      (unreadable : publisher.Unreadable request error) :
      Rejects publisher request error
  | refused {request : Request} {error : PublishError} (type : EventType)
      (draft : Draft)
      (asked : request.asked? publisher.builders = some (type, draft))
      (refuses : publisher.Refuses type draft error) :
      Rejects publisher request error

/-- Between two points the transport or the vault was called. -/
def Called (before after : World (σ × List Delivery) (ν × List Keeping)) :
    Prop :=
  before.transport.2.length < after.transport.2.length ∨
    before.vault.2.length < after.vault.2.length

theorem Rejects.isRefusal (rejects : publisher.Rejects request error) :
    error.isRefusal = true := by
  cases rejects with
  | unreadable unreadable =>
      cases unreadable with
      | text => rfl
      | unbuilt => rfl
      | malformed => rfl
  | refused _ _ _ refuses =>
      cases refuses with
      | incompatible => rfl
      | unrouted => rfl
      | unbuilt => rfl

/-- What is rejected is answered with the error, and nothing has changed. -/
theorem Rejects.respond
    (rejects : publisher.Rejects request error) (transport : Transport σ)
    (vault : Vault ν) (world : World σ ν) :
    publisher.respond transport vault request world =
      (.error error, world) := by
  cases rejects with
  | unreadable unreadable =>
      exact respond_unreadable unreadable transport vault world
  | refused type draft asked refuses =>
      rw [respond_asked asked]
      exact publish_refused refuses transport vault world

/-- Only a record that cannot be read is malformed. -/
theorem Rejects.isValidation
    (rejects : publisher.Rejects request error)
    (fresh : ∀ record, request ≠ .resend record) :
    error.isValidation = true := by
  cases rejects with
  | unreadable unreadable =>
      cases unreadable with
      | text => rfl
      | unbuilt record => exact absurd rfl (fresh record)
      | malformed record => exact absurd rfl (fresh record)
  | refused _ _ _ refuses =>
      cases refuses with
      | incompatible => rfl
      | unrouted => rfl
      | unbuilt => rfl

/-- A draft that passes the checks fails only after a call was made. -/
theorem called_of_publishes
    {transport : Transport σ} {vault : Vault ν} {topic : String}
    {envelope : Envelope}
    {before after : World (σ × List Delivery) (ν × List Keeping)}
    (outcome :
      Publishes publisher transport.recorded vault.recorded type topic envelope
        before (.error error, after)) :
    error.isRefusal = false ∧ Called before after := by
  cases outcome with
  | told state ticked breaker cause disabled failed =>
      constructor
      · rfl
      · rcases publisher.sending_recorded transport topic envelope before with
          ⟨_, rejected, _⟩ | ⟨_, outcome, next, sent⟩
        · rw [rejection?_eq_none disabled] at rejected
          cases rejected
        · rw [failed] at sent
          cases sent
          left
          simp
  | lost state ticked breaker cause second contents enabled failed refused =>
      constructor
      · rfl
      · rw [Vault.keep_recorded] at refused
        obtain ⟨_, rfl⟩ := Prod.mk.inj refused
        right
        simp

/-- A call is rejected, or its draft passes the checks and is published. -/
theorem rejects_or_publishes
    (publisher : Publisher) (transport : Transport σ) (vault : Vault ν)
    (request : Request) (world : World σ ν) :
    (∃ error, publisher.Rejects request error) ∨
      ∃ type topic envelope,
        Publishes publisher transport vault type topic envelope world
          (publisher.respond transport vault request world) := by
  rcases publisher.asked_or_unreadable request with
    ⟨type, draft, asked⟩ | ⟨error, unreadable⟩
  · rcases publisher.passes_or_refuses type draft with
      ⟨topic, passes⟩ | ⟨error, refuses⟩
    · right
      refine ⟨type, topic, world.supply.envelope type draft, ?_⟩
      rw [respond_asked asked]
      exact publishes passes transport vault world
    · left
      exact ⟨error, .refused type draft asked refuses⟩
  · left
    exact ⟨error, .unreadable unreadable⟩

/--
A call is answered with an error that blames what it was given exactly when
that error tells what fails first, and then nothing outside has changed.  A
fresh event that fails with any other error has been handed to the transport
or to the vault.
-/
theorem rejected_untouched
    (publisher : Publisher) (transport : Transport σ) (vault : Vault ν)
    (request : Request)
    (world : World (σ × List Delivery) (ν × List Keeping)) :
    (∀ error,
      publisher.Rejects request error ↔
        error.isRefusal = true ∧
          (publisher.respond transport.recorded vault.recorded request
            world).1 = .error error) ∧
    (∀ error, error.isRefusal = true →
      (publisher.respond transport.recorded vault.recorded request world).1 =
          .error error →
        (publisher.respond transport.recorded vault.recorded request
          world).2 = world) ∧
    (∀ error, error.isValidation = false →
      (∀ record, request ≠ .resend record) →
        (publisher.respond transport.recorded vault.recorded request
            world).1 = .error error →
          Called world
            (publisher.respond transport.recorded vault.recorded request
              world).2) := by
  rcases publisher.rejects_or_publishes transport.recorded vault.recorded
      request world with
    ⟨first, rejects⟩ | ⟨type, topic, envelope, outcome⟩
  · have answered := rejects.respond transport.recorded vault.recorded world
    rw [answered]
    refine ⟨?_, fun _ _ _ => rfl, ?_⟩
    · intro error
      constructor
      · intro other
        have same := other.respond transport.recorded vault.recorded world
        rw [answered] at same
        cases same
        exact ⟨other.isRefusal, rfl⟩
      · rintro ⟨_, same⟩
        cases same
        exact rejects
    · intro error sound fresh same
      cases same
      rw [rejects.isValidation fresh] at sound
      cases sound
  · rcases answered :
        publisher.respond transport.recorded vault.recorded request world with
      ⟨answer, after⟩
    rw [answered] at outcome
    refine ⟨?_, ?_, ?_⟩
    · intro error
      constructor
      · intro rejects
        have same := rejects.respond transport.recorded vault.recorded world
        rw [answered] at same
        cases same
        exact ⟨rejects.isRefusal, rfl⟩
      · rintro ⟨refusal, same⟩
        cases same
        rw [(called_of_publishes outcome).1] at refusal
        cases refusal
    · intro error refusal same
      cases same
      rw [(called_of_publishes outcome).1] at refusal
      cases refusal
    · intro error _ _ same
      cases same
      exact (called_of_publishes outcome).2

/-- A watched outside whose breaker has been open for longer than its window. -/
def overdue :
    World (Memory.Sender × List Delivery) (Memory.Keeper × List Keeping) :=
  { outage with
    supply := { outage.supply with ticks := fun _ => 30000000001 }
    breaker := ⟨.opened, 5, some 0, 0, 0⟩ }

/--
The breaker would go half open for the next call, but a draft of the wrong
kind does not make it do so.
-/
theorem rejected_untouched_overdue :
    (withBackup (some .standard)).rejection? overdue = none ∧
      (withBackup (some .standard)).respond Memory.transport.recorded
          Memory.vault.recorded (.publish .refusal blankCase) overdue =
        (.error (.incompatiblePayload .refusal .refusal .newCase), overdue) :=
    by
  constructor
  · decide
  · have answered :
        ((withBackup (some .standard)).respond Memory.transport.recorded
            Memory.vault.recorded (.publish .refusal blankCase) overdue).1 =
          .error (.incompatiblePayload .refusal .refusal .newCase) := rfl
    have untouched :=
      (rejected_untouched (withBackup (some .standard)) Memory.transport
        Memory.vault (.publish .refusal blankCase) overdue).2.1 _ rfl answered
    exact Prod.ext answered untouched

end Publisher

end EventRelay
