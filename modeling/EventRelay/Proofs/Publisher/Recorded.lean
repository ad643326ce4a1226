import EventRelay.World

/-!
# Transports and vaults that record their calls

Any transport and any vault can be watched: beside their own state they keep
the list of calls that were made to them, each with its arguments and its
outcome.  Watching changes no outcome, so what is proved of calls to a
recorded transport is true of the transport itself.
-/

namespace EventRelay

/-- One call to a transport. -/
structure Delivery where
  topic : String
  envelope : Envelope
  outcome : Except Cause Unit

/-- Whether the transport took the envelope. -/
def Delivery.isTaken (delivery : Delivery) : Bool :=
  delivery.outcome.isOk

/-- One call to a vault. -/
structure Keeping where
  type : EventType
  envelope : Envelope
  failedAt : Timestamp
  outcome : Except Cause Unit

/-- The transport that also lists the calls made to it. -/
def Transport.recorded {σ : Type} (transport : Transport σ) :
    Transport (σ × List Delivery) where
  deliver topic envelope state :=
    let (outcome, after) := transport.deliver topic envelope state.1
    (outcome, after, state.2 ++ [⟨topic, envelope, outcome⟩])

/-- The vault that also lists the calls made to it. -/
def Vault.recorded {ν : Type} (vault : Vault ν) : Vault (ν × List Keeping) where
  keep type envelope failedAt state :=
    let (outcome, after) := vault.keep type envelope failedAt state.1
    (outcome, after, state.2 ++ [⟨type, envelope, failedAt, outcome⟩])

/-- The calls that a recorded transport has seen between two points. -/
def handed {σ ν : Type} (before after : World (σ × List Delivery) ν) :
    List Delivery :=
  after.transport.2.drop before.transport.2.length

/-- Whether a transport took an envelope in one of the calls. -/
def Accepted (deliveries : List Delivery) (envelope : Envelope) : Prop :=
  ∃ delivery ∈ deliveries,
    delivery.envelope = envelope ∧ delivery.outcome = .ok ()

/-- Whether a vault kept an envelope in one of the calls. -/
def Kept (keepings : List Keeping) (envelope : Envelope) : Prop :=
  ∃ keeping ∈ keepings, keeping.envelope = envelope ∧ keeping.outcome = .ok ()

section Calls

variable {σ ν : Type}

/-- Watching a transport changes neither its outcomes nor its states. -/
@[simp]
theorem Transport.deliver_recorded (transport : Transport σ) (topic : String)
    (envelope : Envelope) (state : σ × List Delivery) :
    transport.recorded.deliver topic envelope state =
      ((transport.deliver topic envelope state.1).1,
        (transport.deliver topic envelope state.1).2,
        state.2 ++
          [⟨topic, envelope,
            (transport.deliver topic envelope state.1).1⟩]) := rfl

/-- Watching a vault changes neither its outcomes nor its states. -/
@[simp]
theorem Vault.keep_recorded
    (vault : Vault ν) (type : EventType) (envelope : Envelope)
    (failedAt : Timestamp) (state : ν × List Keeping) :
    vault.recorded.keep type envelope failedAt state =
      ((vault.keep type envelope failedAt state.1).1,
        (vault.keep type envelope failedAt state.1).2,
        state.2 ++
          [⟨type, envelope, failedAt,
            (vault.keep type envelope failedAt state.1).1⟩]) := rfl

theorem handed_eq
    {before after : World (σ × List Delivery) ν} {deliveries : List Delivery}
    (recorded : after.transport.2 = before.transport.2 ++ deliveries) :
    handed before after = deliveries := by
  unfold handed
  rw [recorded, List.drop_left]

theorem Accepted.append_left {deliveries : List Delivery} {envelope : Envelope}
    (accepted : Accepted deliveries envelope) (later : List Delivery) :
    Accepted (deliveries ++ later) envelope := by
  obtain ⟨delivery, member, same⟩ := accepted
  exact ⟨delivery, List.mem_append_left _ member, same⟩

end Calls

end EventRelay
