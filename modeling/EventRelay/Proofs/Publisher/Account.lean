import EventRelay.Memory
import EventRelay.Proofs.Publisher.Recorded
import EventRelay.Proofs.Publisher.Transmission

/-!
# The account of one publication

Watching a publication gives an account of it: the one envelope that was made,
the calls to the transport and to the vault, and the answer.  An account is
balanced when the three fit together as the caller is promised, so that
success means the event is sent or kept and never both, and an error names
every cause of its loss.
-/

namespace EventRelay.Publisher

variable {σ ν : Type}

/--
Why an envelope was not sent: the breaker's rejection or the transport's
refusal.
-/
def Unsent
    (publisher : Publisher) (before : World σ ν) (deliveries : List Delivery)
    (cause : Cause) : Prop :=
  publisher.rejection? before = some cause ∨
    ∃ delivery ∈ deliveries, delivery.outcome = .error cause

/-- The parts of a publication that its watchers see. -/
structure Account where
  envelope : Envelope
  deliveries : List Delivery
  keepings : List Keeping
  answer : Except PublishError Identifier

/-- How the account of publishing a draft fits together. -/
structure Account.Balanced
    (account : Account) (publisher : Publisher) (type : EventType)
    (draft : Draft) (topic : String) (before : World σ ν) : Prop where
  /-- The envelope has the type, the payload and the routing asked for. -/
  routing :
      account.envelope.header.type = type ∧ account.envelope.toDraft = draft
  /-- The envelope has the next identifier, which also starts its exchange. -/
  identity : account.envelope.header.messageId = before.supply.mint.1 ∧
    account.envelope.header.correlationId = account.envelope.header.messageId
  /-- The transport is called once with the topic and the envelope … -/
  called : publisher.rejection? before = none →
    ∃ outcome, account.deliveries = [⟨topic, account.envelope, outcome⟩]
  /-- … unless the breaker rejects the call. -/
  spared : publisher.rejection? before ≠ none → account.deliveries = []
  /--
  The vault is called once if there is one and the envelope was not sent …
  -/
  diverted :
      publisher.hasBackup = true ∧
        ¬Accepted account.deliveries account.envelope →
        ∃ failedAt outcome,
          account.keepings = [⟨type, account.envelope, failedAt, outcome⟩]
  /-- … and else not at all. -/
  undiverted :
      ¬(publisher.hasBackup = true ∧
          ¬Accepted account.deliveries account.envelope) →
        account.keepings = []
  /--
  Success means that the envelope is sent or kept, and tells its identifier.
  -/
  success : ∀ identifier, account.answer = .ok identifier ↔
    identifier = account.envelope.header.messageId ∧
      (Accepted account.deliveries account.envelope ∨
        Kept account.keepings account.envelope)
  exclusive : ¬(Accepted account.deliveries account.envelope ∧
    Kept account.keepings account.envelope)
  /-- Without a vault the cause of failure is told. -/
  told : ∀ cause, account.answer = .error (.send cause) ↔
    publisher.hasBackup = false ∧
      publisher.Unsent before account.deliveries cause
  /--
  An envelope that the vault refuses too is lost, and both causes are told.
  -/
  lost : ∀ identifier cause second,
    account.answer = .error (.backupFailed identifier cause second) ↔
      publisher.hasBackup = true ∧
        identifier = account.envelope.header.messageId ∧
        publisher.Unsent before account.deliveries cause ∧
        ∃ keeping ∈ account.keepings, keeping.outcome = .error second
  /-- There is no other answer. -/
  settled : (∃ identifier, account.answer = .ok identifier) ∨
    (∃ cause, account.answer = .error (.send cause)) ∨
      ∃ identifier cause second,
        account.answer = .error (.backupFailed identifier cause second)

/--
Watching a publication: its answer, the calls it adds to the records, and one
fresh identifier.
-/
structure Account.Of
    (account : Account)
    (before : World (σ × List Delivery) (ν × List Keeping))
    (result :
      Except PublishError Identifier × World (σ × List Delivery)
        (ν × List Keeping)) :
    Prop where
  answer : result.1 = account.answer
  deliveries : result.2.transport.2 = before.transport.2 ++ account.deliveries
  keepings : result.2.vault.2 = before.vault.2 ++ account.keepings
  minted : result.2.supply.minted = before.supply.minted + 1

/-! ## Balancing the four ways of publishing -/

/--
How sending goes when it is watched: a rejection without a call, or one call.
-/
theorem sending_recorded
    (publisher : Publisher) (transport : Transport σ) (topic : String)
    (envelope : Envelope) (before : World (σ × List Delivery) ν) :
    (∃ cause,
      publisher.rejection? before = some cause ∧
        publisher.sending transport.recorded topic envelope before =
          (.error cause, before.transport)) ∨
    (publisher.rejection? before = none ∧
      ∃ outcome state,
        publisher.sending transport.recorded topic envelope before =
          (outcome, state, before.transport.2 ++
            [⟨topic, envelope, outcome⟩])) := by
  unfold sending
  cases rejected : publisher.rejection? before with
  | some cause => exact Or.inl ⟨cause, rfl, rfl⟩
  | none => exact Or.inr ⟨rfl, _, _, rfl⟩

/-- The calls to the transport of one publication, given how sending ended. -/
structure Calls
    (publisher : Publisher) (topic : String) (envelope : Envelope)
    (before : World (σ × List Delivery) (ν × List Keeping))
    (outcome : Except Cause Unit) (state : σ × List Delivery)
    (deliveries : List Delivery) : Prop where
  recorded : state.2 = before.transport.2 ++ deliveries
  called : publisher.rejection? before = none →
    ∃ outcome, deliveries = [⟨topic, envelope, outcome⟩]
  spared : publisher.rejection? before ≠ none → deliveries = []
  accepted : Accepted deliveries envelope ↔ outcome = .ok ()
  unsent :
      ∀ cause, publisher.Unsent before deliveries cause ↔ outcome = .error cause

theorem exists_calls
    {publisher : Publisher} {transport : Transport σ} {topic : String}
    {envelope : Envelope}
    {before : World (σ × List Delivery) (ν × List Keeping)}
    {outcome : Except Cause Unit} {state : σ × List Delivery}
    (sent :
      publisher.sending transport.recorded topic envelope before =
        (outcome, state)) :
    ∃ deliveries,
      Calls publisher topic envelope before outcome state deliveries := by
  rcases publisher.sending_recorded transport topic envelope before with
    ⟨cause, rejected, sending⟩ | ⟨open', called, after, sending⟩
  · rw [sent] at sending
    obtain ⟨rfl, rfl⟩ := Prod.mk.inj sending
    refine ⟨[], ?_⟩
    refine ⟨by simp, ?_, fun _ => rfl, by simp [Accepted], ?_⟩
    · intro none
      simp [rejected] at none
    · intro other
      simp [Unsent, rejected]
  · rw [sent] at sending
    obtain ⟨rfl, rfl⟩ := Prod.mk.inj sending
    refine ⟨[⟨topic, envelope, outcome⟩], ?_⟩
    refine ⟨rfl, fun _ => ⟨outcome, rfl⟩, ?_, by simp [Accepted], ?_⟩
    · intro some
      exact absurd open' some
    · intro cause
      simp [Unsent, open']

theorem balanced_sent
    {publisher : Publisher} {type : EventType} {draft : Draft}
    {topic : String} {before : World (σ × List Delivery) (ν × List Keeping)}
    {state : σ × List Delivery} {deliveries : List Delivery}
    (calls :
      Calls publisher topic (before.supply.envelope type draft) before (.ok ())
        state deliveries) :
    Account.Balanced
      ⟨before.supply.envelope type draft, deliveries, [],
        .ok (before.supply.envelope type draft).header.messageId⟩
      publisher type draft topic before := by
  have accepted := calls.accepted.mpr rfl
  have noCause : ∀ cause, ¬publisher.Unsent before deliveries cause := by
    intro cause unsent
    cases (calls.unsent cause).mp unsent
  refine
    { routing := ⟨rfl, rfl⟩
      identity := ⟨rfl, rfl⟩
      called := calls.called
      spared := calls.spared
      diverted := fun diverted => absurd accepted diverted.2
      undiverted := fun _ => rfl
      success := ?_
      exclusive := by simp [Kept]
      told := by simp [noCause]
      lost := by simp
      settled := Or.inl ⟨_, rfl⟩ }
  intro identifier
  simp [accepted, eq_comm]

theorem balanced_told
    {publisher : Publisher} {type : EventType} {draft : Draft}
    {topic : String} {before : World (σ × List Delivery) (ν × List Keeping)}
    {state : σ × List Delivery} {deliveries : List Delivery} {cause : Cause}
    (backup : publisher.hasBackup = false)
    (calls :
      Calls publisher topic (before.supply.envelope type draft) before
        (.error cause) state deliveries) :
    Account.Balanced
      ⟨before.supply.envelope type draft, deliveries, [], .error (.send cause)⟩
      publisher type draft topic before := by
  have unaccepted :
      ¬Accepted deliveries (before.supply.envelope type draft) := by
    simp [calls.accepted]
  refine
    { routing := ⟨rfl, rfl⟩
      identity := ⟨rfl, rfl⟩
      called := calls.called
      spared := calls.spared
      diverted := by simp [backup]
      undiverted := fun _ => rfl
      success := by simp [unaccepted, Kept]
      exclusive := by simp [Kept]
      told := ?_
      lost := by simp
      settled := Or.inr (Or.inl ⟨cause, rfl⟩) }
  intro other
  simp [backup, calls.unsent]

/-- An envelope that went to the vault balances, whether it is kept or lost. -/
theorem balanced_diverted
    {publisher : Publisher} {type : EventType} {draft : Draft}
    {topic : String} {before : World (σ × List Delivery) (ν × List Keeping)}
    {state : σ × List Delivery} {deliveries : List Delivery} {cause : Cause}
    (backup : publisher.hasBackup = true)
    (calls :
      Calls publisher topic (before.supply.envelope type draft) before
        (.error cause) state deliveries)
    (failedAt : Timestamp) (kept : Except Cause Unit) :
    Account.Balanced
      ⟨before.supply.envelope type draft, deliveries,
        [⟨type, before.supply.envelope type draft, failedAt, kept⟩],
        match kept with
        | .ok _ => .ok (before.supply.envelope type draft).header.messageId
        | .error second =>
          .error (.backupFailed
            (before.supply.envelope type draft).header.messageId cause second)⟩
      publisher type draft topic before := by
  have unaccepted :
      ¬Accepted deliveries (before.supply.envelope type draft) := by
    simp [calls.accepted]
  refine
    { routing := ⟨rfl, rfl⟩
      identity := ⟨rfl, rfl⟩
      called := calls.called
      spared := calls.spared
      diverted := fun _ => ⟨failedAt, kept, rfl⟩
      undiverted := fun kept => absurd ⟨backup, unaccepted⟩ kept
      success := ?_
      exclusive := by simp [unaccepted]
      told := ?_
      lost := ?_
      settled := ?_ }
  · intro identifier
    cases kept with
    | ok _ => simp [unaccepted, Kept, eq_comm]
    | error second => simp [unaccepted, Kept]
  · intro other
    cases kept with
    | ok _ => simp [backup]
    | error second => simp [backup]
  · intro identifier first second
    cases kept with
    | ok _ => simp
    | error refusal =>
        simp only [Except.error.injEq, PublishError.backupFailed.injEq, backup,
          true_and, calls.unsent, List.mem_singleton, exists_eq_left]
        exact and_congr_left fun _ => eq_comm
  · cases kept with
    | ok _ => exact Or.inl ⟨_, rfl⟩
    | error second => exact Or.inr (Or.inr ⟨_, _, _, rfl⟩)

/-- Publishing a draft that passes the checks has a balanced account. -/
theorem publish_balanced
    {publisher : Publisher} {type : EventType} {draft : Draft}
    {topic : String} (passes : publisher.Passes type draft topic)
    (transport : Transport σ) (vault : Vault ν)
    (before : World (σ × List Delivery) (ν × List Keeping)) :
    ∃ account : Account,
      account.Of before
        (publisher.publish transport.recorded vault.recorded type draft
          before) ∧
      account.Balanced publisher type draft topic before := by
  have published := publishes passes transport.recorded vault.recorded before
  generalize publisher.publish transport.recorded vault.recorded type draft
      before =
    result at published ⊢
  cases published with
  | sent state ticked breaker taken =>
      obtain ⟨deliveries, calls⟩ := exists_calls taken
      exact ⟨_, ⟨rfl, calls.recorded, by simp, rfl⟩, balanced_sent calls⟩
  | told state ticked breaker cause backup failed =>
      obtain ⟨deliveries, calls⟩ := exists_calls failed
      exact ⟨_, ⟨rfl, calls.recorded, by simp, rfl⟩, balanced_told backup calls⟩
  | kept state ticked breaker cause contents backup failed taken =>
      obtain ⟨deliveries, calls⟩ := exists_calls failed
      rw [Vault.keep_recorded] at taken
      obtain ⟨outcome, rfl⟩ := Prod.mk.inj taken
      rw [outcome]
      exact ⟨_, ⟨rfl, calls.recorded, rfl, rfl⟩,
        balanced_diverted backup calls _ (.ok ())⟩
  | lost state ticked breaker cause second contents backup failed refused =>
      obtain ⟨deliveries, calls⟩ := exists_calls failed
      rw [Vault.keep_recorded] at refused
      obtain ⟨outcome, rfl⟩ := Prod.mk.inj refused
      rw [outcome]
      exact ⟨_, ⟨rfl, calls.recorded, rfl, rfl⟩,
        balanced_diverted backup calls _ (.error second)⟩

/-- A draft of a new case about which nothing is known. -/
def blankCase : Draft :=
  ⟨⟨.newCase, (⟨"", none, [], []⟩ : NewCase)⟩, .sampleLoader, .rm, none⟩

/-- A watched outside whose transport fails and whose vault works. -/
def outage :
    World (Memory.Sender × List Delivery) (Memory.Keeper × List Keeping) :=
  ⟨.still ⟨0, 0, 0⟩, (.initial .always, []), (.initial .none, []), .initial⟩

/--
During an outage of the transport the event is kept, and the account balances.
-/
theorem publish_balanced_outage :
    (Publisher.withBackup none).Passes .newCase blankCase "event_new-case" ∧
      ∃ account : Account,
        account.Of outage
          ((Publisher.withBackup none).publish Memory.transport.recorded
            Memory.vault.recorded .newCase blankCase outage) ∧
        account.Balanced (Publisher.withBackup none) .newCase blankCase
          "event_new-case" outage := by
  have passes :
      (Publisher.withBackup none).Passes .newCase blankCase "event_new-case" :=
    ⟨rfl, rfl, rfl⟩
  exact ⟨passes, publish_balanced passes Memory.transport Memory.vault outage⟩

end EventRelay.Publisher
