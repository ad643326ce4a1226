import EventRelay.Proofs.Breaker.Transition
import EventRelay.Publisher

/-!
# Calls that do not overlap

Where each call ends before the next one begins, a breaker needs to know less
than its state holds.  One number is enough in each phase: the failures in a
row while it is closed, the moment of opening while it is open, the successful
probes while it is half open.  `Mode` is the machine of these three modes.

The state keeps more.  It counts probes that were let pass apart from those
that succeeded, and counters of a phase stay behind when the phase is over.
`Tells` says what of a state a mode shows, and every call keeps it, so the
calls that are let pass and the phases that can be seen are those of the
machine.
-/

namespace EventRelay.Breaker

/-- A call that ends before the next one begins. -/
structure Call where
  /-- When it asks to pass. -/
  asked : Nat
  /-- When its outcome is recorded, if it was let pass. -/
  ended : Nat
  succeeded : Bool
  deriving DecidableEq

/-- What can be seen of a breaker at a call. -/
structure Sight where
  /-- The phase in which the call is made; none if it is rejected. -/
  made : Option Phase
  /-- The phase once the call is over. -/
  after : Phase
  deriving DecidableEq

/-! ## The machine of three modes -/

/-- A breaker as calls that do not overlap see it. -/
inductive Mode where
  | closed (failures : Nat)
  | opened (since : Nat)
  | halfOpen (successes : Nat)
  deriving DecidableEq

namespace Mode

/-- The phase that a mode belongs to. -/
def phase : Mode → Phase
  | .closed _ => .closed
  | .opened _ => .opened
  | .halfOpen _ => .halfOpen

/-- The phase in which a call that asks now is made; none if it is rejected. -/
def made (settings : Settings) (now : Nat) : Mode → Option Phase
  | .closed _ => some .closed
  | .opened since =>
    if now - since < settings.window.nanos then none else some .halfOpen
  | .halfOpen _ => some .halfOpen

/-- The mode after a call of a closed breaker that counts so many failures. -/
def attempt (settings : Settings) (call : Call) (failures : Nat) : Mode :=
  if call.succeeded then .closed 0
  else if settings.failureThreshold.count ≤ failures + 1 then
    .opened call.ended
  else .closed (failures + 1)

/-- The mode after a probe that follows so many successes. -/
def probe (settings : Settings) (call : Call) (successes : Nat) : Mode :=
  if call.succeeded then
    if settings.probes.count ≤ successes + 1 then .closed 0
    else .halfOpen (successes + 1)
  else .opened call.ended

/-- The mode after a call. -/
def next (settings : Settings) (call : Call) : Mode → Mode
  | .closed failures => attempt settings call failures
  | .opened since =>
    if call.asked - since < settings.window.nanos then .opened since
    else probe settings call 0
  | .halfOpen successes => probe settings call successes

/-- What is seen at a call in the mode. -/
def sight (settings : Settings) (call : Call) (mode : Mode) : Sight :=
  ⟨mode.made settings call.asked, (mode.next settings call).phase⟩

/-- What is seen at calls that are made one after the other. -/
def sights (settings : Settings) : List Call → Mode → List Sight
  | [], _ => []
  | call :: history, mode =>
      mode.sight settings call :: sights settings history
        (mode.next settings call)

/-- The mode after calls that are made one after the other. -/
def run (settings : Settings) (history : List Call) (mode : Mode) : Mode :=
  history.foldl (fun mode call => mode.next settings call) mode

end Mode

/-! ## The breaker itself -/

namespace State

/-- A whole call: it asks, and if it was let pass its outcome is recorded. -/
def next (settings : Settings) (call : Call) (state : State) : State :=
  let (permitted, asked) := state.ask settings call.asked
  if permitted then asked.record settings call.ended call.succeeded
  else asked

/-- What is seen at a whole call. -/
def sight (settings : Settings) (call : Call) (state : State) : Sight :=
  let (permitted, asked) := state.ask settings call.asked
  ⟨if permitted then some asked.phase else none,
    (state.next settings call).phase⟩

/-- What is seen at calls that are made one after the other. -/
def sights (settings : Settings) : List Call → State → List Sight
  | [], _ => []
  | call :: history, state =>
      state.sight settings call :: sights settings history
        (state.next settings call)

/-- The state after calls that are made one after the other. -/
def run (settings : Settings) (history : List Call) (state : State) : State :=
  history.foldl (fun state call => state.next settings call) state

end State

/--
What a mode tells of a state.  While half open, every probe that was let pass
has succeeded, so there is room for another.
-/
def Tells (settings : Settings) : Mode → State → Prop
  | .closed failures, state =>
      state.phase = .closed ∧ state.failures = failures
  | .opened since, state =>
      state.phase = .opened ∧ state.openedAt = some since
  | .halfOpen successes, state =>
      state.phase = .halfOpen ∧ state.probing = successes ∧
        state.succeeded = successes ∧ successes < settings.probes.count

variable {settings : Settings} {mode : Mode} {state : State}

theorem tells_initial (settings : Settings) :
    Tells settings (.closed 0) .initial :=
  ⟨rfl, rfl⟩

theorem Tells.phase (tells : Tells settings mode state) :
    state.phase = mode.phase := by
  cases mode with
  | closed failures => exact tells.1
  | opened since => exact tells.1
  | halfOpen successes => exact tells.1

/-! ## One call -/

/-- What a call of a closed breaker leaves. -/
theorem tells_attempt (phase : state.phase = .closed) (call : Call) :
    Tells settings (Mode.attempt settings call state.failures)
      (state.record settings call.ended call.succeeded) := by
  have recorded := state.records settings call.ended call.succeeded
  unfold Mode.attempt
  generalize call.succeeded = outcome at recorded ⊢
  generalize state.record settings call.ended outcome = after at recorded ⊢
  cases recorded with
  | praised closed => exact ⟨closed, rfl⟩
  | counted closed below =>
      rw [Quota.toNat_number] at below
      rw [if_neg Bool.false_ne_true, if_neg (Nat.not_le_of_lt below)]
      exact ⟨closed, rfl⟩
  | tripped closed reached =>
      rw [Quota.toNat_number] at reached
      rw [if_neg Bool.false_ne_true, if_pos reached]
      exact ⟨rfl, rfl⟩
  | ignored opened => simp [phase] at opened
  | approved halfOpen below => simp [phase] at halfOpen
  | recovered halfOpen reached => simp [phase] at halfOpen
  | relapsed halfOpen => simp [phase] at halfOpen

/-- What a probe leaves that is the only one on its way. -/
theorem tells_probe
    (phase : state.phase = .halfOpen)
    (alone : state.probing = state.succeeded + 1) (call : Call) :
    Tells settings (Mode.probe settings call state.succeeded)
      (state.record settings call.ended call.succeeded) := by
  have recorded := state.records settings call.ended call.succeeded
  unfold Mode.probe
  generalize call.succeeded = outcome at recorded ⊢
  generalize state.record settings call.ended outcome = after at recorded ⊢
  cases recorded with
  | praised closed => simp [phase] at closed
  | counted closed below => simp [phase] at closed
  | tripped closed reached => simp [phase] at closed
  | ignored opened => simp [phase] at opened
  | approved halfOpen below =>
      rw [Quota.toNat_number] at below
      rw [if_pos rfl, if_neg (Nat.not_le_of_lt below)]
      exact ⟨halfOpen, alone, rfl, below⟩
  | recovered halfOpen reached =>
      rw [Quota.toNat_number] at reached
      rw [if_pos rfl, if_pos reached]
      exact ⟨rfl, rfl⟩
  | relapsed halfOpen =>
      rw [if_neg Bool.false_ne_true]
      exact ⟨rfl, rfl⟩

/-- A call that is let pass is made in the phase that asking leaves. -/
theorem State.sight_of_permitted
    {call : Call} {during : State}
    (permitted : state.ask settings call.asked = (true, during)) :
    state.next settings call =
        during.record settings call.ended call.succeeded ∧
      state.sight settings call =
        ⟨some during.phase, (state.next settings call).phase⟩ := by
  constructor
  · unfold State.next
    rw [permitted]
    exact if_pos rfl
  · unfold State.sight
    rw [permitted]
    rfl

/-- A call that is rejected leaves the state as it is. -/
theorem State.sight_of_rejected
    {call : Call}
    (rejected : state.ask settings call.asked = (false, state)) :
    state.next settings call = state ∧
      state.sight settings call = ⟨none, state.phase⟩ := by
  have same : state.next settings call = state := by
    unfold State.next
    rw [rejected]
    exact if_neg Bool.false_ne_true
  refine ⟨same, ?_⟩
  unfold State.sight
  rw [rejected, same]
  rfl

/--
What is seen at a call is what the mode shows, and the mode after the call
tells of the state after it.
-/
theorem Tells.call (tells : Tells settings mode state) (call : Call) :
    state.sight settings call = mode.sight settings call ∧
      Tells settings (mode.next settings call) (state.next settings call) := by
  cases mode with
  | closed failures =>
      obtain ⟨phase, rfl⟩ := tells
      have permitted : state.ask settings call.asked = (true, state) := by
        simp [State.ask, phase]
      obtain ⟨next, sight⟩ := State.sight_of_permitted permitted
      have after :
          Tells settings (Mode.next settings call (.closed state.failures))
            (state.next settings call) :=
        next ▸ tells_attempt phase call
      refine ⟨?_, after⟩
      rw [sight, after.phase, phase]
      rfl
  | opened since =>
      obtain ⟨phase, opened⟩ := tells
      by_cases early : call.asked - since < settings.window.nanos
      · have rejected : state.ask settings call.asked = (false, state) := by
          simp [State.ask, State.windowPassed, phase, opened, early]
        obtain ⟨next, sight⟩ := State.sight_of_rejected rejected
        rw [sight, next, phase]
        simp [Mode.sight, Mode.made, Mode.next, Mode.phase, early, Tells,
          phase, opened]
      · have permitted :
            state.ask settings call.asked =
              (true,
                { state with
                  phase := .halfOpen
                  probing := 1
                  succeeded := 0 }) := by
          simp [State.ask, State.windowPassed, State.toHalfOpen, phase, opened,
            Nat.le_of_not_lt early]
        obtain ⟨next, sight⟩ := State.sight_of_permitted permitted
        have after :
            Tells settings (Mode.next settings call (.opened since))
              (state.next settings call) := by
          rw [next, Mode.next, if_neg early]
          exact @tells_probe settings
            { state with phase := .halfOpen, probing := 1, succeeded := 0 }
            rfl rfl call
        refine ⟨?_, after⟩
        rw [sight, after.phase]
        simp [Mode.sight, Mode.made, early]
  | halfOpen successes =>
      obtain ⟨phase, alone, rfl, room⟩ := tells
      have permitted :
          state.ask settings call.asked =
            (true, { state with probing := state.probing + 1 }) := by
        simp [State.ask, phase, alone, room]
      obtain ⟨next, sight⟩ := State.sight_of_permitted permitted
      have after :
          Tells settings (Mode.next settings call (.halfOpen state.succeeded))
            (state.next settings call) := by
        rw [next]
        exact @tells_probe settings { state with probing := state.probing + 1 }
          phase (congrArg (· + 1) alone) call
      refine ⟨?_, after⟩
      rw [sight, after.phase, phase]
      rfl

/-! ## A history of calls -/

theorem Tells.run (tells : Tells settings mode state) (history : List Call) :
    state.sights settings history = mode.sights settings history ∧
      Tells settings (mode.run settings history)
        (state.run settings history) := by
  induction history generalizing mode state with
  | nil => exact ⟨rfl, tells⟩
  | cons call history induction =>
      obtain ⟨sight, after⟩ := tells.call call
      obtain ⟨sights, last⟩ := induction after
      refine ⟨?_, last⟩
      rw [State.sights, Mode.sights, sight, sights]

/-- The call that handing an envelope to a transport makes at the breaker. -/
def offered
    {σ ν : Type} (transport : Transport σ) (topic : String)
    (envelope : Envelope) (world : World σ ν) : Call :=
  ⟨world.supply.tick.1, world.supply.tick.2.tick.1,
    (transport.deliver topic envelope world.transport).1.isOk⟩

/-- An envelope is handed over as a whole call of the breaker. -/
theorem deliverGuarded_eq
    {σ ν : Type} (settings : Settings) (transport : Transport σ)
    (topic : String) (envelope : Envelope) (world : World σ ν) :
    Publisher.deliverGuarded settings transport topic envelope world =
      let call := offered transport topic envelope world
      let breaker := world.breaker.next settings call
      match (world.breaker.sight settings call).made with
      | none =>
          (.error (.rejected settings.name),
            ⟨world.supply.tick.2, world.transport, world.vault, breaker⟩)
      | some _ =>
          ((transport.deliver topic envelope world.transport).1,
            ⟨world.supply.tick.2.tick.2,
              (transport.deliver topic envelope world.transport).2,
              world.vault, breaker⟩) := by
  unfold Publisher.deliverGuarded State.sight State.next offered
  cases permitted : (world.breaker.ask settings world.supply.tick.1).1 with
  | true => simp [permitted, Publisher.deliver]
  | false => simp [permitted]

/--
Calls that do not overlap are let pass as by the machine of three modes, and
the phases during and after each of them are its phases.  After any such calls
an envelope reaches the transport exactly if the machine lets a call pass, and
the breaker is then where one more call takes it.
-/
theorem sights_eq_reference (settings : Settings) (history : List Call) :
    State.initial.phase = (Mode.closed 0).phase ∧
    State.initial.sights settings history =
      (Mode.closed 0).sights settings history ∧
    ∀ {σ ν : Type} (transport : Transport σ) (topic : String)
      (envelope : Envelope) (outside : World σ ν),
      let world : World σ ν :=
        { outside with breaker := State.initial.run settings history }
      let call := offered transport topic envelope world
      let breaker := State.initial.run settings (history ++ [call])
      Publisher.deliverGuarded settings transport topic envelope world =
        match ((Mode.closed 0).run settings history).made settings
            call.asked with
        | none =>
            (.error (.rejected settings.name),
              ⟨world.supply.tick.2, world.transport, world.vault, breaker⟩)
        | some _ =>
            ((transport.deliver topic envelope world.transport).1,
              ⟨world.supply.tick.2.tick.2,
                (transport.deliver topic envelope world.transport).2,
                world.vault, breaker⟩) := by
  obtain ⟨sights, tells⟩ := (tells_initial settings).run history
  refine ⟨rfl, sights, ?_⟩
  intro σ ν transport topic envelope outside world call breaker
  have made :
      ((State.initial.run settings history).sight settings call).made =
        ((Mode.closed 0).run settings history).made settings call.asked :=
    congrArg Sight.made (tells.call call).1
  have longer :
      breaker = (State.initial.run settings history).next settings call := by
    simp [breaker, State.run]
  rw [deliverGuarded_eq, longer, ← made]

end EventRelay.Breaker
