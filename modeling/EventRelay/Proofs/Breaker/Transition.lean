import EventRelay.Breaker

/-!
# The transitions of a breaker

The five ways in which asking can go and the seven ways in which recording can
go, each with its guard and the whole state afterwards.  Every proof about a
breaker goes through these cases and leaves the two functions closed.
-/

namespace EventRelay.Breaker.State

/--
How asking to pass can go: whether the call may be made, and the state
afterwards.
-/
inductive Asks (setup : Setup) (now : Nat) (state : State) :
    Bool × State → Prop where
  | closed (phase : state.phase = .closed) :
      Asks setup now state (true, state)
  | window (phase : state.phase = .opened)
    (waiting : state.windowPassed setup now = false) : Asks setup now
    state (false, state)
  | firstProbe (phase : state.phase = .opened)
    (passed : state.windowPassed setup now = true) : Asks setup now state
    (true, { state with phase := .halfOpen, probing := 1, succeeded := 0 })
  | probe (phase : state.phase = .halfOpen)
    (free : state.probing < setup.probes.toNat) : Asks setup now state
    (true, { state with probing := state.probing + 1 })
  | full (phase : state.phase = .halfOpen)
    (taken : setup.probes.toNat ≤ state.probing) : Asks setup now state
    (false, state)

theorem asks (setup : Setup) (now : Nat) (state : State) :
    Asks setup now state (state.ask setup now) := by
  unfold ask
  cases phase : state.phase with
  | closed => exact .closed phase
  | opened =>
      by_cases passed : state.windowPassed setup now = true
      · simpa [passed, toHalfOpen, phase] using Asks.firstProbe phase passed
      · simpa [passed] using Asks.window phase (by simpa using passed)
  | halfOpen =>
      by_cases free : state.probing < setup.probes.toNat
      · simpa [free, phase] using @Asks.probe setup now state phase free
      · simpa [free] using Asks.full phase (Nat.le_of_not_lt free)

/-- Asking does not end a half-open period. -/
theorem halfOpen_ask {state : State} (setup : Setup) (now : Nat)
    (phase : state.phase = .halfOpen) :
    (state.ask setup now).2.phase = .halfOpen := by
  have asked := state.asks setup now
  generalize state.ask setup now = answer at asked ⊢
  cases asked with
  | closed closed => exact phase
  | window opened waiting => exact phase
  | firstProbe opened passed => rfl
  | probe halfOpen free => exact phase
  | full halfOpen taken => exact phase

/-- A breaker that is open after a call has asked has rejected it. -/
theorem opened_ask {setup : Setup} {now : Nat} {state : State}
    (phase : (state.ask setup now).2.phase = .opened) :
    state.phase = .opened ∧ state.ask setup now = (false, state) := by
  have asked := state.asks setup now
  generalize state.ask setup now = answer at asked phase ⊢
  cases asked with
  | closed closed => simp [closed] at phase
  | window opened waiting => exact ⟨opened, rfl⟩
  | firstProbe opened passed => cases phase
  | probe halfOpen free => simp [halfOpen] at phase
  | full halfOpen taken => simp [halfOpen] at phase

/-- Before its window has passed an open breaker rejects every call. -/
theorem ask_before {setup : Setup} {now time : Nat} {state : State}
    (phase : state.phase = .opened) (since : state.openedAt = some time)
    (clock : time ≤ now) (early : now < time + setup.window.nanos) :
    state.ask setup now = (false, state) := by
  have waiting : state.windowPassed setup now = false := by
    simp only [windowPassed, since, decide_eq_false_iff_not]
    omega
  simp [ask, phase, waiting]

/-- Once its window has passed an open breaker lets a first probe pass. -/
theorem ask_after {setup : Setup} {now time : Nat} {state : State}
    (phase : state.phase = .opened) (since : state.openedAt = some time)
    (late : time + setup.window.nanos ≤ now) :
    state.ask setup now =
      (true,
        { state with phase := .halfOpen, probing := 1, succeeded := 0 }) := by
  have passed : state.windowPassed setup now = true := by
    simp only [windowPassed, since, decide_eq_true_eq]
    omega
  simp [ask, phase, passed, toHalfOpen]

/-- How recording an outcome can go. -/
inductive Records (setup : Setup) (now : Nat) (state : State) :
    Bool → State → Prop where
  | praised (phase : state.phase = .closed) :
      Records setup now state true { state with failures := 0 }
  | counted (phase : state.phase = .closed)
      (below : state.failures + 1 < setup.failureThreshold.toNat) :
      Records setup now state false
        { state with failures := state.failures + 1 }
  | tripped (phase : state.phase = .closed)
      (reached : setup.failureThreshold.toNat ≤ state.failures + 1) :
      Records setup now state false
        { state with
          phase := .opened
          failures := state.failures + 1
          openedAt := some now }
  | ignored (phase : state.phase = .opened) (succeeded : Bool) :
      Records setup now state succeeded state
  | approved (phase : state.phase = .halfOpen)
      (below : state.succeeded + 1 < setup.probes.toNat) :
      Records setup now state true
        { state with succeeded := state.succeeded + 1 }
  | recovered (phase : state.phase = .halfOpen)
      (reached : setup.probes.toNat ≤ state.succeeded + 1) :
      Records setup now state true
        { state with
          phase := .closed
          failures := 0
          openedAt := none
          succeeded := state.succeeded + 1 }
  | relapsed (phase : state.phase = .halfOpen) :
      Records setup now state false
        { state with phase := .opened, openedAt := some now }

theorem records
    (setup : Setup) (now : Nat) (succeeded : Bool) (state : State) :
    Records setup now state succeeded
      (state.record setup now succeeded) := by
  cases phase : state.phase with
  | closed =>
      cases succeeded with
      | true => simpa [record, recordSuccess, phase] using Records.praised phase
      | false =>
          by_cases reached :
              setup.failureThreshold.toNat ≤ state.failures + 1
          · simpa [record, recordFailure, phase, reached, toOpened] using
              Records.tripped phase reached
          · simpa [record, recordFailure, phase, reached] using
              Records.counted phase (Nat.lt_of_not_le reached)
  | opened =>
      cases succeeded <;>
        simpa [record, recordSuccess, recordFailure, phase] using
          Records.ignored phase _
  | halfOpen =>
      cases succeeded with
      | true =>
          by_cases reached : setup.probes.toNat ≤ state.succeeded + 1
          · simpa [record, recordSuccess, phase, reached, toClosed] using
              Records.recovered phase reached
          · simpa [record, recordSuccess, phase, reached] using
              Records.approved phase (Nat.lt_of_not_le reached)
      | false =>
          simpa [record, recordFailure, phase, toOpened]
              using Records.relapsed phase

/-- An outcome neither takes a probe slot nor gives one back. -/
@[simp]
theorem probing_record
    (setup : Setup) (now : Nat) (succeeded : Bool) (state : State) :
    (state.record setup now succeeded).probing = state.probing := by
  have recorded := state.records setup now succeeded
  generalize state.record setup now succeeded = after at recorded ⊢
  cases recorded <;> rfl

/--
A breaker is half open after an outcome only if it was before and counts a
success more.
-/
theorem halfOpen_record
    {setup : Setup} {now : Nat} {succeeded : Bool} {state : State}
    (phase : (state.record setup now succeeded).phase = .halfOpen) :
    state.phase = .halfOpen ∧ succeeded = true ∧
      state.succeeded + 1 < setup.probes.toNat ∧
      (state.record setup now succeeded).succeeded =
        state.succeeded + 1 := by
  have recorded := state.records setup now succeeded
  generalize state.record setup now succeeded = after at recorded phase ⊢
  cases recorded with
  | praised closed => simp [closed] at phase
  | counted closed below => simp [closed] at phase
  | tripped closed reached => cases phase
  | ignored opened => simp [opened] at phase
  | approved halfOpen below => exact ⟨halfOpen, rfl, below, rfl⟩
  | recovered halfOpen reached => cases phase
  | relapsed halfOpen => cases phase

/--
A breaker that is open after an outcome stood still, or the outcome was a
failure that opened it now.
-/
theorem opened_record
    {setup : Setup} {now : Nat} {succeeded : Bool} {state : State}
    (phase : (state.record setup now succeeded).phase = .opened) :
    (state.phase = .opened ∧
        state.record setup now succeeded = state) ∨
      (state.phase ≠ .opened ∧ succeeded = false ∧
        (state.record setup now succeeded).openedAt = some now) := by
  have recorded := state.records setup now succeeded
  generalize state.record setup now succeeded = after at recorded phase ⊢
  cases recorded with
  | praised closed => simp [closed] at phase
  | counted closed below => simp [closed] at phase
  | tripped closed reached => exact Or.inr ⟨by simp [closed], rfl, rfl⟩
  | ignored opened => exact Or.inl ⟨opened, rfl⟩
  | approved halfOpen below => simp [halfOpen] at phase
  | recovered halfOpen reached => cases phase
  | relapsed halfOpen => exact Or.inr ⟨by simp [halfOpen], rfl, rfl⟩

/--
An outcome ends a half-open period by filling the quota of successes or by
failing.
-/
theorem verdict_record
    {setup : Setup} {now : Nat} {succeeded : Bool} {state : State}
    (before : state.phase = .halfOpen)
    (after : (state.record setup now succeeded).phase ≠ .halfOpen) :
    (succeeded = true ∧ (state.record setup now succeeded).phase = .closed ∧
      setup.probes.toNat ≤ state.succeeded + 1) ∨
    (succeeded = false ∧ (state.record setup now succeeded).phase =
      .opened) := by
  have recorded := state.records setup now succeeded
  generalize state.record setup now succeeded = next at recorded after ⊢
  cases recorded with
  | praised closed => simp [closed] at before
  | counted closed below => simp [closed] at before
  | tripped closed reached => simp [closed] at before
  | ignored opened => simp [opened] at before
  | approved halfOpen below => exact absurd halfOpen after
  | recovered halfOpen reached => exact Or.inl ⟨rfl, rfl, reached⟩
  | relapsed halfOpen => exact Or.inr ⟨rfl, rfl⟩

end EventRelay.Breaker.State
