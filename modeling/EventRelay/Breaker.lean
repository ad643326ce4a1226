import EventRelay.Duration
import EventRelay.Quota
import EventRelay.Text.Quoted

/-!
# The circuit breaker

A breaker stands before a service that may fail.  While closed it lets calls
pass and counts failures in a row; enough of them open it.  While open it
rejects calls until its window has passed.  Then it is half open: a limited
number of probes may pass, as many successes close it, and one failure opens
it again.

A call is two steps, asking to pass and recording its outcome.  Other calls
may come between them, so an outcome can arrive in a later state than the one
that let its call pass.  Clock readings are arguments, in nanoseconds of a
clock that never goes back.
-/

namespace EventRelay.Breaker

/-- How a breaker is set up; the counts may be zero. -/
structure Setup where
  name : String
  /-- Failures in a row that open a closed breaker. -/
  failureThreshold : UInt32
  /-- How long an open breaker rejects calls. -/
  window : Duration
  /-- Probes that may pass while half open, and successes that close. -/
  probes : UInt32

/-- A setup whose counts are at least one. -/
structure Settings where
  name : String
  failureThreshold : Quota
  window : Duration
  probes : Quota

namespace Settings

/-- The standard breaker under the given name. -/
def named (name : String) : Settings :=
  ⟨name, .five, .ofMillis 30000, .one⟩

/-- The standard settings, under the name of the sender of events. -/
def standard : Settings := .named "event-sender"

/-- The same setup, without the promise that no count is zero. -/
@[coe, reducible]
def toSetup (settings : Settings) : Setup where
  name := settings.name
  failureThreshold := settings.failureThreshold.number
  window := settings.window
  probes := settings.probes.number

instance : Coe Settings Setup := ⟨toSetup⟩

end Settings

namespace Setup

/-- The setup that the standard settings give. -/
def standard : Setup := Settings.standard

/-- The settings nearest to a setup: a count of zero is taken as one. -/
def clamped (setup : Setup) : Settings :=
  ⟨setup.name, .clamp setup.failureThreshold, setup.window,
    .clamp setup.probes⟩

end Setup

/-- The phases of a breaker. -/
inductive Phase where
  | closed
  | opened
  | halfOpen
  deriving DecidableEq

/-- The name of a phase in descriptions. -/
def Phase.name : Phase → String
  | .closed => "closed"
  | .opened => "open"
  | .halfOpen => "half-open"

/--
The state of a breaker; counters of a phase keep their values outside it until
they are reset.
-/
structure State where
  phase : Phase
  /-- Failures in a row while closed. -/
  failures : Nat
  /-- When the breaker last opened. -/
  openedAt : Option Nat
  /-- Probes let pass while half open. -/
  probing : Nat
  /-- Probes that succeeded while half open. -/
  succeeded : Nat
  deriving DecidableEq

namespace State

/-- A new breaker is closed and has counted nothing. -/
def initial : State := ⟨.closed, 0, none, 0, 0⟩

/--
Goes into the open phase, where the window begins; it does not begin anew when
already open.
-/
def toOpened (now : Nat) (state : State) : State :=
  if state.phase = .opened then state
  else { state with phase := .opened, openedAt := some now }

/-- Goes into the half-open phase with its counters at zero. -/
def toHalfOpen (state : State) : State :=
  if state.phase = .halfOpen then state
  else { state with phase := .halfOpen, probing := 0, succeeded := 0 }

/-- Goes into the closed phase with no failures counted. -/
def toClosed (state : State) : State :=
  if state.phase = .closed then state
  else { state with phase := .closed, failures := 0, openedAt := none }

/-- Whether the window is over; it is for a breaker that has never opened. -/
def windowPassed (setup : Setup) (now : Nat) (state : State) : Bool :=
  match state.openedAt with
  | some openedAt => setup.window.nanos ≤ now - openedAt
  | none => true

/-- Asks to pass: whether the call may be made, and the state after asking. -/
def ask (setup : Setup) (now : Nat) (state : State) : Bool × State :=
  match state.phase with
  | .closed => (true, state)
  | .opened =>
    if state.windowPassed setup now then
      (true, { state.toHalfOpen with probing := 1 })
    else (false, state)
  | .halfOpen =>
    if state.probing < setup.probes.toNat then
      (true, { state with probing := state.probing + 1 })
    else (false, state)

/--
Records that a call succeeded.  A half-open breaker counts it, whichever phase
the call was let pass in; an open one ignores it.
-/
def recordSuccess (setup : Setup) (state : State) : State :=
  match state.phase with
  | .closed => { state with failures := 0 }
  | .opened => state
  | .halfOpen =>
    let counted := { state with succeeded := state.succeeded + 1 }
    if setup.probes.toNat ≤ counted.succeeded then
      counted.toClosed
    else
      counted

/--
Records that a call failed.  One failure opens a half-open breaker again; a
closed one opens when its failures in a row reach the threshold.
-/
def recordFailure (setup : Setup) (now : Nat) (state : State) : State :=
  match state.phase with
  | .closed =>
    let counted := { state with failures := state.failures + 1 }
    if setup.failureThreshold.toNat ≤ counted.failures then
      counted.toOpened now
    else
      counted
  | .opened => state
  | .halfOpen => state.toOpened now

/-- Records the outcome of a call. -/
def record
    (setup : Setup) (now : Nat) (succeeded : Bool) (state : State) :
    State :=
  if succeeded then
    state.recordSuccess setup
  else
    state.recordFailure setup now

end State

/-- The message for a call that was rejected. -/
def rejection (name : String) : String :=
  "circuit breaker '" ++ name ++ "' is open; call not permitted"

/-- A breaker, or none, as part of a description. -/
def describe : Option Setup → String
  | none => "None"
  | some setup => "Enabled(" ++ Text.quoted setup.name ++ ")"

end EventRelay.Breaker
