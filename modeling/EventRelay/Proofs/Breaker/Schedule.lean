import EventRelay.Breaker
import Mathlib.Data.List.Induction

/-!
# Schedules of overlapping calls

A protected call is two moves at its breaker: it asks to pass, and if it was
admitted its outcome is recorded later.  A schedule is any list of such moves,
so calls may overlap, nest and finish in any order.  The ledger of a schedule
is the breaker's state together with what the breaker itself does not keep:
which admitted calls are in flight, in which half-open period each was
admitted, and which outcomes have been recorded in which period.

Periods are counted from one; period zero is the time before the breaker first
went half open.  A period lasts until the next one begins, so while the
breaker is half open exactly the calls and outcomes of the current period came
since it last went half open.
-/

namespace EventRelay.Breaker

/-- One move of a schedule. -/
inductive Move where
  /-- A new call asks to pass. -/
  | ask (now : Nat)
  /-- The outcome of the call with this number is recorded. -/
  | finish (call now : Nat) (succeeded : Bool)
  deriving DecidableEq

/-- A call that was admitted. -/
structure Ticket where
  /-- How many calls had asked before this one. -/
  call : Nat
  /-- The period in which the call was admitted. -/
  admittedIn : Nat
  deriving DecidableEq

/-- A recorded outcome of an admitted call. -/
structure Outcome where
  ticket : Ticket
  /-- The period in which the outcome was recorded. -/
  recordedIn : Nat
  succeeded : Bool
  deriving DecidableEq

/-- A breaker and the history of the calls it admitted. -/
structure Ledger where
  state : State
  /-- How many calls have asked. -/
  asked : Nat
  /-- How often the breaker has gone half open. -/
  period : Nat
  inFlight : List Ticket
  /-- The recorded outcomes, the latest first. -/
  outcomes : List Outcome
  deriving DecidableEq

namespace Ledger

/-- A new breaker that no call has asked. -/
def initial : Ledger :=
  ⟨.initial, 0, 0, [], []⟩

/-- The period after a change of state: going half open begins a new one. -/
def periodAfter (ledger : Ledger) (state : State) : Nat :=
  if ledger.state.phase ≠ .halfOpen ∧ state.phase = .halfOpen then
    ledger.period + 1
  else ledger.period

/-- A new call asks to pass; it is in flight if it is admitted. -/
def ask (setup : Setup) (now : Nat) (ledger : Ledger) : Ledger :=
  let (permitted, state) := ledger.state.ask setup now
  let period := ledger.periodAfter state
  { ledger with
    state := state
    asked := ledger.asked + 1
    period := period
    inFlight :=
      if permitted then
        ⟨ledger.asked, period⟩ :: ledger.inFlight
      else
        ledger.inFlight }

/-- The outcome of a call in flight is recorded. -/
def finish
    (setup : Setup) (ticket : Ticket) (now : Nat) (succeeded : Bool)
    (ledger : Ledger) :
    Ledger :=
  { ledger with
    state := ledger.state.record setup now succeeded
    inFlight := ledger.inFlight.erase ticket
    outcomes := ⟨ticket, ledger.period, succeeded⟩ :: ledger.outcomes }

/-- One move; an outcome of a call that is not in flight is no move at all. -/
def advance (setup : Setup) (ledger : Ledger) : Move → Ledger
  | .ask now => ledger.ask setup now
  | .finish call now succeeded =>
    match ledger.inFlight.find? fun ticket => ticket.call == call with
    | some ticket => ledger.finish setup ticket now succeeded
    | none => ledger

/-- The moves of a schedule, made one after the other on a new breaker. -/
def run (setup : Setup) (schedule : List Move) : Ledger :=
  schedule.foldl (advance setup) initial

/-- The calls that were let pass: those in flight and those with an outcome. -/
def admitted (ledger : Ledger) : List Ticket :=
  ledger.inFlight ++ ledger.outcomes.map Outcome.ticket

@[simp]
theorem state_ask (setup : Setup) (now : Nat) (ledger : Ledger) :
    (ledger.ask setup now).state = (ledger.state.ask setup now).2 := rfl

@[simp]
theorem period_ask (setup : Setup) (now : Nat) (ledger : Ledger) :
    (ledger.ask setup now).period =
      ledger.periodAfter (ledger.state.ask setup now).2 := rfl

@[simp]
theorem inFlight_ask (setup : Setup) (now : Nat) (ledger : Ledger) :
    (ledger.ask setup now).inFlight =
      if (ledger.state.ask setup now).1 then
        ⟨ledger.asked, ledger.periodAfter (ledger.state.ask setup now).2⟩ ::
          ledger.inFlight
      else ledger.inFlight := rfl

@[simp]
theorem outcomes_ask (setup : Setup) (now : Nat) (ledger : Ledger) :
    (ledger.ask setup now).outcomes = ledger.outcomes := rfl

@[simp]
theorem state_finish
    (setup : Setup) (ticket : Ticket) (now : Nat) (succeeded : Bool)
    (ledger : Ledger) :
    (ledger.finish setup ticket now succeeded).state =
      ledger.state.record setup now succeeded := rfl

@[simp]
theorem period_finish
    (setup : Setup) (ticket : Ticket) (now : Nat) (succeeded : Bool)
    (ledger : Ledger) :
    (ledger.finish setup ticket now succeeded).period = ledger.period := rfl

theorem admitted_ask (setup : Setup) (now : Nat) (ledger : Ledger) :
    (ledger.ask setup now).admitted =
      if (ledger.state.ask setup now).1 then
        ⟨ledger.asked, ledger.periodAfter (ledger.state.ask setup now).2⟩ ::
          ledger.admitted
      else ledger.admitted := by
  unfold admitted
  rw [inFlight_ask, outcomes_ask]
  split
  · rfl
  · rfl

/-- An outcome belongs to a call that was let pass before. -/
theorem admitted_finish
    (setup : Setup) {ticket : Ticket} {ledger : Ledger}
    (flying : ticket ∈ ledger.inFlight) (now : Nat) (succeeded : Bool) :
    (ledger.finish setup ticket now succeeded).admitted.Perm
      ledger.admitted := by
  have moved :
      (ledger.inFlight.erase ticket ++
          ticket :: ledger.outcomes.map Outcome.ticket).Perm
        (ticket :: ledger.inFlight.erase ticket ++
          ledger.outcomes.map Outcome.ticket) :=
    List.perm_middle
  exact moved.trans ((List.perm_cons_erase flying).symm.append_right _)

theorem period_le_periodAfter (ledger : Ledger) (state : State) :
    ledger.period ≤ ledger.periodAfter state := by
  unfold periodAfter
  split <;> omega

@[simp]
theorem run_append_singleton
    (setup : Setup) (schedule : List Move) (move : Move) :
    run setup (schedule ++ [move]) =
      (run setup schedule).advance setup move := by
  simp [run]

/--
What one move can do: a call asks, an outcome of a call in flight is recorded,
or nothing happens.
-/
theorem advance_cases (setup : Setup) (ledger : Ledger) (move : Move) :
    (∃ now,
      move = .ask now ∧
        ledger.advance setup move = ledger.ask setup now) ∨
    (∃ ticket now succeeded,
      ticket ∈ ledger.inFlight ∧ move = .finish ticket.call now succeeded ∧
        ledger.advance setup move =
          ledger.finish setup ticket now succeeded) ∨
    ledger.advance setup move = ledger := by
  cases move with
  | ask now => exact Or.inl ⟨now, rfl, rfl⟩
  | finish call now succeeded =>
      cases found : ledger.inFlight.find? fun ticket => ticket.call == call with
      | none =>
          refine Or.inr (Or.inr ?_)
          simp [advance, found]
      | some ticket =>
          have named : ticket.call = call := by
            simpa using List.find?_some found
          refine Or.inr (Or.inl ⟨ticket, now, succeeded,
            List.mem_of_find?_eq_some found, ?_, ?_⟩)
          · rw [named]
          · simp [advance, found]

/--
A property of the first ledger that every move preserves holds after every
schedule.
-/
theorem run_induction {setup : Setup} {holds : Ledger → Prop}
    (start : holds initial)
    (keep : ∀ ledger move, holds ledger → holds (ledger.advance setup move))
    (schedule : List Move) :
    holds (run setup schedule) := by
  induction schedule using List.reverseRecOn with
  | nil => exact start
  | append_singleton schedule move induction =>
      rw [run_append_singleton]
      exact keep _ move induction

end Ledger

end EventRelay.Breaker
