import EventRelay.Proofs.Breaker.Schedule
import EventRelay.Proofs.Breaker.Transition
import EventRelay.Publisher

/-!
# The window of an open breaker

A breaker that opens rejects every call until its window has passed, counted
from the move that opened it.  Outcomes of calls that are still in flight
arrive in the meantime and change nothing: they neither end the window nor
prolong it nor begin it anew.  The first call after the window is let pass as
the first probe of a new half-open period.

The window rests on a clock that never goes back, since only the state at the
opening remembers when it was.
-/

namespace EventRelay.Breaker

/-- What the clock shows at a move. -/
def Move.now : Move → Nat
  | .ask now => now
  | .finish _ now _ => now

/-- The clock never goes back during a schedule. -/
def Forward (schedule : List Move) : Prop :=
  schedule.Pairwise fun earlier later => earlier.now ≤ later.now

instance (schedule : List Move) : Decidable (Forward schedule) :=
  inferInstanceAs (Decidable (List.Pairwise _ _))

namespace Ledger

variable {setup : Setup}

/-! ## Opening -/

/-- A move opens the breaker. -/
structure Opens (setup : Setup) (ledger : Ledger) (opening : Move) :
    Prop where
  before : ledger.state.phase ≠ .opened
  after : (ledger.advance setup opening).state.phase = .opened

/--
A breaker that is open after a move stood still, or it was opened when the
clock showed what it showed at the move.
-/
theorem opened_advance {ledger : Ledger} {move : Move}
    (after : (ledger.advance setup move).state.phase = .opened) :
    (ledger.state.phase = .opened ∧
        (ledger.advance setup move).state = ledger.state) ∨
      (ledger.state.phase ≠ .opened ∧
        (ledger.advance setup move).state.openedAt = some move.now) := by
  rcases ledger.advance_cases setup move with
    ⟨now, -, asked⟩ | ⟨ticket, now, succeeded, -, rfl, finished⟩ | idle
  · rw [asked, state_ask] at after ⊢
    obtain ⟨opened, rejected⟩ := State.opened_ask after
    exact Or.inl ⟨opened, by rw [rejected]⟩
  · rw [finished, state_finish] at after ⊢
    rcases State.opened_record after with same | ⟨fresh, -, since⟩
    · exact Or.inl same
    · exact Or.inr ⟨fresh, since⟩
  · rw [idle] at after ⊢
    exact Or.inl ⟨after, rfl⟩

theorem Opens.openedAt {ledger : Ledger} {opening : Move}
    (opens : ledger.Opens setup opening) :
    (ledger.advance setup opening).state.openedAt = some opening.now := by
  rcases opened_advance opens.after with ⟨opened, -⟩ | ⟨-, since⟩
  · exact absurd opened opens.before
  · exact since

/--
The breaker has been open since the clock showed a time: a move opened it
then, and at every point from there on it was open.
-/
def OpenSince (setup : Setup) (schedule : List Move) (time : Nat) :
    Prop :=
  ∃ before opening during,
    schedule = before ++ opening :: during ∧ opening.now = time ∧
      (run setup before).Opens setup opening ∧
      ∀ earlier, earlier <+: during →
        (run setup (before ++ opening :: earlier)).state.phase = .opened

/-- A breaker that is open has been so since a move that opened it. -/
theorem exists_openSince (schedule : List Move)
    (opened : (run setup schedule).state.phase = .opened) :
    ∃ time, OpenSince setup schedule time := by
  induction schedule using List.reverseRecOn with
  | nil => cases opened
  | append_singleton schedule move induction =>
      have after := opened
      rw [run_append_singleton] at after
      by_cases already : (run setup schedule).state.phase = .opened
      · obtain ⟨time, before, opening, during, rfl, here, opens, lasting⟩ :=
          induction already
        refine ⟨time, before, opening, during ++ [move], by simp, here, opens,
          ?_⟩
        intro earlier part
        rcases List.prefix_concat_iff.mp part with rfl | inner
        · simpa using opened
        · exact lasting earlier inner
      · refine ⟨move.now, schedule, move, [], rfl, rfl, ⟨already, after⟩, ?_⟩
        intro earlier part
        obtain rfl := List.prefix_nil.mp part
        exact opened

/-- The state of an open breaker tells since when it has been open. -/
theorem OpenSince.state {schedule : List Move} {time : Nat}
    (since : OpenSince setup schedule time) :
    (run setup schedule).state.phase = .opened ∧
      (run setup schedule).state.openedAt = some time := by
  obtain ⟨before, opening, during, rfl, rfl, opens, lasting⟩ := since
  refine ⟨lasting during List.prefix_rfl, ?_⟩
  induction during using List.reverseRecOn with
  | nil =>
      rw [run_append_singleton]
      exact opens.openedAt
  | append_singleton during move induction =>
      have regroup :
          before ++ opening :: (during ++ [move]) =
            (before ++ opening :: during) ++ [move] := by simp
      have opened := lasting (during ++ [move]) List.prefix_rfl
      rw [regroup, run_append_singleton] at opened ⊢
      have earlier := lasting during (List.prefix_append during [move])
      rcases opened_advance opened with ⟨-, still⟩ | ⟨fresh, -⟩
      · rw [still]
        exact induction fun part inner =>
          lasting part (inner.trans (List.prefix_append during [move]))
      · exact absurd earlier fresh

/-! ## Until the window has passed -/

/-- While it is open, an outcome leaves the breaker as it is. -/
theorem state_finish_opened {ledger : Ledger}
    (opened : ledger.state.phase = .opened) (ticket : Ticket) (now : Nat)
    (succeeded : Bool) :
    (ledger.finish setup ticket now succeeded).state = ledger.state := by
  cases succeeded <;>
    simp [State.record, State.recordSuccess, State.recordFailure, opened]

/--
What a point of a schedule has in common with the point where the breaker
opened, as long as no call has asked after the window.
-/
structure Standstill (opened ledger : Ledger) : Prop where
  state : ledger.state = opened.state
  period : ledger.period = opened.period
  /-- No call has been let pass since. -/
  admitted : ledger.admitted.Perm opened.admitted

/-- A rejected call changes neither the state nor who has been let pass. -/
theorem Standstill.ask {opened ledger : Ledger}
    (standstill : Standstill opened ledger) {now : Nat}
    (rejected : ledger.state.ask setup now = (false, ledger.state)) :
    Standstill opened (ledger.ask setup now) := by
  constructor
  · rw [state_ask, rejected]
    exact standstill.state
  · rw [period_ask, rejected]
    have same : ledger.periodAfter ledger.state = ledger.period := by
      simp [periodAfter]
    rw [same]
    exact standstill.period
  · rw [admitted_ask, rejected]
    exact standstill.admitted

/-- An outcome changes neither the state nor who has been let pass. -/
theorem Standstill.finish {opened ledger : Ledger}
    (standstill : Standstill opened ledger)
    (phase : opened.state.phase = .opened) {ticket : Ticket}
    (flying : ticket ∈ ledger.inFlight) (now : Nat) (succeeded : Bool) :
    Standstill opened (ledger.finish setup ticket now succeeded) := by
  constructor
  · rw [state_finish_opened (standstill.state ▸ phase)]
    exact standstill.state
  · exact standstill.period
  · exact (admitted_finish setup flying now succeeded).trans
      standstill.admitted

theorem standstill_run {before during : List Move} {opening : Move}
    (opens : (run setup before).Opens setup opening)
    (forward : Forward (before ++ opening :: during))
    (early :
      ∀ now, .ask now ∈ during →
        now < opening.now + setup.window.nanos) :
    Standstill (run setup (before ++ [opening]))
      (run setup (before ++ opening :: during)) := by
  have phase : (run setup (before ++ [opening])).state.phase = .opened := by
    rw [run_append_singleton]
    exact opens.after
  have since :
      (run setup (before ++ [opening])).state.openedAt =
        some opening.now := by
    rw [run_append_singleton]
    exact opens.openedAt
  induction during using List.reverseRecOn with
  | nil => exact ⟨rfl, rfl, List.Perm.refl _⟩
  | append_singleton during move induction =>
      have regroup :
          before ++ opening :: (during ++ [move]) =
            (before ++ opening :: during) ++ [move] := by simp
      rw [regroup] at forward ⊢
      obtain ⟨forwardBefore, -, ordered⟩ := List.pairwise_append.mp forward
      have standstill :=
        induction forwardBefore fun now member =>
          early now (List.mem_append_left _ member)
      rw [run_append_singleton setup (before ++ opening :: during)]
      rcases Ledger.advance_cases setup
          (run setup (before ++ opening :: during)) move with
        ⟨now, rfl, asked⟩ | ⟨ticket, now, succeeded, flying, -, finished⟩ | idle
      · rw [asked]
        have clock : opening.now ≤ now :=
          ordered opening (by simp) (.ask now) List.mem_cons_self
        apply standstill.ask
        rw [standstill.state]
        exact State.ask_before phase since clock
          (early now (by simp))
      · rw [finished]
        exact standstill.finish phase flying now succeeded
      · rw [idle]
        exact standstill

/-! ## What the window keeps away -/

/-- A call that the breaker rejects does not reach the transport. -/
theorem deliverGuarded_rejected
    {σ ν : Type} {world : World σ ν}
    (rejected :
      world.breaker.ask setup world.supply.tick.1 = (false, world.breaker))
    (transport : Transport σ) (topic : String) (envelope : Envelope) :
    Publisher.deliverGuarded setup transport topic envelope world =
      (.error (.rejected setup.name),
        { world with supply := world.supply.tick.2 }) := by
  unfold Publisher.deliverGuarded
  simp [rejected]

/--
A point of a schedule at which the window of a breaker that opened at a time
is respected, compared with the point where it opened.
-/
structure Respects
    (setup : Setup) (opened ledger : Ledger) (time : Nat) : Prop where
  /-- Nothing has ended, prolonged or restarted the window. -/
  standstill : Standstill opened ledger
  since : ledger.state.phase = .opened ∧ ledger.state.openedAt = some time
  /-- Until the window has passed a call is rejected … -/
  rejects :
      ∀ now, time ≤ now → now < time + setup.window.nanos →
        ledger.state.ask setup now = (false, ledger.state)
  /-- … and nothing is handed to the transport. -/
  guards :
      ∀ {σ ν : Type} (transport : Transport σ) (topic : String)
        (envelope : Envelope) (world : World σ ν),
        world.breaker = ledger.state → time ≤ world.supply.tick.1 →
          world.supply.tick.1 < time + setup.window.nanos →
          Publisher.deliverGuarded setup transport topic envelope world =
            (.error (.rejected setup.name),
              { world with supply := world.supply.tick.2 })
  /-- The first call after the window begins a half-open period. -/
  probes :
      ∀ now, time + setup.window.nanos ≤ now →
        (ledger.state.ask setup now).1 = true ∧
          ledger.ask setup now =
            { ledger with
              state :=
                { ledger.state with
                  phase := .halfOpen
                  probing := 1
                  succeeded := 0 }
              asked := ledger.asked + 1
              period := ledger.period + 1
              inFlight :=
                ⟨ledger.asked, ledger.period + 1⟩ :: ledger.inFlight }

/--
After a breaker has opened, its window is respected at every point up to the
first call after it, whatever outcomes arrive.
-/
theorem window_respected
    (setup : Setup) (before : List Move) (opening : Move)
    (during : List Move) (opens : (run setup before).Opens setup opening)
    (forward : Forward (before ++ opening :: during))
    (early :
      ∀ now, .ask now ∈ during →
        now < opening.now + setup.window.nanos) :
    Respects setup (run setup (before ++ [opening]))
      (run setup (before ++ opening :: during)) opening.now := by
  have standstill := standstill_run opens forward early
  have phase :
      (run setup (before ++ opening :: during)).state.phase = .opened := by
    rw [standstill.state, run_append_singleton]
    exact opens.after
  have since :
      (run setup (before ++ opening :: during)).state.openedAt =
        some opening.now := by
    rw [standstill.state, run_append_singleton]
    exact opens.openedAt
  generalize run setup (before ++ opening :: during) = ledger
    at standstill phase since ⊢
  refine ⟨standstill, ⟨phase, since⟩, ?_, ?_, ?_⟩
  · intro now clock early
    exact State.ask_before phase since clock early
  · intro σ ν transport topic envelope world same clock early
    apply deliverGuarded_rejected
    rw [same]
    exact State.ask_before phase since clock early
  · intro now late
    have passed := State.ask_after phase since late
    refine ⟨by rw [passed], ?_⟩
    unfold ask periodAfter
    simp [passed, phase]

/-- A breaker that one failure opens for ten nanoseconds. -/
def brief : Settings :=
  ⟨"event-sender", .one, ⟨10⟩, .one⟩

/--
Two calls are in flight when one fails; the other succeeds while the breaker
is open, and a third asks in vain.
-/
theorem window_respected_late_success :
    (run brief [.ask 0, .ask 1]).Opens brief (.finish 0 2 false) ∧
      Forward
        ([.ask 0, .ask 1] ++
          .finish 0 2 false :: [.finish 1 5 true, .ask 11]) ∧
      (∀ now, .ask now ∈ [.finish 1 5 true, Move.ask 11] →
        now < (Move.finish 0 2 false).now + brief.window.nanos) ∧
      Respects brief (run brief ([.ask 0, .ask 1] ++ [.finish 0 2 false]))
        (run brief
          ([.ask 0, .ask 1] ++
            .finish 0 2 false :: [.finish 1 5 true, .ask 11])) 2 := by
  have opens : (run brief [.ask 0, .ask 1]).Opens brief (.finish 0 2 false) :=
    ⟨by decide, by decide⟩
  have forward :
      Forward
        ([.ask 0, .ask 1] ++
          .finish 0 2 false :: [.finish 1 5 true, .ask 11]) := by decide
  have early :
      ∀ now, .ask now ∈ [.finish 1 5 true, Move.ask 11] →
        now < (Move.finish 0 2 false).now + brief.window.nanos := by
    intro now asks
    have last : now = 11 := by simpa using asks
    rw [last]
    decide
  exact ⟨opens, forward, early,
    window_respected brief [.ask 0, .ask 1] (.finish 0 2 false)
      [.finish 1 5 true, .ask 11] opens forward early⟩

end Ledger

end EventRelay.Breaker
