import EventRelay.Proofs.Breaker.Verdict
import EventRelay.Proofs.Breaker.Window

/-!
# A breaker never sticks

A half-open breaker hands out as many probe slots as its quota and takes none
back.  It does not get stuck all the same: while it is half open, the slots
taken are the calls let pass in the period, and every outcome recorded in the
period, late or not, is a success that counts.  If all slots are taken, one of
these calls is therefore still in flight, and its outcome will decide.
-/

namespace EventRelay.Breaker.Ledger

variable {settings : Settings}

/-! ## Slots and the calls that hold them -/

/-- The calls let pass since the breaker last went half open. -/
def probes (ledger : Ledger) : List Ticket :=
  ledger.admitted.filter fun ticket => ticket.admittedIn == ledger.period

/-- While the breaker is half open, each slot taken is held by a probe. -/
def SlotsHeld (ledger : Ledger) : Prop :=
  ledger.state.phase = .halfOpen → ledger.state.probing = ledger.probes.length

/-- A call is in flight that was let pass since the breaker went half open. -/
def AwaitsProbe (ledger : Ledger) : Prop :=
  ∃ ticket ∈ ledger.inFlight, ticket.admittedIn = ledger.period

/-- No call was let pass in a period to come. -/
theorem Chronological.admittedIn_le {ledger : Ledger}
    (chronological : ledger.Chronological) {ticket : Ticket}
    (member : ticket ∈ ledger.admitted) :
    ticket.admittedIn ≤ ledger.period := by
  rcases List.mem_append.mp member with flying | finished
  · exact chronological.admitted ticket flying
  · obtain ⟨outcome, recorded, rfl⟩ := List.mem_map.mp finished
    exact Nat.le_trans (chronological.ordered outcome recorded)
      (chronological.recorded outcome recorded)

theorem SlotsHeld.ask {ledger : Ledger} (held : ledger.SlotsHeld)
    (chronological : ledger.Chronological) (now : Nat) :
    (ledger.ask settings now).SlotsHeld := by
  intro phase
  have asked := ledger.state.asks settings now
  unfold probes
  rw [admitted_ask, period_ask]
  rw [state_ask] at phase ⊢
  cases answer : ledger.state.ask settings now with
  | mk permitted state =>
      rw [answer] at asked phase
      cases asked with
      | closed closed => simp [closed] at phase
      | window opened waiting => simp [opened] at phase
      | firstProbe opened passed =>
          -- The period is new, so only this call was let pass in it.
          have earlier :
              ∀ ticket ∈ ledger.admitted,
                ticket.admittedIn ≠ ledger.period + 1 := by
            intro ticket member
            have before := chronological.admittedIn_le member
            omega
          simpa [periodAfter, opened] using earlier
      | probe halfOpen free =>
          simp [periodAfter, halfOpen, held halfOpen, probes]
      | full halfOpen taken =>
          simp [periodAfter, halfOpen, held halfOpen, probes]

theorem SlotsHeld.finish {ledger : Ledger} (held : ledger.SlotsHeld)
    {ticket : Ticket} (flying : ticket ∈ ledger.inFlight) (now : Nat)
    (succeeded : Bool) :
    (ledger.finish settings ticket now succeeded).SlotsHeld := by
  intro phase
  have same :
      (ledger.finish settings ticket now succeeded).probes.length =
        ledger.probes.length :=
    ((admitted_finish settings flying now succeeded).filter _).length_eq
  rw [same, state_finish, State.probing_record]
  exact held (State.halfOpen_record phase).1

theorem slotsHeld_advance {ledger : Ledger} (move : Move)
    (settled : ledger.Settled settings) (held : ledger.SlotsHeld) :
    (ledger.advance settings move).SlotsHeld := by
  rcases ledger.advance_cases settings move with
    ⟨now, -, asked⟩ | ⟨ticket, now, succeeded, flying, -, finished⟩ | idle
  · rw [asked]
    exact held.ask settled.chronological now
  · rw [finished]
    exact held.finish flying now succeeded
  · rw [idle]
    exact held

theorem slotsHeld_run (settings : Settings) (schedule : List Move) :
    (run settings schedule).SlotsHeld := by
  induction schedule using List.reverseRecOn with
  | nil =>
      intro phase
      cases phase
  | append_singleton schedule move induction =>
      rw [run_append_singleton]
      exact slotsHeld_advance move (settled_run settings schedule) induction

/-! ## Who keeps a slot -/

/--
If no probe is in flight, all probes have outcomes, which were recorded in
their period.
-/
theorem length_probes_le {ledger : Ledger}
    (chronological : ledger.Chronological) (landed : ¬ledger.AwaitsProbe) :
    ledger.probes.length ≤ ledger.recorded.length := by
  have none :
      (ledger.inFlight.filter fun ticket =>
        ticket.admittedIn == ledger.period) = [] := by
    rw [List.filter_eq_nil_iff]
    intro ticket flying own
    exact landed ⟨ticket, flying, by simpa using own⟩
  have finished : ledger.probes.length = ledger.ofProbes.length := by
    unfold probes admitted ofProbes
    rw [List.filter_append, none, List.nil_append, List.filter_map,
      List.length_map]
    rfl
  rw [finished, chronological.ofProbes_eq]
  exact List.length_filter_le _ _

/-- A half-open breaker that rejects a call waits for one of its probes. -/
theorem awaitsProbe_of_rejected {schedule : List Move}
    (phase : (run settings schedule).state.phase = .halfOpen) {now : Nat}
    (rejected : ((run settings schedule).state.ask settings now).1 = false) :
    (run settings schedule).AwaitsProbe := by
  have settled := settled_run settings schedule
  have held := slotsHeld_run settings schedule phase
  have counting := settled.counting phase
  have full :
      settings.probes.count ≤ (run settings schedule).state.probing := by
    apply Nat.le_of_not_lt
    intro free
    simp [State.ask, phase, free] at rejected
  apply Classical.byContradiction
  intro landed
  -- Then each slot stands for a success, and enough of them had closed it.
  have counted := length_probes_le settled.chronological landed
  rw [← held, counting.counted] at counted
  exact absurd counting.below (Nat.not_lt.mpr (Nat.le_trans full counted))

/--
In every state that a schedule leads to, a call that arrives while the breaker
is half open is rejected only if a call is in flight that was let pass since
it last went half open.  So when no call is in flight, the next one is let
pass if the breaker is closed, half open, or open since a time from which on
the window has passed.
-/
theorem never_sticks
    (settings : Settings) (schedule : List Move) (now : Nat) :
    ((run settings schedule).state.phase = .halfOpen →
        ((run settings schedule).state.ask settings now).1 = false →
          (run settings schedule).AwaitsProbe) ∧
      ((run settings schedule).inFlight = [] →
        (run settings schedule).state.phase = .closed ∨
            (run settings schedule).state.phase = .halfOpen ∨
            (∃ time,
              OpenSince settings schedule time ∧
                time + settings.window.nanos ≤ now) →
          ((run settings schedule).state.ask settings now).1 = true) := by
  refine ⟨fun phase rejected => awaitsProbe_of_rejected phase rejected, ?_⟩
  rintro landed (closed | halfOpen | ⟨time, since, late⟩)
  · simp [State.ask, closed]
  · apply Classical.byContradiction
    intro rejected
    obtain ⟨ticket, flying, -⟩ :=
      awaitsProbe_of_rejected halfOpen (by simpa using rejected)
    rw [landed] at flying
    cases flying
  · obtain ⟨opened, openedAt⟩ := since.state
    rw [State.ask_after opened openedAt late]

/--
With one of two successes recorded and the second probe in flight, a half-open
breaker rejects a call and awaits that probe.  A breaker that one failure
opened, with no call in flight, lets the first call after its window pass.
-/
theorem never_sticks_second_probe :
    (run eager (overtaken ++ [.ask 0])).state.phase = .halfOpen ∧
      ((run eager (overtaken ++ [.ask 0])).state.ask eager 0).1 = false ∧
      (run eager (overtaken ++ [.ask 0])).AwaitsProbe ∧
      (run brief [.ask 0, .finish 0 3 false]).inFlight = [] ∧
      OpenSince brief [.ask 0, .finish 0 3 false] 3 ∧
      ((run brief [.ask 0, .finish 0 3 false]).state.ask brief 13).1 =
        true := by
  have phase : (run eager (overtaken ++ [.ask 0])).state.phase = .halfOpen := by
    decide
  have rejected :
      ((run eager (overtaken ++ [.ask 0])).state.ask eager 0).1 = false := by
    decide
  have landed : (run brief [.ask 0, .finish 0 3 false]).inFlight = [] := by
    decide
  have opens : (run brief [.ask 0]).Opens brief (.finish 0 3 false) :=
    ⟨by decide, by decide⟩
  have since : OpenSince brief [.ask 0, .finish 0 3 false] 3 := by
    refine ⟨[.ask 0], .finish 0 3 false, [], rfl, rfl, opens, ?_⟩
    intro earlier part
    obtain rfl := List.prefix_nil.mp part
    decide
  have late : 3 + brief.window.nanos ≤ 13 := by decide
  have awaits :=
    (never_sticks eager (overtaken ++ [Move.ask 0]) 0).1 phase rejected
  have passes :=
    (never_sticks brief [Move.ask 0, .finish 0 3 false] 13).2 landed
      (Or.inr (Or.inr ⟨3, since, late⟩))
  exact ⟨phase, rejected, awaits, landed, since, passes⟩

end EventRelay.Breaker.Ledger
