import EventRelay.Proofs.Breaker.Schedule
import EventRelay.Proofs.Breaker.Transition

/-!
# Who decides a half-open period

A half-open period ends with a verdict: the breaker closes after enough
successes or opens again after a failure.  The breaker counts outcomes by the
state in which they arrive and does not ask who reports them, so the late
outcome of a call that was admitted earlier counts like that of a probe.

The verdict always rests on outcomes recorded within the period: as many
successes as the quota of probes and no failure, or a failure.  It belongs to
the probes of the period exactly when the outcomes it rests on are theirs.
-/

namespace EventRelay.Breaker

namespace Ledger

/-! ## Verdicts -/

/-- The outcomes recorded since the breaker last went half open. -/
def recorded (ledger : Ledger) : List Outcome :=
  ledger.outcomes.filter fun outcome => outcome.recordedIn == ledger.period

/-- The outcomes of the calls admitted since the breaker last went half open. -/
def ofProbes (ledger : Ledger) : List Outcome :=
  ledger.outcomes.filter fun outcome =>
    outcome.ticket.admittedIn == ledger.period

/--
The verdict that ended a half-open period is that of its probes: enough of
them succeeded, or one of them failed, and the outcome that decided is theirs.
-/
structure VerdictOfProbes (settings : Settings) (ledger : Ledger) : Prop where
  closing : ledger.state.phase = .closed →
    settings.probes.count ≤ ledger.ofProbes.countP Outcome.succeeded
  opening : ledger.state.phase = .opened →
    ∃ outcome ∈ ledger.ofProbes, outcome.succeeded = false
  deciding :
      ∀ outcome ∈ ledger.outcomes.head?,
        outcome.ticket.admittedIn = ledger.period

/--
An outcome that the verdict of a half-open period rests on: of its kind and in
its period.
-/
def RestsOn (ledger : Ledger) (outcome : Outcome) : Prop :=
  outcome ∈ ledger.recorded ∧
    (outcome.succeeded = true ↔ ledger.state.phase = .closed)

/-! ## What the breaker counts while half open -/

/--
No move looks ahead: nothing is recorded in a period to come, and no call is
recorded before the period in which it was admitted.
-/
structure Chronological (ledger : Ledger) : Prop where
  admitted : ∀ ticket ∈ ledger.inFlight, ticket.admittedIn ≤ ledger.period
  recorded : ∀ outcome ∈ ledger.outcomes, outcome.recordedIn ≤ ledger.period
  ordered :
      ∀ outcome ∈ ledger.outcomes,
        outcome.ticket.admittedIn ≤ outcome.recordedIn

theorem chronological_initial : initial.Chronological :=
  ⟨by simp [initial], by simp [initial], by simp [initial]⟩

theorem Chronological.ask
    {ledger : Ledger} (chronological : ledger.Chronological)
    (settings : Settings) (now : Nat) :
    (ledger.ask settings now).Chronological := by
  have later := ledger.period_le_periodAfter (ledger.state.ask settings now).2
  refine ⟨?_, ?_, chronological.ordered⟩
  · intro ticket member
    rw [inFlight_ask] at member
    rw [period_ask]
    split at member
    · rcases List.mem_cons.mp member with rfl | member
      · exact Nat.le_refl _
      · exact Nat.le_trans (chronological.admitted ticket member) later
    · exact Nat.le_trans (chronological.admitted ticket member) later
  · intro outcome member
    exact Nat.le_trans (chronological.recorded outcome member) later

theorem Chronological.finish
    {ledger : Ledger} (chronological : ledger.Chronological)
    (settings : Settings) {ticket : Ticket}
    (flying : ticket ∈ ledger.inFlight) (now : Nat) (succeeded : Bool) :
    (ledger.finish settings ticket now succeeded).Chronological := by
  constructor
  · intro other member
    exact chronological.admitted other (List.mem_of_mem_erase member)
  · intro outcome member
    rcases List.mem_cons.mp member with rfl | member
    · exact Nat.le_refl _
    · exact chronological.recorded outcome member
  · intro outcome member
    rcases List.mem_cons.mp member with rfl | member
    · exact chronological.admitted ticket flying
    · exact chronological.ordered outcome member

/--
While half open, the breaker counts the outcomes recorded in the period, all
successes.
-/
structure Counting (settings : Settings) (ledger : Ledger) : Prop where
  below : ledger.state.succeeded < settings.probes.count
  counted : ledger.recorded.length = ledger.state.succeeded
  successes : ∀ outcome ∈ ledger.recorded, outcome.succeeded = true

@[simp]
theorem recorded_finish
    (settings : Settings) (ticket : Ticket) (now : Nat) (succeeded : Bool)
    (ledger : Ledger) :
    (ledger.finish settings ticket now succeeded).recorded =
      ⟨ticket, ledger.period, succeeded⟩ :: ledger.recorded := by
  simp [recorded, finish]

/--
After a call has asked, a half-open breaker is in the period it was in, or in
a new one that has no outcomes yet.
-/
theorem halfOpen_ask {settings : Settings} {ledger : Ledger}
    (chronological : ledger.Chronological) {now : Nat}
    (phase : (ledger.ask settings now).state.phase = .halfOpen) :
    (ledger.state.phase = .halfOpen ∧
        (ledger.ask settings now).state.succeeded = ledger.state.succeeded ∧
          (ledger.ask settings now).recorded = ledger.recorded) ∨
      ((ledger.ask settings now).state.succeeded = 0 ∧
        (ledger.ask settings now).recorded = []) := by
  have asked := ledger.state.asks settings now
  rw [state_ask] at phase ⊢
  unfold recorded
  rw [outcomes_ask, period_ask]
  cases answer : ledger.state.ask settings now with
  | mk permitted state =>
      rw [answer] at asked phase
      cases asked with
      | closed closed => simp [closed] at phase
      | window opened waiting => simp [opened] at phase
      | firstProbe opened passed =>
          refine Or.inr ⟨rfl, ?_⟩
          rw [List.filter_eq_nil_iff]
          intro outcome member
          have earlier := chronological.recorded outcome member
          simp only [periodAfter, opened, beq_iff_eq]
          simp only [ne_eq, reduceCtorEq, not_false_eq_true, and_self,
            ↓reduceIte]
          omega
      | probe halfOpen free =>
          exact Or.inl ⟨halfOpen, rfl, by simp [periodAfter, halfOpen]⟩
      | full halfOpen taken =>
          exact Or.inl ⟨halfOpen, rfl, by simp [periodAfter, halfOpen]⟩

theorem Counting.ask
    {settings : Settings} {ledger : Ledger}
    (chronological : ledger.Chronological)
    (counting : ledger.state.phase = .halfOpen → ledger.Counting settings)
    {now : Nat} (phase : (ledger.ask settings now).state.phase = .halfOpen) :
    (ledger.ask settings now).Counting settings := by
  rcases halfOpen_ask chronological phase
      with ⟨halfOpen, succeeded, recorded⟩ | ⟨succeeded, recorded⟩
  · have before := counting halfOpen
    constructor
    · rw [succeeded]
      exact before.below
    · rw [succeeded, recorded]
      exact before.counted
    · rw [recorded]
      exact before.successes
  · constructor
    · rw [succeeded]
      exact settings.probes.positive
    · rw [succeeded, recorded]
      rfl
    · simp [recorded]

theorem Counting.finish
    {settings : Settings} {ledger : Ledger}
    (counting : ledger.state.phase = .halfOpen → ledger.Counting settings)
    {ticket : Ticket} {now : Nat} {succeeded : Bool}
    (phase :
      (ledger.finish settings ticket now succeeded).state.phase = .halfOpen) :
    (ledger.finish settings ticket now succeeded).Counting settings := by
  obtain ⟨halfOpen, rfl, below, count⟩ := State.halfOpen_record phase
  have before := counting halfOpen
  constructor
  · rw [state_finish, count]
    exact below
  · rw [recorded_finish, List.length_cons, before.counted]
    exact count.symm
  · intro outcome member
    rw [recorded_finish] at member
    rcases List.mem_cons.mp member with rfl | member
    · rfl
    · exact before.successes outcome member

/-- What holds of every ledger that a schedule leads to. -/
structure Settled (settings : Settings) (ledger : Ledger) : Prop where
  chronological : ledger.Chronological
  counting : ledger.state.phase = .halfOpen → ledger.Counting settings

theorem settled_advance {settings : Settings} (ledger : Ledger) (move : Move)
    (settled : ledger.Settled settings) :
    (ledger.advance settings move).Settled settings := by
  rcases ledger.advance_cases settings move with
    ⟨now, -, asked⟩ | ⟨ticket, now, succeeded, flying, -, finished⟩ | idle
  · rw [asked]
    exact ⟨settled.chronological.ask settings now,
      Counting.ask settled.chronological settled.counting⟩
  · rw [finished]
    exact ⟨settled.chronological.finish settings flying now succeeded,
      Counting.finish settled.counting⟩
  · rw [idle]
    exact settled

theorem settled_run (settings : Settings) (schedule : List Move) :
    (run settings schedule).Settled settings := by
  refine run_induction ?_ settled_advance schedule
  refine ⟨chronological_initial, ?_⟩
  intro phase
  cases phase

/-! ## Verdicts and the outcomes they rest on -/

/-- Only a recorded outcome ends a half-open period. -/
theorem finish_of_verdict
    {settings : Settings} {ledger : Ledger} {move : Move}
    (before : ledger.state.phase = .halfOpen)
    (after : (ledger.advance settings move).state.phase ≠ .halfOpen) :
    ∃ ticket now succeeded,
      ticket ∈ ledger.inFlight ∧
        ledger.advance settings move =
          ledger.finish settings ticket now succeeded := by
  rcases ledger.advance_cases settings move with
    ⟨now, -, asked⟩ | ⟨ticket, now, succeeded, flying, -, finished⟩ | idle
  · rw [asked, state_ask, State.halfOpen_ask settings now before] at after
    exact absurd rfl after
  · exact ⟨ticket, now, succeeded, flying, finished⟩
  · rw [idle] at after
    exact absurd before after

/-- The outcomes of the probes are recorded in their period. -/
theorem Chronological.ofProbes_eq
    {ledger : Ledger} (chronological : ledger.Chronological) :
    ledger.ofProbes =
      ledger.recorded.filter fun outcome =>
        outcome.ticket.admittedIn == ledger.period := by
  rw [ofProbes, Ledger.recorded, List.filter_filter]
  refine List.filter_congr ?_
  intro outcome member
  have ordered := chronological.ordered outcome member
  have recorded := chronological.recorded outcome member
  by_cases admitted : outcome.ticket.admittedIn = ledger.period
  · have same : outcome.recordedIn = ledger.period := by omega
    simp [admitted, same]
  · simp [admitted]

/--
What every verdict rests on, whoever reported it: a latest outcome of its kind
after successes only, and for closing as many of them as there are probes.
-/
structure Verdict (settings : Settings) (ledger : Ledger) : Prop where
  ended : ledger.state.phase = .closed ∨ ledger.state.phase = .opened
  latest : ∃ outcome ∈ ledger.outcomes.head?, ledger.RestsOn outcome
  earlier : ∀ outcome ∈ ledger.recorded.tail, outcome.succeeded = true
  closing :
      ledger.state.phase = .closed →
        ledger.recorded.length = settings.probes.count

theorem verdict_advance
    {settings : Settings} {ledger : Ledger} {move : Move}
    (settled : ledger.Settled settings)
    (before : ledger.state.phase = .halfOpen)
    (after : (ledger.advance settings move).state.phase ≠ .halfOpen) :
    (ledger.advance settings move).Verdict settings := by
  have counting := settled.counting before
  obtain ⟨ticket, now, succeeded, flying, finished⟩ :=
    finish_of_verdict before after
  rw [finished] at after ⊢
  have verdict := State.verdict_record before after
  constructor
  · rcases verdict with ⟨-, closed, -⟩ | ⟨-, opened⟩
    · exact Or.inl closed
    · exact Or.inr opened
  · refine ⟨⟨ticket, ledger.period, succeeded⟩, rfl, ?_, ?_⟩
    · rw [recorded_finish]
      exact List.mem_cons_self
    · rw [state_finish]
      rcases verdict with ⟨success, closed, -⟩ | ⟨failure, opened⟩
      · rw [closed]
        simp [success]
      · rw [opened]
        simp [failure]
  · rw [recorded_finish]
    exact counting.successes
  · intro closed
    rw [recorded_finish, List.length_cons, counting.counted]
    rcases verdict with ⟨-, -, reached⟩ | ⟨-, opened⟩
    · exact Nat.le_antisymm counting.below reached
    · rw [state_finish, opened] at closed
      cases closed

/--
After a verdict the outcomes recorded in its period are the latest one and
successes before it.
-/
theorem Verdict.recorded_eq {settings : Settings} {ledger : Ledger}
    (verdict : ledger.Verdict settings) :
    ∃ latest, ledger.outcomes.head? = some latest ∧ ledger.RestsOn latest ∧
      ledger.recorded = latest :: ledger.recorded.tail := by
  obtain ⟨latest, head, rests⟩ := verdict.latest
  refine ⟨latest, head, rests, ?_⟩
  obtain ⟨outcomes, shape⟩ := List.head?_eq_some_iff.mp head
  have inPeriod : latest.recordedIn = ledger.period := by
    simpa [recorded, shape] using (List.mem_filter.mp rests.1).2
  simp [recorded, shape, inPeriod]

/--
Closing is the verdict of the probes when all the successes counted are
theirs.
-/
theorem closing_iff
    {settings : Settings} {ledger : Ledger}
    (chronological : ledger.Chronological) (verdict : ledger.Verdict settings)
    (closed : ledger.state.phase = .closed) :
    ledger.VerdictOfProbes settings ↔
      ∀ outcome,
        ledger.RestsOn outcome → outcome.ticket.admittedIn = ledger.period := by
  obtain ⟨latest, head, rests, recorded⟩ := verdict.recorded_eq
  have successes : ∀ outcome ∈ ledger.recorded, outcome.succeeded = true := by
    intro outcome member
    rw [recorded] at member
    rcases List.mem_cons.mp member with rfl | member
    · exact rests.2.mpr closed
    · exact verdict.earlier outcome member
  have allCounted :
      ledger.ofProbes.countP Outcome.succeeded = ledger.ofProbes.length := by
    rw [List.countP_eq_length, chronological.ofProbes_eq]
    intro outcome member
    exact successes outcome (List.mem_filter.mp member).1
  constructor
  · intro ofProbes outcome restsOn
    have enough := ofProbes.closing closed
    rw [allCounted, ← verdict.closing closed, chronological.ofProbes_eq]
      at enough
    have all :=
      List.length_filter_eq_length_iff.mp
        (Nat.le_antisymm (List.length_filter_le _ _) enough)
    simpa using all outcome restsOn.1
  · intro theirs
    have all :
        ∀ outcome ∈ ledger.recorded,
          outcome.ticket.admittedIn = ledger.period := by
      intro outcome member
      exact theirs outcome ⟨member, by simp [closed, successes outcome member]⟩
    constructor
    · intro _
      apply Nat.le_of_eq
      rw [allCounted, ← verdict.closing closed, chronological.ofProbes_eq,
        List.filter_eq_self.mpr (by simpa using all)]
    · intro opened
      rw [closed] at opened
      cases opened
    · intro outcome deciding
      rw [head] at deciding
      cases deciding
      exact theirs latest rests

/-- Opening is the verdict of the probes when the failure is theirs. -/
theorem opening_iff
    {settings : Settings} {ledger : Ledger}
    (chronological : ledger.Chronological) (verdict : ledger.Verdict settings)
    (opened : ledger.state.phase = .opened) :
    ledger.VerdictOfProbes settings ↔
      ∀ outcome,
        ledger.RestsOn outcome → outcome.ticket.admittedIn = ledger.period := by
  obtain ⟨latest, head, rests, recorded⟩ := verdict.recorded_eq
  constructor
  · intro ofProbes outcome restsOn
    have failed : outcome.succeeded ≠ true := by
      intro success
      have closed := restsOn.2.mp success
      rw [opened] at closed
      cases closed
    have member := restsOn.1
    rw [recorded] at member
    rcases List.mem_cons.mp member with rfl | member
    · exact ofProbes.deciding outcome head
    · exact absurd (verdict.earlier outcome member) failed
  · intro theirs
    have failed : latest.succeeded = false := by
      have notClosed : ¬ledger.state.phase = .closed := by simp [opened]
      simpa using mt rests.2.mp notClosed
    have admitted := theirs latest rests
    constructor
    · intro closed
      rw [opened] at closed
      cases closed
    · intro _
      refine ⟨latest, ?_, failed⟩
      rw [chronological.ofProbes_eq]
      exact List.mem_filter.mpr ⟨rests.1, by simpa using admitted⟩
    · intro outcome deciding
      rw [head] at deciding
      cases deciding
      exact admitted

/--
A half-open period ends in closing with exactly as many successes recorded as
there are probes, or in opening with a failure after successes only.  The
verdict is that of the probes exactly when no outcome it rests on came from a
call admitted before the period.
-/
theorem verdictOfProbes_iff
    (settings : Settings) (schedule : List Move) (move : Move)
    (before : (run settings schedule).state.phase = .halfOpen)
    (after : (run settings (schedule ++ [move])).state.phase ≠ .halfOpen) :
    (run settings (schedule ++ [move])).Verdict settings ∧
      ((run settings (schedule ++ [move])).VerdictOfProbes settings ↔
        ∀ outcome,
          (run settings (schedule ++ [move])).RestsOn outcome →
            outcome.ticket.admittedIn =
              (run settings (schedule ++ [move])).period) := by
  have chronological :=
    (settled_run settings (schedule ++ [move])).chronological
  rw [run_append_singleton] at after chronological ⊢
  have verdict := verdict_advance (settled_run settings schedule) before after
  refine ⟨verdict, ?_⟩
  rcases verdict.ended with closed | opened
  · exact closing_iff chronological verdict closed
  · exact opening_iff chronological verdict opened

/--
A breaker that one failure opens, that probes at once, and that two probes
close.
-/
def eager : Settings :=
  ⟨"event-sender", .one, ⟨0⟩, ⟨2, by decide, by decide⟩⟩

/-- A call starts, another fails and opens the breaker, and a probe succeeds. -/
def overtaken : List Move :=
  [.ask 0, .ask 0, .finish 1 0 false, .ask 0, .finish 2 0 true]

/--
A second probe that succeeds closes the breaker, and the verdict is that of
the probes.
-/
theorem verdictOfProbes_second_probe :
    (run eager (overtaken ++ [.ask 0])).state.phase = .halfOpen ∧
      (run eager (overtaken ++ [.ask 0] ++ [.finish 3 0 true])).VerdictOfProbes
        eager := by
  refine ⟨by decide, ?_⟩
  refine (verdictOfProbes_iff eager (overtaken ++ [.ask 0]) (.finish 3 0 true)
    (by decide) (by decide)).2.mpr ?_
  rintro outcome ⟨member, -⟩
  have all : ∀ outcome ∈ (run eager
      (overtaken ++ [.ask 0] ++ [.finish 3 0 true])).recorded,
      outcome.ticket.admittedIn = 1 := by decide
  exact all outcome member

/--
When the first call succeeds late instead, the breaker closes although only
one probe of two has succeeded.
-/
theorem not_verdictOfProbes_late_success :
    (run eager overtaken).state.phase = .halfOpen ∧
      (run eager (overtaken ++ [.finish 0 0 true])).state.phase = .closed ∧
      ¬(run eager (overtaken ++ [.finish 0 0 true])).VerdictOfProbes eager := by
  refine ⟨by decide, by decide, ?_⟩
  intro verdict
  have enough := verdict.closing (by decide)
  revert enough
  decide

end Ledger

end EventRelay.Breaker
