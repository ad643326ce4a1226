import EventRelay.Proofs.Breaker.Progress

/-!
# The counters of a breaker

A breaker keeps five values, and outcomes may arrive in any phase.  What the
values say is kept all the same.  While closed, the failures counted are those
since the last success, or since the breaker closed, and fewer than open it.
While open or half open, the time of opening is there.  While half open, at
least one slot is taken and no more than there are, and the successes are too
few to close.

Counters keep their values in the phases that do not use them, so each is also
bounded in every phase.  All bounds are counts of 32 bits, and so is every
value that a counter is raised to.

The bounds are at least one.  A setup may have counts of zero, and they work
as counts of one.
-/

namespace EventRelay.Breaker

/-! ## What every step keeps -/

/-- The values of a state fit each other and the settings. -/
structure State.Sound (settings : Settings) (state : State) : Prop where
  failures : state.failures ≤ settings.failureThreshold.count
  probing : state.probing ≤ settings.probes.count
  succeeded : state.succeeded ≤ settings.probes.count
  closed : state.phase = .closed →
    state.failures < settings.failureThreshold.count ∧ state.openedAt = none
  opened : state.phase ≠ .closed → ∃ time, state.openedAt = some time
  halfOpen : state.phase = .halfOpen →
    1 ≤ state.probing ∧ state.succeeded < settings.probes.count

namespace State

variable {settings : Settings} {state : State}

theorem sound_initial (settings : Settings) : initial.Sound settings where
  failures := Nat.zero_le _
  probing := Nat.zero_le _
  succeeded := Nat.zero_le _
  closed _ := ⟨settings.failureThreshold.positive, rfl⟩
  opened open_ := absurd rfl open_
  halfOpen phase := nomatch phase

theorem Sound.ask (sound : state.Sound settings) (now : Nat) :
    (state.ask settings now).2.Sound settings := by
  have asked := state.asks settings now
  generalize state.ask settings now = answer at asked ⊢
  cases asked with
  | closed phase => exact sound
  | window phase waiting => exact sound
  | firstProbe phase passed =>
      have since := sound.opened (by simp [phase])
      exact ⟨sound.failures, settings.probes.positive, Nat.zero_le _, nofun,
        fun _ => since, fun _ => ⟨Nat.le_refl 1, settings.probes.positive⟩⟩
  | probe phase free =>
      have before := sound.halfOpen phase
      refine ⟨sound.failures, free, sound.succeeded, sound.closed,
        sound.opened, fun _ => ⟨?_, before.2⟩⟩
      exact Nat.succ_pos state.probing
  | full phase taken => exact sound

theorem Sound.record (sound : state.Sound settings) (now : Nat)
    (succeeded : Bool) :
    (state.record settings now succeeded).Sound settings := by
  have recorded := state.records settings now succeeded
  generalize state.record settings now succeeded = after at recorded ⊢
  cases recorded with
  | praised phase =>
      have since := sound.closed phase
      exact ⟨Nat.zero_le _, sound.probing, sound.succeeded,
        fun _ => ⟨settings.failureThreshold.positive, since.2⟩,
        sound.opened, sound.halfOpen⟩
  | counted phase below =>
      have since := sound.closed phase
      exact ⟨Nat.le_of_lt below, sound.probing, sound.succeeded,
        fun _ => ⟨below, since.2⟩, sound.opened, sound.halfOpen⟩
  | tripped phase reached =>
      have below := (sound.closed phase).1
      exact ⟨below, sound.probing, sound.succeeded, nofun,
        fun _ => ⟨now, rfl⟩, nofun⟩
  | ignored phase => exact sound
  | approved phase below =>
      have slots := (sound.halfOpen phase).1
      exact ⟨sound.failures, sound.probing, Nat.le_of_lt below, sound.closed,
        sound.opened, fun _ => ⟨slots, below⟩⟩
  | recovered phase reached =>
      have below := (sound.halfOpen phase).2
      exact ⟨Nat.zero_le _, sound.probing, below,
        fun _ => ⟨settings.failureThreshold.positive, rfl⟩,
        fun open_ => absurd rfl open_, nofun⟩
  | relapsed phase =>
      exact ⟨sound.failures, sound.probing, sound.succeeded, nofun,
        fun _ => ⟨now, rfl⟩, nofun⟩

/-- Asking cannot tell a count of zero from a count of one. -/
theorem Sound.ask_clamped {setup : Setup} (sound : state.Sound setup.clamped)
    (now : Nat) :
    state.ask setup.clamped now = state.ask setup now := by
  unfold State.ask windowPassed
  cases phase : state.phase with
  | closed => rfl
  | opened => rfl
  | halfOpen =>
      -- A slot is taken, so there is none left in either case.
      have taken := (sound.halfOpen phase).1
      have same :
          state.probing < max setup.probes.toNat 1 ↔
            state.probing < setup.probes.toNat := by omega
      simp [Setup.clamped, same]

/-- Recording cannot tell a count of zero from a count of one. -/
theorem record_clamped
    (setup : Setup) (now : Nat) (succeeded : Bool) (state : State) :
    state.record setup.clamped now succeeded =
      state.record setup now succeeded := by
  have same (count after : Nat) :
      max count 1 ≤ after + 1 ↔ count ≤ after + 1 := by omega
  unfold record recordSuccess recordFailure
  simp [Setup.clamped, same]

end State

namespace Ledger

variable {settings : Settings}

theorem sound_advance (ledger : Ledger) (move : Move)
    (sound : ledger.state.Sound settings) :
    (ledger.advance settings move).state.Sound settings := by
  rcases ledger.advance_cases settings move with
    ⟨now, -, asked⟩ | ⟨ticket, now, succeeded, -, -, finished⟩ | idle
  · rw [asked]
    exact sound.ask now
  · rw [finished]
    exact sound.record now succeeded
  · rw [idle]
    exact sound

theorem sound_run (settings : Settings) (schedule : List Move) :
    (run settings schedule).state.Sound settings :=
  run_induction (State.sound_initial settings) sound_advance schedule

/-! ## Counts of zero -/

theorem advance_clamped {setup : Setup} {ledger : Ledger}
    (sound : ledger.state.Sound setup.clamped) (move : Move) :
    ledger.advance setup.clamped move = ledger.advance setup move := by
  cases move with
  | ask now =>
      show ledger.ask setup.clamped now = ledger.ask setup now
      unfold ask
      rw [sound.ask_clamped]
  | finish call now succeeded =>
      simp only [advance, finish, State.record_clamped]

/--
A breaker whose setup has counts of zero does what it would do with counts of
one, whatever calls are made.
-/
theorem run_clamped (setup : Setup) (schedule : List Move) :
    run setup.clamped schedule = run setup schedule := by
  induction schedule using List.reverseRecOn with
  | nil => rfl
  | append_singleton schedule move induction =>
      rw [run_append_singleton, run_append_singleton, ← induction]
      exact advance_clamped (sound_run setup.clamped schedule) move

/-! ## Closed periods -/

/--
The breaker has been closed during some moves, and not before: it never was
anything else, or the move before them closed it.
-/
structure ClosedSince
    (settings : Settings) (before during : List Move) : Prop where
  begins : before = [] ∨
    ∃ earlier closing, before = earlier ++ [closing] ∧
      (run settings earlier).state.phase ≠ .closed
  lasting : ∀ part, part <+: during →
    (run settings (before ++ part)).state.phase = .closed

/-- The outcomes recorded from one point on, the latest first. -/
def recordedSince (start ledger : Ledger) : List Outcome :=
  ledger.outcomes.take (ledger.outcomes.length - start.outcomes.length)

/--
The failures since the last success, or all of them if there is no success.
-/
def failuresInRow (outcomes : List Outcome) : Nat :=
  (outcomes.takeWhile fun outcome => !outcome.succeeded).length

theorem recordedSince_eq {start ledger : Ledger} {recent : List Outcome}
    (later : ledger.outcomes = recent ++ start.outcomes) :
    recordedSince start ledger = recent := by
  unfold recordedSince
  rw [later, List.length_append, Nat.add_sub_cancel_right, List.take_left]

/-- A closed breaker has been so since a point of the schedule. -/
theorem exists_closedSince (schedule : List Move)
    (closed : (run settings schedule).state.phase = .closed) :
    ∃ before during,
      schedule = before ++ during ∧ ClosedSince settings before during := by
  induction schedule using List.reverseRecOn with
  | nil =>
      refine ⟨[], [], rfl, .inl rfl, ?_⟩
      intro part inner
      obtain rfl := List.prefix_nil.mp inner
      exact closed
  | append_singleton schedule move induction =>
      by_cases already : (run settings schedule).state.phase = .closed
      · obtain ⟨before, during, rfl, begins, lasting⟩ := induction already
        refine ⟨before, during ++ [move], by simp, begins, ?_⟩
        intro part inner
        rcases List.prefix_concat_iff.mp inner with rfl | inner
        · rw [← List.append_assoc]
          exact closed
        · exact lasting part inner
      · refine ⟨schedule ++ [move], [], by simp,
          .inr ⟨schedule, move, rfl, already⟩, ?_⟩
        intro part inner
        obtain rfl := List.prefix_nil.mp inner
        rw [List.append_nil]
        exact closed

/-- A breaker that closes has counted no failure. -/
theorem failures_of_closing {ledger : Ledger} {move : Move}
    (before : ledger.state.phase ≠ .closed)
    (after : (ledger.advance settings move).state.phase = .closed) :
    (ledger.advance settings move).state.failures = 0 := by
  rcases ledger.advance_cases settings move with
    ⟨now, -, asked⟩ | ⟨ticket, now, succeeded, -, -, finished⟩ | idle
  · rw [asked, state_ask] at after
    have answered := ledger.state.asks settings now
    generalize ledger.state.ask settings now = answer at answered after
    cases answered with
    | closed phase => exact absurd phase before
    | window phase waiting => exact absurd after before
    | firstProbe phase passed => cases after
    | probe phase free => exact absurd after before
    | full phase taken => exact absurd after before
  · rw [finished, state_finish] at after ⊢
    have recorded := ledger.state.records settings now succeeded
    generalize ledger.state.record settings now succeeded = state
      at recorded after ⊢
    cases recorded with
    | praised phase => exact absurd phase before
    | counted phase below => exact absurd phase before
    | tripped phase reached => exact absurd phase before
    | ignored phase => exact absurd after before
    | approved phase below => exact absurd after before
    | recovered phase reached => rfl
    | relapsed phase => cases after
  · rw [idle] at after
    exact absurd after before

/-- While closed, a failure counts one more and a success none. -/
theorem failures_record {state : State} {now : Nat} {succeeded : Bool}
    (before : state.phase = .closed)
    (after : (state.record settings now succeeded).phase = .closed) :
    (state.record settings now succeeded).failures =
      if succeeded then 0 else state.failures + 1 := by
  have recorded := state.records settings now succeeded
  generalize state.record settings now succeeded = next at recorded after ⊢
  cases recorded with
  | praised phase => rfl
  | counted phase below => rfl
  | tripped phase reached => cases after
  | ignored phase => simp [before] at phase
  | approved phase below => simp [before] at phase
  | recovered phase reached => simp [before] at phase
  | relapsed phase => cases after

theorem failuresInRow_cons (outcome : Outcome) (outcomes : List Outcome) :
    failuresInRow (outcome :: outcomes) =
      if outcome.succeeded then 0 else failuresInRow outcomes + 1 := by
  unfold failuresInRow
  cases verdict : outcome.succeeded with
  | true => simp [verdict]
  | false => simp [verdict]

/-- The failures counted at the start of a closed period. -/
theorem ClosedSince.failures_start {before during : List Move}
    (since : ClosedSince settings before during) :
    (run settings before).state.failures = 0 := by
  have closed := since.lasting [] List.nil_prefix
  rw [List.append_nil] at closed
  rcases since.begins with rfl | ⟨earlier, closing, rfl, open_⟩
  · rfl
  · rw [run_append_singleton] at closed ⊢
    exact failures_of_closing open_ closed

/--
While a breaker is closed it counts the failures in a row of its closed period.
-/
theorem ClosedSince.failures_eq {before during : List Move}
    (since : ClosedSince settings before during) :
    (run settings (before ++ during)).state.failures =
      failuresInRow
        (recordedSince (run settings before)
          (run settings (before ++ during))) := by
  -- The outcomes of the period are found along with their count.
  suffices counted : ∃ recent,
      (run settings (before ++ during)).outcomes =
          recent ++ (run settings before).outcomes ∧
        (run settings (before ++ during)).state.failures =
          failuresInRow recent by
    obtain ⟨recent, later, failures⟩ := counted
    rw [recordedSince_eq later, failures]
  induction during using List.reverseRecOn with
  | nil =>
      rw [List.append_nil]
      exact ⟨[], rfl, since.failures_start⟩
  | append_singleton during move induction =>
      have shorter : ClosedSince settings before during :=
        ⟨since.begins, fun part inner =>
          since.lasting part (inner.trans (List.prefix_append during [move]))⟩
      have closed := shorter.lasting during List.prefix_rfl
      have after := since.lasting (during ++ [move]) List.prefix_rfl
      obtain ⟨recent, later, failures⟩ := induction shorter
      rw [← List.append_assoc, run_append_singleton] at after ⊢
      generalize run settings (before ++ during) = ledger
        at closed after later failures ⊢
      rcases ledger.advance_cases settings move with
        ⟨now, -, asked⟩ | ⟨ticket, now, succeeded, -, -, finished⟩ | idle
      · rw [asked]
        refine ⟨recent, later, ?_⟩
        rw [state_ask, State.ask, closed]
        exact failures
      · rw [finished, state_finish] at after ⊢
        refine ⟨⟨ticket, ledger.period, succeeded⟩ :: recent, ?_, ?_⟩
        · exact congrArg (List.cons _) later
        · rw [failures_record closed after, failuresInRow_cons, failures]
      · rw [idle]
        exact ⟨recent, later, failures⟩

/-! ## The values at every point -/

/-- What the five values say at a point of a schedule. -/
structure Represents (settings : Settings) (schedule : List Move) : Prop where
  /-- While closed too few failures are counted to open, and no opening. -/
  closed : (run settings schedule).state.phase = .closed →
    (run settings schedule).state.failures <
        settings.failureThreshold.count ∧
      (run settings schedule).state.openedAt = none
  /-- There is a closed period, and the failures counted are those in a row. -/
  failures : (run settings schedule).state.phase = .closed →
    (∃ before during,
      schedule = before ++ during ∧ ClosedSince settings before during) ∧
    ∀ before during,
      schedule = before ++ during → ClosedSince settings before during →
        (run settings schedule).state.failures =
          failuresInRow
            (recordedSince (run settings before) (run settings schedule))
  /-- The time of opening is there, and alone decides about the window. -/
  opened : (run settings schedule).state.phase ≠ .closed →
    ∃ time,
      (run settings schedule).state.openedAt = some time ∧
        ∀ now,
          (run settings schedule).state.windowPassed settings now =
            decide (settings.window.nanos ≤ now - time)
  /-- While half open slots are taken, not too many, and the end is open. -/
  halfOpen : (run settings schedule).state.phase = .halfOpen →
    1 ≤ (run settings schedule).state.probing ∧
      (run settings schedule).state.probing ≤ settings.probes.count ∧
      (run settings schedule).state.succeeded < settings.probes.count
  /-- No more calls were let pass since it went half open than may probe. -/
  admitted : (run settings schedule).state.phase = .halfOpen →
    (run settings schedule).probes.length ≤ settings.probes.count
  /-- Every counter fits 32 bits, in use or not. -/
  fits : (run settings schedule).state.failures < UInt32.size ∧
    (run settings schedule).state.probing < UInt32.size ∧
    (run settings schedule).state.succeeded < UInt32.size
  /-- A failure while closed raises a counter to what fits 32 bits … -/
  failureFits : (run settings schedule).state.phase = .closed →
    (run settings schedule).state.failures + 1 < UInt32.size
  /-- … and so do a success and a probe while half open. -/
  successFits : (run settings schedule).state.phase = .halfOpen →
    (run settings schedule).state.succeeded + 1 < UInt32.size
  probeFits : (run settings schedule).state.phase = .halfOpen →
    (run settings schedule).state.probing < settings.probes.count →
      (run settings schedule).state.probing + 1 < UInt32.size

/--
At every point of every schedule of overlapping calls the values of a breaker
say what they should, and no counter is raised beyond 32 bits.
-/
theorem represents_run (settings : Settings) (schedule : List Move) :
    Represents settings schedule := by
  have sound := sound_run settings schedule
  have threshold := settings.failureThreshold.bounded
  have slots := settings.probes.bounded
  constructor
  · exact sound.closed
  · intro closed
    refine ⟨exists_closedSince schedule closed, ?_⟩
    rintro before during rfl since
    exact since.failures_eq
  · intro open_
    obtain ⟨time, since⟩ := sound.opened open_
    refine ⟨time, since, ?_⟩
    intro now
    rw [State.windowPassed, since]
  · intro halfOpen
    obtain ⟨taken, below⟩ := sound.halfOpen halfOpen
    exact ⟨taken, sound.probing, below⟩
  · intro halfOpen
    rw [← slotsHeld_run settings schedule halfOpen]
    exact sound.probing
  · exact ⟨Nat.lt_of_le_of_lt sound.failures threshold,
      Nat.lt_of_le_of_lt sound.probing slots,
      Nat.lt_of_le_of_lt sound.succeeded slots⟩
  · intro closed
    exact Nat.lt_of_le_of_lt (sound.closed closed).1 threshold
  · intro halfOpen
    exact Nat.lt_of_le_of_lt (sound.halfOpen halfOpen).2 slots
  · intro _ free
    exact Nat.lt_of_le_of_lt free slots

/--
A closed breaker with a threshold of two has forgotten a failure before a
success and counts the one after it.
-/
example :
    (run ⟨"event-sender", 2, ⟨0⟩, 1⟩
      [.ask 0, .finish 0 0 false, .ask 0, .finish 1 0 true, .ask 0,
        .finish 2 0 false]).state =
      ⟨.closed, 1, none, 0, 0⟩ := by
  decide

end Ledger

end EventRelay.Breaker
