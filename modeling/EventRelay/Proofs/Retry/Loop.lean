import EventRelay.Retry.Loop
import Mathlib.Data.List.Basic
import Mathlib.Logic.Function.Iterate
import Mathlib.Order.Bounds.Defs

/-!
# Which call is the last

Calls that are made one after the other give answers, whether or not anybody
makes them.  A run makes them until one of them ends it: the first that
succeeds, that fails in a way that is not worth another attempt, or that is
the last one allowed.  All that a run tells follows from these answers and the
number of that call.

The calls may change any state, so what is said of the state left behind says
that the run makes these calls and no others.
-/

namespace EventRelay.Retry

variable {σ ε α : Type}

/-! ## Calls one after the other -/

/-- The state that so many calls leave behind. -/
def stateAfter (call : σ → Except ε α × σ) (calls : Nat) (state : σ) : σ :=
  (fun before => (call before).2)^[calls] state

/-- What the call with a number answers, counted from one. -/
def answer
    (call : σ → Except ε α × σ) (state : σ) (number : Nat) :
    Except ε α :=
  (call (stateAfter call (number - 1) state)).1

/-- The error of an answer that tells one. -/
def failure? : Except ε α → Option ε
  | .ok _ => none
  | .error error => some error

/-- The errors of the first so many calls, in order. -/
def failures
    (call : σ → Except ε α × σ) (state : σ) (calls : Nat) : List ε :=
  (List.range' 1 calls).filterMap fun number =>
    failure? (answer call state number)

/--
Whether the call with a number ends a run: it succeeds, it fails in a way that
is not worth another attempt, or it is the last one allowed.
-/
inductive Ends
    (retryable : ε → Bool) (call : σ → Except ε α × σ) (budget : Nat)
    (state : σ) (number : Nat) :
    Prop where
  | succeeded (value : α) (answered : answer call state number = .ok value)
  | rejected (error : ε) (answered : answer call state number = .error error)
      (final : retryable error = false)
  | spent (last : number = budget)

/-- The result of a run of so many calls whose last one answers this. -/
def conclude
    (retryable : ε → Bool) (calls : Nat) :
    Except ε α → Except (Failure ε) α
  | .ok value => .ok value
  | .error error =>
    if retryable error then .error (.exhausted calls error)
    else .error (.notRetryable error)

section Calls

variable (retryable : ε → Bool) (call : σ → Except ε α × σ) (budget : Nat)
  (state : σ)

theorem stateAfter_succ (calls : Nat) :
    stateAfter call (calls + 1) state =
      stateAfter call calls (call state).2 :=
  rfl

/-- The last of the calls starts where the others end. -/
theorem stateAfter_last (calls : Nat) :
    stateAfter call (calls + 1) state =
      (call (stateAfter call calls state)).2 :=
  Function.iterate_succ_apply' _ calls state

@[simp]
theorem answer_one : answer call state 1 = (call state).1 :=
  rfl

/-- The calls after the first are those that start where it ends. -/
theorem answer_succ {number : Nat} (positive : 0 < number) :
    answer call state (number + 1) = answer call (call state).2 number := by
  obtain ⟨earlier, rfl⟩ := Nat.exists_eq_add_of_lt positive
  rfl

theorem failures_one :
    failures call state 1 = (failure? (call state).1).toList := by
  unfold failures
  rw [List.range'_one, List.filterMap_cons, List.filterMap_nil, answer_one]
  cases failure? (call state).1 with
  | none => rfl
  | some error => rfl

theorem failures_succ (calls : Nat) :
    failures call state (calls + 1) =
      (failure? (call state).1).toList ++
        failures call (call state).2 calls := by
  have others :
      (List.range' 2 calls).filterMap
          (fun number => failure? (answer call state number)) =
        failures call (call state).2 calls := by
    rw [show List.range' 2 calls = (List.range' 1 calls).map (1 + ·) from
      (List.map_add_range' 1 calls 1).symm, List.filterMap_map]
    refine List.filterMap_congr ?_
    intro number member
    have positive : 0 < number := (List.mem_range'_1.mp member).1
    rw [Function.comp_apply, Nat.add_comm, answer_succ call state positive]
  rw [← others, ← failures_one]
  exact List.filterMap_append (l := [1])

theorem ends_succ {number : Nat} (positive : 0 < number) :
    Ends retryable call (budget + 1) state (number + 1) ↔
      Ends retryable call budget (call state).2 number := by
  have same := answer_succ call state positive
  constructor
  · intro ends
    cases ends with
    | succeeded value answered => exact .succeeded value (same ▸ answered)
    | rejected error answered final =>
        exact .rejected error (same ▸ answered) final
    | spent last => exact .spent (Nat.succ.inj last)
  · intro ends
    cases ends with
    | succeeded value answered =>
        exact .succeeded value (same.trans answered)
    | rejected error answered final =>
        exact .rejected error (same.trans answered) final
    | spent last => exact .spent (congrArg (· + 1) last)

/-- The first call that ends a run. -/
def FirstEnd (number : Nat) : Prop :=
  IsLeast {number | 0 < number ∧ Ends retryable call budget state number}
    number

variable {retryable call budget state}

theorem firstEnd_one (ends : Ends retryable call budget state 1) :
    FirstEnd retryable call budget state 1 :=
  ⟨⟨Nat.one_pos, ends⟩, fun _ other => other.1⟩

/-- If the first call does not end a run, one of those behind it does. -/
theorem FirstEnd.succ
    {calls : Nat} (goesOn : ¬Ends retryable call (budget + 1) state 1)
    (first : FirstEnd retryable call budget (call state).2 calls) :
    FirstEnd retryable call (budget + 1) state (calls + 1) := by
  obtain ⟨⟨positive, ends⟩, least⟩ := first
  refine ⟨⟨Nat.succ_pos calls, ?_⟩, ?_⟩
  · exact (ends_succ retryable call budget state positive).mpr ends
  · rintro number ⟨counted, other⟩
    obtain ⟨earlier, rfl⟩ := Nat.exists_eq_add_of_lt counted
    rw [Nat.zero_add] at other ⊢
    rcases Nat.eq_zero_or_pos earlier with rfl | later
    · exact absurd other goesOn
    · exact Nat.succ_le_succ (least
        ⟨later, (ends_succ retryable call budget state later).mp other⟩)

/-- Calls are exhausted when all that are allowed have been made. -/
theorem FirstEnd.spent
    {calls made attempts : Nat} {last : ε}
    (first : FirstEnd retryable call budget state calls)
    (exhausted :
      conclude retryable made (answer call state calls) =
        .error (.exhausted attempts last)) :
    attempts = made ∧ calls = budget := by
  cases first.1.2 with
  | succeeded value answered =>
      rw [answered] at exhausted
      cases exhausted
  | rejected error answered final =>
      rw [answered] at exhausted
      simp [conclude, final] at exhausted
  | spent all =>
      refine ⟨?_, all⟩
      unfold conclude at exhausted
      split at exhausted
      · cases exhausted
      · split at exhausted
        · cases exhausted
          rfl
        · cases exhausted

theorem FirstEnd.le
    {calls : Nat} (first : FirstEnd retryable call budget state calls)
    (allowed : 0 < budget) :
    calls ≤ budget :=
  first.2 ⟨allowed, .spent rfl⟩

end Calls

/-! ## The calls of a run -/

section Runs

variable (delay : Nat → Duration) (retryable : ε → Bool)
  (call : σ → Except ε α × σ)

/-- A first call that ends a run is its only one. -/
theorem attemptFrom_one
    (left attempt : Nat) {state : σ}
    (ends : Ends retryable call (left + 1) state 1) :
    attemptFrom delay retryable call left attempt state =
      { result := conclude retryable (attempt + left) (call state).1
        state := (call state).2
        calls := attempt
        judged := (failure? (call state).1).toList
        pauses := [] } := by
  unfold attemptFrom
  rcases called : call state with ⟨outcome, next⟩
  cases outcome with
  | ok value => rfl
  | error error =>
      cases worth : retryable error with
      | false => simp [worth, conclude, failure?]
      | true =>
          cases ends with
          | succeeded value answered =>
              rw [answer_one, called] at answered
              cases answered
          | rejected other answered final =>
              rw [answer_one, called] at answered
              cases answered
              rw [worth] at final
              cases final
          | spent last =>
              cases last
              simp [worth, conclude, failure?]

/-- A first call that does not end a run fails, and others follow it. -/
theorem attemptFrom_more
    {left : Nat} (attempt : Nat) {state : σ}
    (goesOn : ¬Ends retryable call (left + 1) state 1) :
    ∃ error less,
      (call state).1 = .error error ∧
        left = less + 1 ∧
        attemptFrom delay retryable call left attempt state =
          let run :=
            attemptFrom delay retryable call less (attempt + 1)
              (call state).2
          { run with
            judged := error :: run.judged
            pauses := delay attempt :: run.pauses } := by
  cases answered : (call state).1 with
  | ok value => exact absurd (.succeeded value answered) goesOn
  | error error =>
      cases worth : retryable error with
      | false => exact absurd (.rejected error answered worth) goesOn
      | true =>
          cases left with
          | zero => exact absurd (.spent rfl) goesOn
          | succ less =>
              refine ⟨error, less, rfl, rfl, ?_⟩
              have called : call state = (.error error, (call state).2) :=
                Prod.ext answered rfl
              conv => lhs; unfold attemptFrom
              rw [called]
              dsimp only
              rw [if_pos worth]

/--
The calls from one with a number on, while so many are left behind it: they
are made up to the first that ends the run.
-/
theorem attemptFrom_eq (left attempt : Nat) (state : σ) :
    ∃ calls,
      FirstEnd retryable call (left + 1) state calls ∧
        attemptFrom delay retryable call left attempt state =
          { result :=
              conclude retryable (attempt + left) (answer call state calls)
            state := stateAfter call calls state
            calls := attempt + (calls - 1)
            judged := failures call state calls
            pauses := (List.range' attempt (calls - 1)).map delay } := by
  induction left generalizing attempt state with
  | zero =>
      refine ⟨1, firstEnd_one (.spent rfl), ?_⟩
      rw [attemptFrom_one delay retryable call 0 attempt (.spent rfl),
        failures_one]
      rfl
  | succ left induction =>
      by_cases ends : Ends retryable call (left + 2) state 1
      · refine ⟨1, firstEnd_one ends, ?_⟩
        rw [attemptFrom_one delay retryable call (left + 1) attempt ends,
          failures_one]
        rfl
      · obtain ⟨error, _, answered, ⟨⟩, run⟩ :=
          attemptFrom_more delay retryable call attempt ends
        obtain ⟨calls, first, others⟩ :=
          induction (attempt + 1) (call state).2
        have positive : 0 < calls := first.1.1
        obtain ⟨later, rfl⟩ : ∃ later, calls = later + 1 :=
          ⟨calls - 1, by omega⟩
        have judged :
            failures call state (later + 2) =
              error :: failures call (call state).2 (later + 1) := by
          rw [failures_succ, answered]
          rfl
        have paused :
            (List.range' attempt (later + 1)).map delay =
              delay attempt :: (List.range' (attempt + 1) later).map delay :=
          rfl
        have budget : attempt + 1 + left = attempt + (left + 1) := by omega
        have made : attempt + 1 + later = attempt + (later + 1) := by omega
        refine ⟨later + 2, first.succ ends, ?_⟩
        rw [run, others, judged, answer_succ call state positive,
          stateAfter_succ call state (later + 1)]
        simp only [Nat.succ_sub_one, paused, budget, made]

end Runs

namespace Policy

theorem budget_pos (policy : Policy) : 0 < policy.budget :=
  Nat.le_max_right _ 1

/-- The calls of a run are counted by a number of 32 bits. -/
theorem budget_lt (policy : Policy) : policy.budget < UInt32.size :=
  Nat.max_lt.mpr ⟨policy.maxAttempts.toNat_lt, by decide⟩

/-- A run makes the calls up to the first that ends it. -/
theorem runWhile_eq
    (policy : Policy) (retryable : ε → Bool) (call : σ → Except ε α × σ)
    (state : σ) :
    ∃ calls,
      FirstEnd retryable call policy.budget state calls ∧
        policy.runWhile retryable call state =
          { result :=
              conclude retryable policy.budget (answer call state calls)
            state := stateAfter call calls state
            calls := calls
            judged := failures call state calls
            pauses := (List.range' 1 (calls - 1)).map policy.delay } := by
  obtain ⟨calls, first, run⟩ :=
    attemptFrom_eq policy.delay retryable call (policy.budget - 1) 1 state
  have positive : 0 < calls := first.1.1
  have counted : 1 + (calls - 1) = calls := Nat.add_sub_of_le positive
  have allowed : 1 + (policy.budget - 1) = policy.budget :=
    Nat.add_sub_of_le policy.budget_pos
  rw [Nat.sub_add_cancel policy.budget_pos] at first
  rw [counted, allowed] at run
  exact ⟨calls, first, run⟩

/--
A run ends with the first call that succeeds, that fails in a way that is not
worth another attempt, or that is the last one allowed.  Up to there it makes
every call once, judges the error of each call that fails, in order, and makes
the pauses of the policy between the calls.  Its result is what the last call
answers; the calls are exhausted only where this is an error worth another
attempt and all that are allowed have been made.  Their numbers fit 32 bits.
Where every failure is worth another attempt, the run is the plain one.
-/
theorem run_up_to_first_end
    (policy : Policy) (call : σ → Except ε α × σ) (state : σ) :
    (∀ retryable : ε → Bool,
      ∃ calls,
        FirstEnd retryable call policy.budget state calls ∧
        policy.runWhile retryable call state =
          { result :=
              conclude retryable policy.budget (answer call state calls)
            state := stateAfter call calls state
            calls := calls
            judged := failures call state calls
            pauses := (List.range' 1 (calls - 1)).map policy.delay } ∧
        (∀ attempts last,
          (policy.runWhile retryable call state).result =
              .error (.exhausted attempts last) →
            attempts = policy.budget ∧ calls = policy.budget) ∧
        calls ≤ policy.budget ∧
        policy.budget < UInt32.size) ∧
      policy.run call state = policy.runWhile (fun _ => true) call state := by
  refine ⟨?_, rfl⟩
  intro retryable
  obtain ⟨calls, first, run⟩ := policy.runWhile_eq retryable call state
  refine ⟨calls, first, run, ?_, first.le policy.budget_pos,
    policy.budget_lt⟩
  intro attempts last exhausted
  rw [run] at exhausted
  exact first.spent exhausted

/--
A failure that is not worth another attempt is told as such also where it is
the last one allowed.
-/
example :
    ((Policy.fixed 2 .zero).runWhile (fun error => error == "busy")
        (fun calls : Nat =>
          ((.error (if calls = 0 then "busy" else "broken") :
              Except String Unit),
            calls + 1))
        0).result =
      .error (.notRetryable "broken") :=
  rfl

end Policy

end EventRelay.Retry
