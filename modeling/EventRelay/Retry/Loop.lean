import EventRelay.Retry.Backoff

/-!
# Trying again

A call that may fail is made again until it succeeds, fails in a way that is
not worth trying again, or has been made as often as the policy allows.  A run
tells its result, the state that the calls left behind, the errors that were
judged and the pauses between the calls.
-/

namespace EventRelay.Retry

/-- Why trying again came to an end without success. -/
inductive Failure (ε : Type) where
  | exhausted (attempts : Nat) (last : ε)
  | notRetryable (error : ε)
  deriving DecidableEq

/-- The error of the last call. -/
def Failure.last {ε : Type} : Failure ε → ε
  | .exhausted _ last => last
  | .notRetryable error => error

/-- The text of the failure, given the texts of errors. -/
def Failure.message {ε : Type} (describe : ε → String) : Failure ε → String
  | .exhausted attempts last =>
    "max retries exceeded after " ++ toString attempts ++ " attempts: " ++
      describe last
  | .notRetryable error => describe error

/-- What happened while a call was made again and again. -/
structure Run (σ ε α : Type) where
  result : Except (Failure ε) α
  state : σ
  /-- How many calls were made. -/
  calls : Nat
  /-- The errors that were judged worth a further attempt or not, in order. -/
  judged : List ε
  /-- The pauses between the calls, in order. -/
  pauses : List Duration

/-- How many calls a policy allows: at least one. -/
def Policy.budget (policy : Policy) : Nat :=
  max policy.maxAttempts.toNat 1

/--
Makes the call with the given number, and further ones while any are left.
-/
def attemptFrom {σ ε α : Type} (delay : Nat → Duration) (retryable : ε → Bool)
    (call : σ → Except ε α × σ) : Nat → Nat → σ → Run σ ε α
  | left, attempt, state =>
    match call state with
    | (.ok value, state) => ⟨.ok value, state, attempt, [], []⟩
    | (.error error, state) =>
      if retryable error then
        match left with
        | 0 => ⟨.error (.exhausted attempt error), state, attempt, [error], []⟩
        | left + 1 =>
          let run := attemptFrom delay retryable call left (attempt + 1) state
          { run with
            judged := error :: run.judged
            pauses := delay attempt :: run.pauses }
      else ⟨.error (.notRetryable error), state, attempt, [error], []⟩

/-- Makes a call again while its errors are worth it and the policy allows. -/
def Policy.runWhile {σ ε α : Type} (policy : Policy) (retryable : ε → Bool)
    (call : σ → Except ε α × σ) (state : σ) : Run σ ε α :=
  attemptFrom policy.delay retryable call (policy.budget - 1) 1 state

/-- Makes a call again whatever its errors are, while the policy allows. -/
def Policy.run
    {σ ε α : Type} (policy : Policy) (call : σ → Except ε α × σ) (state : σ) :
    Run σ ε α :=
  policy.runWhile (fun _ => true) call state

end EventRelay.Retry
