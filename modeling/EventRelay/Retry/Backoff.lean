import EventRelay.Duration
import EventRelay.Number.Binary64

/-!
# Backoff

Between attempts a retry pauses: always equally long, or for a time that grows
by a factor with every attempt up to a cap.  The growing pause is a product of
rational numbers, each step of which passes through a rounding.  With the
binary64 rounding the pauses are those that are made; with the exact one they
are the plain products, of which the laws of growth hold.

A number beyond every bound is `none`.  The exponent is the number of the
attempt less one, taken as a signed number of 32 bits.
-/

namespace EventRelay.Retry

open EventRelay.Number

/--
Rounds an exact result to one that can be held, or to nothing when it is
beyond every bound.
-/
abbrev Rounding := Rat → Option Rat

/-- Keeps every result as it is. -/
def Rounding.exact : Rounding := some

/-- Rounds to the nearest binary64 number. -/
def Rounding.binary64 : Rounding := fun value =>
  (Finite.ofRat? value).map Finite.toRat

/-- How pauses go on from attempt to attempt. -/
inductive Strategy where
  | fixed
  | exponential (multiplier : Binary64)
  deriving DecidableEq

/-- How often to try, and how long to pause between attempts. -/
structure Policy where
  maxAttempts : UInt32
  baseDelay : Duration
  maxDelay : Duration
  strategy : Strategy
  deriving DecidableEq

namespace Policy

/-- The same pause before every further attempt. -/
def fixed (maxAttempts : UInt32) (pause : Duration) : Policy :=
  ⟨max maxAttempts 1, pause, pause, .fixed⟩

/-- A pause that grows by a factor with every attempt. -/
def exponential
    (maxAttempts : UInt32) (baseDelay : Duration) (multiplier : Binary64)
    (maxDelay : Duration) :
    Policy :=
  ⟨max maxAttempts 1, baseDelay, maxDelay, .exponential multiplier⟩

/--
Ten attempts, with pauses that double from 100 milliseconds up to five
seconds.
-/
def standard : Policy :=
  exponential 10 (.ofMillis 100) (.finite ⟨false, 2 * stepsPerOne⟩)
    (.ofMillis 5000)

end Policy

/--
The factor that a multiplier means: at least one, and one when it is no
number.
-/
def growthFactor : Binary64 → Option Rat
  | .finite number => some (if number.toRat < 1 then 1 else number.toRat)
  | .infinite negative => if negative then some 1 else none
  | .undefined => some 1

/-- The rounded product of factors of which none is zero. -/
def product (round : Rounding) : Option Rat → Option Rat → Option Rat
  | some left, some right => round (left * right)
  | _, _ => none

/--
Raises a factor to a power by squaring, times what has been gathered so far.
-/
def powerFrom (round : Rounding) :
    Nat → Option Rat → Option Rat → Nat → Option Rat
  | 0, gathered, _, _ => gathered
  | fuel + 1, gathered, factor, exponent =>
    let gathered :=
      if exponent % 2 = 1 then product round gathered factor else gathered
    if exponent / 2 = 0 then gathered
    else
      powerFrom round fuel gathered (product round factor factor) (exponent / 2)

/-- A factor raised to a power; there is a squaring for each binary digit. -/
def power (round : Rounding) (factor : Option Rat) (exponent : Nat) :
    Option Rat :=
  powerFrom round (Nat.log2 exponent + 1) (some 1) factor exponent

/-- The reciprocal of a factor of at least one. -/
def reciprocal (round : Rounding) : Option Rat → Option Rat
  | some value => round (1 / value)
  | none => some 0

/-- A factor raised to a signed power. -/
def signedPower (round : Rounding) (factor : Option Rat) (exponent : Int) :
    Option Rat :=
  let magnitude := power round factor exponent.natAbs
  if exponent < 0 then reciprocal round magnitude else magnitude

/-- The exponent for an attempt. -/
def exponentOf (attempt : Nat) : Int :=
  Int.bmod ((attempt - 1 : Nat) : Int) UInt32.size

/-- The smaller of two magnitudes, of which either may be beyond every bound. -/
def smaller : Option Rat → Option Rat → Option Rat
  | some left, some right => some (if left ≤ right then left else right)
  | some value, none => some value
  | none, other => other

/-- The whole milliseconds in a magnitude, as many as 64 bits hold. -/
def wholeMillis : Option Rat → Nat
  | some value => min value.floor.toNat (UInt64.size - 1)
  | none => UInt64.size - 1

/-- The growing pause after an attempt, under a rounding. -/
def grownDelay
    (round : Rounding) (baseDelay maxDelay : Duration) (multiplier : Binary64)
    (attempt : Nat) :
    Duration :=
  let factor := signedPower round (growthFactor multiplier) (exponentOf attempt)
  let grown := product round (round baseDelay.toMillis) factor
  .ofMillis (wholeMillis (smaller grown (round maxDelay.toMillis)))

/-- The pause after a failed attempt, counted from one, under a rounding. -/
def Policy.delayWith (round : Rounding) (policy : Policy) (attempt : Nat) :
    Duration :=
  if attempt = 0 then .zero
  else
    match policy.strategy with
    | .fixed => policy.baseDelay
    | .exponential multiplier =>
      grownDelay round policy.baseDelay policy.maxDelay multiplier attempt

/-- The pause that is made after a failed attempt, counted from one. -/
def Policy.delay (policy : Policy) (attempt : Nat) : Duration :=
  policy.delayWith .binary64 attempt

end EventRelay.Retry
