import EventRelay.Number.Binary64

/-!
# The shortest decimal digits that read back

The decimal text of a binary64 number is not its exact expansion: of the
decimals that round to the number, it shows one with the fewest digits, and of
those the nearest.  A number of steps stands for an interval of magnitudes
that round to it; for one, two, and up to seventeen digits the two neighbours
of the number on that decimal grid are tried, and the first grid with a
neighbour in the interval gives the digits.  A number halfway between two such
neighbours has two nearest decimals, and the written form says which of them
it takes.
-/

namespace EventRelay.Number

/--
A decimal `digits * 10 ^ exponent`, its digits not ending in zero unless it is
zero.
-/
structure Decimal where
  digits : Nat
  exponent : Int
  deriving DecidableEq

/-- Which of two equally near decimals is taken. -/
inductive Tie where
  /-- The one whose last digit is even. -/
  | toEven
  /-- The one of greater magnitude. -/
  | awayFromZero
  deriving DecidableEq

/-- Whether a magnitude halfway above these digits keeps them. -/
def Tie.keepsLower : Tie → Nat → Bool
  | .toEven, digits => digits % 2 == 0
  | .awayFromZero, _ => false

/--
Four times the steps between a magnitude and the lower end of its rounding
interval.
-/
def quadrupleBelow (steps : Nat) : Nat :=
  if steps = Nat.pow 2 (Nat.log2 steps) ∧ 1 < spacing steps then
    spacing steps
  else
    2 * spacing steps

/--
Whether a quotient of steps rounds to the given steps; an even significand
includes the ends.
-/
def roundsTo (steps numerator denominator : Nat) : Bool :=
  let value := 4 * numerator
  let low := (4 * steps - quadrupleBelow steps) * denominator
  let high := (4 * steps + 2 * spacing steps) * denominator
  if (steps / spacing steps) % 2 = 0 then low ≤ value && value ≤ high
  else low < value && value < high

/-- The number of steps in `digits * 10 ^ exponent`, as a quotient. -/
def decimalSteps (digits : Nat) (exponent : Int) : Nat × Nat :=
  if 0 ≤ exponent then (digits * Nat.pow 10 exponent.toNat * stepsPerOne, 1)
  else (digits * stepsPerOne, Nat.pow 10 (-exponent).toNat)

/--
The nearest neighbour of the magnitude on the grid of `10 ^ exponent` that
rounds to it.
-/
def gridNeighbour? (tie : Tie) (steps : Nat) (exponent : Int) : Option Nat :=
  let unit := decimalSteps 1 exponent
  let low := steps * unit.2 / unit.1
  let fits (digits : Nat) : Bool :=
    roundsTo steps (decimalSteps digits exponent).1
      (decimalSteps digits exponent).2
  let twice := 2 * (steps * unit.2 % unit.1)
  match fits low, fits (low + 1) with
  | true, true =>
    some (if twice < unit.1 || (twice == unit.1 && tie.keepsLower low) then low
      else low + 1)
  | true, false => some low
  | false, true => some (low + 1)
  | false, false => none

/--
The largest exponent whose power of ten does not exceed the magnitude,
searched downwards.
-/
def leadingExponent (steps : Nat) : Nat → Int → Int
  | 0, exponent => exponent
  | fuel + 1, exponent =>
    let power := decimalSteps 1 exponent
    if power.1 ≤ steps * power.2 then
      exponent
    else
      leadingExponent steps fuel (exponent - 1)

/-- Moves zeros from the end of the digits into the exponent. -/
def stripZeros : Nat → Nat → Int → Decimal
  | 0, digits, exponent => ⟨digits, exponent⟩
  | fuel + 1, digits, exponent =>
    if digits ≠ 0 ∧ digits % 10 = 0 then
      stripZeros fuel (digits / 10) (exponent + 1)
    else ⟨digits, exponent⟩

/-- Tries ever finer grids below the leading exponent. -/
def shortestFrom (tie : Tie) (steps : Nat) (leading : Int) : Nat → Nat → Decimal
  | 0, _ => ⟨0, 0⟩
  | fuel + 1, finer =>
    match gridNeighbour? tie steps (leading - finer) with
    | some digits => stripZeros 20 digits (leading - finer)
    | none => shortestFrom tie steps leading fuel (finer + 1)

/-- The shortest decimal that rounds to a magnitude of the given steps. -/
def shortest (tie : Tie) (steps : Nat) : Decimal :=
  if steps = 0 then ⟨0, 0⟩
  else
    -- A magnitude of `b` binary digits of steps lies below
    -- `10 ^ (b * 0.3011 - 322)`.
    let guess : Int := ((Nat.log2 steps + 1) * 3011 / 10000 : Nat) - 322
    shortestFrom tie steps (leadingExponent steps 40 guess) 17 0

end EventRelay.Number
