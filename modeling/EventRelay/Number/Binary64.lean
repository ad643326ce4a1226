/-!
# Binary64 numbers as whole multiples of one step

Every finite binary64 magnitude is a natural number of steps of `2 ^ (-1074)`.
This module represents a finite number by its sign and that natural number, so
rounding, multiplication and division are statements about natural numbers,
and no runtime floating point is involved.

`nearestSteps` rounds a quotient to the nearest representable magnitude, a tie
going to the neighbour with an even significand.  Overflow is reported to the
caller, who decides whether it is an infinity or an error.
-/

namespace EventRelay.Number

/-- The number of steps in the number one. -/
@[irreducible]
def stepsPerOne : Nat := Nat.pow 2 1074

/-- The number of steps in the largest finite magnitude. -/
@[irreducible]
def largestSteps : Nat := (Nat.pow 2 53 - 1) * Nat.pow 2 2045

/-- A finite binary64 number; zero keeps its sign. -/
structure Finite where
  negative : Bool
  steps : Nat
  deriving DecidableEq

/--
The whole number nearest to a quotient, a tie going to the even neighbour.
-/
def roundHalfEven (numerator denominator : Nat) : Nat :=
  let whole := numerator / denominator
  let twice := 2 * (numerator % denominator)
  if twice < denominator then whole
  else if denominator < twice then whole + 1
  else whole + whole % 2

/-- The distance between representable magnitudes at a given number of steps. -/
def spacing (steps : Nat) : Nat :=
  Nat.pow 2 (Nat.log2 steps - 52)

/-- The representable number of steps nearest to a quotient of steps. -/
def nearestSteps (numerator denominator : Nat) : Nat :=
  let gap := spacing (numerator / denominator)
  roundHalfEven numerator (denominator * gap) * gap

namespace Finite

/-- The zero without a sign. -/
def zero : Finite := ⟨false, 0⟩

/-- The number one. -/
def one : Finite := ⟨false, stepsPerOne⟩

/-- Whether the number is a zero of either sign. -/
def isZero (number : Finite) : Bool :=
  number.steps == 0

/-- The rational number that a finite number stands for. -/
def toRat (number : Finite) : Rat :=
  let magnitude := mkRat number.steps stepsPerOne
  if number.negative then -magnitude else magnitude

/--
The finite number nearest to a quotient, or nothing when it lies beyond the
largest one.
-/
def ofRatio? (negative : Bool) (numerator denominator : Nat) : Option Finite :=
  let steps := nearestSteps (numerator * stepsPerOne) denominator
  if steps ≤ largestSteps then some ⟨negative, steps⟩ else none

/-- The finite number nearest to a natural number. -/
def ofNat? (value : Nat) : Option Finite :=
  ofRatio? false value 1

/-- The finite number nearest to a non-negative rational number. -/
def ofRat? (value : Rat) : Option Finite :=
  ofRatio? false value.num.toNat value.den

/-- The rounded product, with the sign of the left factor. -/
def scaleUp? (left right : Finite) : Option Finite :=
  ofRatio? left.negative (left.steps * right.steps) (stepsPerOne * stepsPerOne)

/-- The rounded quotient, with the sign of the dividend. -/
def scaleDown? (left right : Finite) : Option Finite :=
  ofRatio? left.negative left.steps right.steps

/-- Equality of the numbers meant: the two zeros are equal. -/
def sameValue (left right : Finite) : Bool :=
  left.steps == right.steps &&
    (left.negative == right.negative || left.steps == 0)

end Finite

/-- A binary64 value: a finite number, an infinity, or no number at all. -/
inductive Binary64 where
  | finite (number : Finite)
  | infinite (negative : Bool)
  | undefined
  deriving DecidableEq

namespace Binary64

/--
The value nearest to a quotient; beyond the largest finite number it is an
infinity.
-/
def ofRatio (negative : Bool) (numerator denominator : Nat) : Binary64 :=
  match Finite.ofRatio? negative numerator denominator with
  | some number => .finite number
  | none => .infinite negative

/--
The value nearest to `digits * 10 ^ exponent`.

A number of `d` digits lies between `10 ^ (d - 1)` and `10 ^ d`, so far
outside the range of exponents the answer is an infinity or a zero and no
power of ten is formed.
-/
def ofDecimal (negative : Bool) (digits : Nat) (exponent : Int) : Binary64 :=
  let position := (Nat.toDigits 10 digits).length + exponent
  if digits = 0 ∨ position < -400 then .finite ⟨negative, 0⟩
  else if 400 < position then .infinite negative
  else if 0 ≤ exponent then
    ofRatio negative (digits * Nat.pow 10 exponent.toNat) 1
  else ofRatio negative digits (Nat.pow 10 (-exponent).toNat)

end Binary64

end EventRelay.Number
