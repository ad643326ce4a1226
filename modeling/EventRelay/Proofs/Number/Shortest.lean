import EventRelay.Number.Shortest
import EventRelay.Proofs.Number.Rounding

/-!
# What is known of the shortest digits

The shortest decimal of a magnitude has at most seventeen digits, it is zero
only in the plainest way, and it lies at most half a spacing above the
magnitude.
-/

namespace EventRelay.Number

/-- A decimal lies at most half a spacing above a magnitude. -/
def Close (steps digits : Nat) (exponent : Int) : Prop :=
  4 * (decimalSteps digits exponent).1 ≤
    (4 * steps + 2 * spacing steps) * (decimalSteps digits exponent).2

/-- A magnitude lies below so many units of a decimal grid. -/
def Under (steps : Nat) (exponent : Int) (count : Nat) : Prop :=
  steps * (decimalSteps 1 exponent).2 < count * (decimalSteps 1 exponent).1

/-- What is known of the decimal of a magnitude. -/
structure Decimal.Stands (decimal : Decimal) (steps : Nat) : Prop where
  short : decimal.digits ≤ Nat.pow 10 17
  zero : decimal.digits = 0 → decimal.exponent = 0
  close : Close steps decimal.digits decimal.exponent

/-! ## Decimal grids -/

theorem decimalSteps_ofNat (digits exponent : Nat) :
    decimalSteps digits (exponent : Int) =
      (digits * Nat.pow 10 exponent * stepsPerOne, 1) := by
  unfold decimalSteps
  rw [if_pos (Int.natCast_nonneg exponent), Int.toNat_natCast]

theorem decimalSteps_neg (digits exponent : Nat) :
    decimalSteps digits (-(exponent : Int)) =
      (digits * stepsPerOne, Nat.pow 10 exponent) := by
  cases exponent with
  | zero =>
      have whole := decimalSteps_ofNat digits 0
      rw [show Nat.pow 10 0 = 1 from rfl, Nat.mul_one] at whole
      exact whole
  | succ exponent =>
      unfold decimalSteps
      rw [if_neg (by omega), Int.neg_neg, Int.toNat_natCast]

theorem decimalSteps_pos (digits : Nat) (exponent : Int) :
    0 < (decimalSteps digits exponent).2 := by
  unfold decimalSteps
  split
  · exact Nat.one_pos
  · exact Nat.pow_pos (by decide)

theorem pow_ten_succ (exponent : Nat) :
    Nat.pow 10 (exponent + 1) = 10 * Nat.pow 10 exponent :=
  Nat.pow_succ'

theorem exponent_cases (exponent : Int) :
    (∃ count : Nat, exponent = (count + 1 : Nat)) ∨
      ∃ count : Nat, exponent = -(count : Int) := by
  by_cases positive : 0 < exponent
  · exact .inl ⟨exponent.toNat - 1, by omega⟩
  · exact .inr ⟨(-exponent).toNat, by omega⟩

/-- On the next finer grid ten times as many units lie above a magnitude. -/
theorem Under.finer
    {steps count : Nat} {exponent : Int} (under : Under steps exponent count) :
    Under steps (exponent - 1) (10 * count) := by
  unfold Under at under ⊢
  rcases exponent_cases exponent with ⟨above, rfl⟩ | ⟨below, rfl⟩
  · rw [show ((above + 1 : Nat) : Int) - 1 = (above : Nat)
      by omega, decimalSteps_ofNat]
    rw [decimalSteps_ofNat, pow_ten_succ] at under
    generalize stepsPerOne = one at under ⊢
    calc steps * 1
        < count * (1 * (10 * Nat.pow 10 above) * one) := under
      _ = 10 * count * (1 * Nat.pow 10 above * one) := by ac_rfl
  · rw [show -(below : Int) - 1 = -((below + 1 : Nat) : Int)
        by omega, decimalSteps_neg,
      pow_ten_succ]
    rw [decimalSteps_neg] at under
    calc steps * (10 * Nat.pow 10 below)
        = 10 * (steps * Nat.pow 10 below) := by ac_rfl
      _ < 10 * (count * (1 * stepsPerOne)) :=
        Nat.mul_lt_mul_of_pos_left under (by decide)
      _ = 10 * count * (1 * stepsPerOne) := (Nat.mul_assoc _ _ _).symm

/-- A zero at the end of the digits can be moved into the exponent. -/
theorem Close.strip
    {steps digits : Nat} {exponent : Int}
    (close : Close steps digits exponent) (ends : digits % 10 = 0) :
    Close steps (digits / 10) (exponent + 1) := by
  have tens : digits = 10 * (digits / 10) := by omega
  generalize digits / 10 = rest at tens ⊢
  subst tens
  unfold Close at close ⊢
  rcases exponent_cases (exponent + 1) with ⟨above, same⟩ | ⟨below, same⟩
  · have here : exponent = (above : Int) := by omega
    rw [here, decimalSteps_ofNat] at close
    rw [same, decimalSteps_ofNat, pow_ten_succ]
    generalize stepsPerOne = one at close ⊢
    calc 4 * (rest * (10 * Nat.pow 10 above) * one)
        = 4 * (10 * rest * Nat.pow 10 above * one) := by ac_rfl
      _ ≤ (4 * steps + 2 * spacing steps) * 1 := close
  · have here : exponent = -((below + 1 : Nat) : Int) := by omega
    rw [here, decimalSteps_neg, pow_ten_succ] at close
    rw [same, decimalSteps_neg]
    refine Nat.le_of_mul_le_mul_left ?_ (by decide : 0 < 10)
    generalize stepsPerOne = one at close ⊢
    calc 10 * (4 * (rest * one))
        = 4 * (10 * rest * one) := by ac_rfl
      _ ≤ (4 * steps + 2 * spacing steps) * (10 * Nat.pow 10 below) := close
      _ = 10 * ((4 * steps + 2 * spacing steps) * Nat.pow 10 below) := by ac_rfl

/-! ## The first grid -/

/--
Searching downwards stays below the magnitude by less than a factor of ten.
-/
theorem under_leadingExponent {steps : Nat} (fuel : Nat) (exponent : Int)
    (under : Under steps (exponent + 1) 1) :
    Under steps (leadingExponent steps fuel exponent + 1) 1 := by
  induction fuel generalizing exponent with
  | zero => exact under
  | succ fuel induction =>
      unfold leadingExponent
      dsimp only
      split
      · exact under
      · next above =>
          apply induction
          rw [Int.sub_add_cancel]
          unfold Under
          rw [Nat.one_mul]
          exact Nat.lt_of_not_le above

/-- More than the decimal logarithm of two is `3011 / 10000`. -/
theorem pow_two_le_pow_ten (bits : Nat) :
    Nat.pow 2 bits ≤ Nat.pow 10 (bits * 3011 / 10000 + 1) := by
  have ratio : Nat.pow 2 10000 ≤ Nat.pow 10 3011 := by decide +kernel
  have rounded : 3011 * bits ≤ (bits * 3011 / 10000 + 1) * 10000 := by omega
  generalize bits * 3011 / 10000 + 1 = exponent at rounded ⊢
  -- Both stay variables, for such powers are too large to be written out.
  generalize large : 10000 = scale at ratio rounded
  generalize 3011 = digits at ratio rounded
  have nonzero : scale ≠ 0 := by omega
  refine (Nat.pow_le_pow_iff_left nonzero).mp ?_
  calc (Nat.pow 2 bits) ^ scale
      = (Nat.pow 2 scale) ^ bits := Nat.pow_right_comm 2 bits scale
    _ ≤ (Nat.pow 10 digits) ^ bits := Nat.pow_le_pow_left ratio bits
    _ = 10 ^ (digits * bits) := (Nat.pow_mul 10 digits bits).symm
    _ ≤ 10 ^ (exponent * scale) := Nat.pow_le_pow_right (by decide) rounded
    _ = (Nat.pow 10 exponent) ^ scale := Nat.pow_mul 10 exponent scale

/-- The guess lies above the magnitude, whatever its number of binary digits. -/
private theorem guess_bits (bits : Nat) :
    Nat.pow 2 bits * Nat.pow 10 321 ≤
      Nat.pow 10 (bits * 3011 / 10000) * stepsPerOne := by
  have digits := pow_two_le_pow_ten bits
  have slack : 10 * Nat.pow 10 321 ≤ stepsPerOne := by decide +kernel
  generalize bits * 3011 / 10000 = guess at digits ⊢
  generalize Nat.pow 10 321 = smallest at slack ⊢
  calc Nat.pow 2 bits * smallest
      ≤ Nat.pow 10 (guess + 1) * smallest := Nat.mul_le_mul_right _ digits
    _ = Nat.pow 10 guess * (10 * smallest) := Nat.mul_assoc _ _ _
    _ ≤ Nat.pow 10 guess * stepsPerOne := Nat.mul_le_mul_left _ slack

/-- The exponent that the search begins at lies above the magnitude. -/
theorem under_guess (steps : Nat) :
    Under steps ((((Nat.log2 steps + 1) * 3011 / 10000 : Nat) : Int) - 322 + 1)
      1 := by
  have inside : steps < Nat.pow 2 (Nat.log2 steps + 1) := Nat.lt_log2_self
  have guessed := guess_bits (Nat.log2 steps + 1)
  generalize Nat.pow 2 (Nat.log2 steps + 1) = power at inside guessed
  generalize (Nat.log2 steps + 1) * 3011 / 10000 = guess at guessed ⊢
  -- The offset stays a variable, for its power is too large to be written out.
  generalize same : 321 = offset at guessed
  unfold Under
  by_cases large : offset ≤ guess
  · rw [show (guess : Int) - 322 + 1 = (guess - offset : Nat)
      by omega, decimalSteps_ofNat]
    have split :
        Nat.pow 10 guess = Nat.pow 10 (guess - offset) * Nat.pow 10 offset := by
      have whole := Nat.pow_add 10 (guess - offset) offset
      rw [Nat.sub_add_cancel large] at whole
      exact whole
    rw [split] at guessed
    generalize stepsPerOne = one at guessed ⊢
    have bound : power ≤ Nat.pow 10 (guess - offset) * one := by
      refine Nat.le_of_mul_le_mul_right ?_
        (Nat.pow_pos (by decide) : 0 < Nat.pow 10 offset)
      calc power * Nat.pow 10 offset
          ≤ Nat.pow 10 (guess - offset) * Nat.pow 10 offset * one := guessed
        _ = Nat.pow 10 (guess - offset) * one * Nat.pow 10 offset := by ac_rfl
    simp only [Nat.mul_one, Nat.one_mul]
    exact Nat.lt_of_lt_of_le inside bound
  · rw [show (guess : Int) - 322 + 1 = -((offset - guess : Nat) : Int)
      by omega, decimalSteps_neg]
    have split :
        Nat.pow 10 offset = Nat.pow 10 (offset - guess) * Nat.pow 10 guess := by
      have whole := Nat.pow_add 10 (offset - guess) guess
      rw [Nat.sub_add_cancel (by omega)] at whole
      exact whole
    rw [split] at guessed
    generalize stepsPerOne = one at guessed ⊢
    have bound : power * Nat.pow 10 (offset - guess) ≤ one := by
      refine Nat.le_of_mul_le_mul_left ?_
        (Nat.pow_pos (by decide) : 0 < Nat.pow 10 guess)
      calc Nat.pow 10 guess * (power * Nat.pow 10 (offset - guess))
          =
            power * (Nat.pow 10 (offset - guess) * Nat.pow 10 guess) :=
              by ac_rfl
        _ ≤ Nat.pow 10 guess * one := guessed
    simp only [Nat.one_mul]
    refine Nat.lt_of_lt_of_le ?_ bound
    exact Nat.mul_lt_mul_of_pos_right inside (Nat.pow_pos (by decide))

/-! ## The digits found -/

theorem roundsTo_close
    {steps digits : Nat} {exponent : Int}
    (rounds :
      roundsTo steps (decimalSteps digits exponent).1
          (decimalSteps digits exponent).2 =
        true) :
    Close steps digits exponent := by
  unfold Close
  unfold roundsTo at rounds
  dsimp only at rounds
  split at rounds
  · exact (of_decide_eq_true (Bool.and_eq_true _ _ ▸ rounds).2)
  · exact Nat.le_of_lt (of_decide_eq_true (Bool.and_eq_true _ _ ▸ rounds).2)

theorem not_roundsTo_zero {steps denominator : Nat} (positive : 0 < steps)
    (divides : 0 < denominator) : roundsTo steps 0 denominator = false := by
  have gap := spacing_le positive
  have below : quadrupleBelow steps < 4 * steps := by
    unfold quadrupleBelow
    split
    · omega
    · omega
  have low : 0 < (4 * steps - quadrupleBelow steps) * denominator :=
    Nat.mul_pos (by omega) divides
  unfold roundsTo
  dsimp only
  split
  · simp [Nat.not_le_of_lt low]
  · simp

/--
A neighbour on a grid rounds to the magnitude and lies at most one unit above
it.
-/
theorem gridNeighbour?_spec
    {tie : Tie} {steps digits : Nat} {exponent : Int}
    (found : gridNeighbour? tie steps exponent = some digits) :
    roundsTo steps (decimalSteps digits exponent).1
        (decimalSteps digits exponent).2 =
      true ∧
    digits ≤
      steps * (decimalSteps 1 exponent).2 / (decimalSteps 1 exponent).1 +
        1 := by
  unfold gridNeighbour? at found
  dsimp only at found
  split at found
  · next low high =>
      split at found
      · cases found
        exact ⟨low, Nat.le_succ _⟩
      · cases found
        exact ⟨high, Nat.le_refl _⟩
  · next low _ =>
      cases found
      exact ⟨low, Nat.le_succ _⟩
  · next _ high =>
      cases found
      exact ⟨high, Nat.le_refl _⟩
  · cases found

theorem stripZeros_stands
    {steps digits : Nat} {exponent : Int} (fuel : Nat) (nonzero : digits ≠ 0)
    (short : digits ≤ Nat.pow 10 17) (close : Close steps digits exponent) :
    (stripZeros fuel digits exponent).Stands steps := by
  induction fuel generalizing digits exponent with
  | zero => exact ⟨short, fun zero => absurd zero nonzero, close⟩
  | succ fuel induction =>
      unfold stripZeros
      split
      · next ends =>
          exact induction (by omega) (Nat.le_trans (Nat.div_le_self _ _) short)
            (close.strip ends.2)
      · exact ⟨short, fun zero => absurd zero nonzero, close⟩

theorem stands_zero (steps : Nat) : Decimal.Stands ⟨0, 0⟩ steps := by
  refine ⟨Nat.zero_le _, fun _ => rfl, ?_⟩
  unfold Close
  rw [show (0 : Int) = ((0 : Nat) : Int) from rfl, decimalSteps_ofNat,
    Nat.zero_mul, Nat.zero_mul, Nat.mul_zero]
  exact Nat.zero_le _

/-- The digits that a grid below the leading exponent gives. -/
theorem gridNeighbour?_stands
    {tie : Tie} {steps digits count : Nat} {exponent : Int}
    (positive : 0 < steps) (under : Under steps exponent count)
    (few : count ≤ Nat.pow 10 17)
    (found : gridNeighbour? tie steps exponent = some digits) (fuel : Nat) :
    (stripZeros fuel digits exponent).Stands steps := by
  obtain ⟨rounds, near⟩ := gridNeighbour?_spec found
  refine stripZeros_stands fuel ?_ ?_ (roundsTo_close rounds)
  · rintro rfl
    have none : (decimalSteps 0 exponent).1 = 0 := by
      unfold decimalSteps
      split
      · simp only [Nat.zero_mul]
      · simp only [Nat.zero_mul]
    rw [none, not_roundsTo_zero positive (decimalSteps_pos 0 exponent)]
      at rounds
    cases rounds
  · have units :
        steps * (decimalSteps 1 exponent).2 / (decimalSteps 1 exponent).1 <
          count :=
      Nat.div_lt_of_lt_mul (Nat.mul_comm count _ ▸ under)
    exact Nat.le_trans near (Nat.le_trans units few)

theorem shortestFrom_stands
    {tie : Tie} {steps : Nat} (positive : 0 < steps) {leading : Int}
    (fuel finer : Nat) (room : finer + fuel ≤ 17)
    (under : Under steps (leading - finer) (Nat.pow 10 (finer + 1))) :
    (shortestFrom tie steps leading fuel finer).Stands steps := by
  induction fuel generalizing finer with
  | zero => exact stands_zero steps
  | succ fuel induction =>
      unfold shortestFrom
      split
      · next digits found =>
          exact gridNeighbour?_stands positive under
            (Nat.pow_le_pow_right (by decide) (by omega)) found 20
      · apply induction (finer + 1) (by omega)
        have next := under.finer
        rw [show leading - (finer : Int) - 1 = leading -
            ((finer + 1 : Nat) : Int) by omega,
          ← pow_ten_succ] at next
        exact next

/-- The shortest decimal stands for its magnitude. -/
theorem shortest_stands (tie : Tie) (steps : Nat) :
    (shortest tie steps).Stands steps := by
  unfold shortest
  split
  · exact stands_zero steps
  · next nonzero =>
      apply shortestFrom_stands (Nat.pos_of_ne_zero nonzero) 17 0 (by decide)
      have above := (under_leadingExponent 40 _ (under_guess steps)).finer
      rw [Int.add_sub_cancel] at above
      rw [show ((0 : Nat) : Int) = 0 from rfl, Int.sub_zero]
      exact above

end EventRelay.Number
