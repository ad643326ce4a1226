import EventRelay.Number.Binary64

/-!
# How far rounding can go

Rounding a quotient to steps never passes a bound that is itself
representable, it does not fall below a power of two, and it adds at most one
part in `2 ^ 53`.
-/

namespace EventRelay.Number

/-- A whole bound of a quotient bounds the rounded quotient. -/
theorem roundHalfEven_le
    {numerator denominator bound : Nat} (positive : 0 < denominator)
    (below : numerator ≤ bound * denominator) :
    roundHalfEven numerator denominator ≤ bound := by
  have whole : numerator / denominator ≤ bound :=
    Nat.div_le_of_le_mul (Nat.mul_comm bound denominator ▸ below)
  rcases Nat.lt_or_eq_of_le whole with inside | exact
  · unfold roundHalfEven
    dsimp only
    split
    · exact whole
    · split
      · exact inside
      · omega
  · have remainder : numerator % denominator = 0 := by
      have parts := Nat.div_add_mod numerator denominator
      rw [exact, Nat.mul_comm] at parts
      omega
    unfold roundHalfEven
    simp only [remainder, Nat.mul_zero, if_pos positive]
    exact whole

/-- A rounded quotient is at most half too large. -/
theorem roundHalfEven_mul_le
    (numerator : Nat) {denominator : Nat} (positive : 0 < denominator) :
    2 * (roundHalfEven numerator denominator * denominator) ≤
      2 * numerator + denominator := by
  have parts := Nat.div_add_mod numerator denominator
  have remainder := Nat.mod_lt numerator positive
  rw [Nat.mul_comm] at parts
  have next : (numerator / denominator + 1) * denominator =
      numerator / denominator * denominator + denominator := Nat.succ_mul _ _
  unfold roundHalfEven
  dsimp only
  split
  · omega
  · split
    · omega
    · have odd : numerator / denominator % 2 ≤ 1 := by omega
      have upper :
          (numerator / denominator + numerator / denominator % 2) *
              denominator ≤
            (numerator / denominator + 1) * denominator :=
        Nat.mul_le_mul_right _ (Nat.add_le_add_left odd _)
      omega

/-! ## Rounding to steps -/

theorem spacing_pos (steps : Nat) : 0 < spacing steps :=
  Nat.pow_pos (by decide)

theorem spacing_le {steps : Nat} (positive : 0 < steps) :
    spacing steps ≤ steps := by
  have below : Nat.pow 2 (Nat.log2 steps) ≤ steps :=
    Nat.log2_self_le (Nat.ne_of_gt positive)
  exact Nat.le_trans (Nat.pow_le_pow_right (by decide) (Nat.sub_le _ _)) below

theorem le_pow_of_log2_lt {steps bits : Nat} (few : Nat.log2 steps < bits) :
    ∃ power,
      power = Nat.pow 2 bits ∧ steps ≤ power ∧ spacing steps ≤ power := by
  have inside : steps < Nat.pow 2 (Nat.log2 steps + 1) := Nat.lt_log2_self
  refine ⟨Nat.pow 2 bits, rfl, ?_, ?_⟩
  · exact Nat.le_trans (Nat.le_of_lt inside)
      (Nat.pow_le_pow_right (by decide) few)
  · exact Nat.pow_le_pow_right (by decide) (by omega)

/--
Beyond the first 53 binary digits, neighbours lie closer than one part in
`2 ^ 52`.
-/
theorem pow_mul_spacing_le {steps : Nat} (large : 52 ≤ Nat.log2 steps) :
    Nat.pow 2 52 * spacing steps ≤ steps := by
  have nonzero : steps ≠ 0 := by
    intro zero
    rw [zero, Nat.log2_zero] at large
    cases large
  have whole : Nat.pow 2 52 * spacing steps = Nat.pow 2 (Nat.log2 steps) := by
    have split := Nat.pow_add 2 52 (Nat.log2 steps - 52)
    rw [Nat.add_sub_cancel' large] at split
    exact split.symm
  rw [whole]
  exact Nat.log2_self_le nonzero

/-- The binary digits of the greatest number of 53 of them at a scale. -/
private theorem log2_le
    {steps : Nat} (scale : Nat)
    (below : steps ≤ (Nat.pow 2 53 - 1) * Nat.pow 2 scale) :
    Nat.log2 steps ≤ 52 + scale := by
  by_cases zero : steps = 0
  · rw [zero, Nat.log2_zero]
    exact Nat.zero_le _
  · have limit :
        (Nat.pow 2 53 - 1) * Nat.pow 2 scale < Nat.pow 2 53 * Nat.pow 2 scale :=
      Nat.mul_lt_mul_of_pos_right (by decide) (Nat.pow_pos (by decide))
    have bits : Nat.log2 steps < 53 + scale := by
      rw [Nat.log2_lt zero, Nat.pow_add]
      exact Nat.lt_of_le_of_lt below limit
    omega

theorem log2_le_of_le_largestSteps
    {steps : Nat} (below : steps ≤ largestSteps) :
    Nat.log2 steps ≤ 2097 := by
  have short : ∀ scale, steps ≤ (Nat.pow 2 53 - 1) * Nat.pow 2 scale →
      Nat.log2 steps ≤ 52 + scale := fun scale => log2_le scale
  unfold largestSteps at below
  exact short _ below

/--
Where steps are at most the largest, the largest is a multiple of their
spacing.
-/
theorem largestSteps_eq_mul_spacing
    {steps : Nat} (below : steps ≤ largestSteps) :
    ∃ multiple, largestSteps = multiple * spacing steps := by
  have short := log2_le_of_le_largestSteps below
  unfold largestSteps spacing
  -- The scale stays a variable, for its power is too large to be written out.
  obtain ⟨scale, same⟩ : ∃ scale, scale = 2045 := ⟨2045, rfl⟩
  rw [← same]
  refine ⟨(Nat.pow 2 53 - 1) * Nat.pow 2 (scale - (Nat.log2 steps - 52)), ?_⟩
  have split :=
    Nat.pow_add 2 (scale - (Nat.log2 steps - 52)) (Nat.log2 steps - 52)
  rw [Nat.sub_add_cancel (by omega)] at split
  rw [Nat.mul_assoc]
  exact congrArg _ split

/--
What is no larger than the largest finite number is not rounded beyond it.
-/
theorem nearestSteps_le_largestSteps
    {numerator denominator : Nat} (positive : 0 < denominator)
    (below : numerator ≤ largestSteps * denominator) :
    nearestSteps numerator denominator ≤ largestSteps := by
  have quotient : numerator / denominator ≤ largestSteps :=
    Nat.div_le_of_le_mul (Nat.mul_comm largestSteps denominator ▸ below)
  obtain ⟨multiple, largest⟩ := largestSteps_eq_mul_spacing quotient
  have bounded :
      numerator ≤
        multiple * (denominator * spacing (numerator / denominator)) := by
    rw [Nat.mul_comm denominator, ← Nat.mul_assoc, ← largest]
    exact below
  unfold nearestSteps
  rw [largest]
  exact Nat.mul_le_mul_right _
    (roundHalfEven_le (Nat.mul_pos positive (spacing_pos _)) bounded)

/-- Rounding to steps keeps the leading binary digit. -/
theorem pow_log2_le_nearestSteps
    {numerator denominator : Nat} (nonzero : numerator / denominator ≠ 0) :
    Nat.pow 2 (numerator / denominator).log2 ≤
      nearestSteps numerator denominator := by
  have leading :
      Nat.pow 2 (numerator / denominator).log2 ≤ numerator / denominator :=
    Nat.log2_self_le nonzero
  have divides :
      spacing (numerator / denominator) ∣
        Nat.pow 2 (numerator / denominator).log2 :=
    Nat.pow_dvd_pow 2 (Nat.sub_le _ _)
  have whole :
      numerator / (denominator * spacing (numerator / denominator)) ≤
        roundHalfEven numerator
          (denominator * spacing (numerator / denominator)) := by
    unfold roundHalfEven
    dsimp only
    split
    · exact Nat.le_refl _
    · split
      · exact Nat.le_succ _
      · exact Nat.le_add_right _ _
  unfold nearestSteps
  calc Nat.pow 2 (numerator / denominator).log2
      = Nat.pow 2 (numerator / denominator).log2 /
            spacing (numerator / denominator) *
          spacing (numerator / denominator) :=
        (Nat.div_mul_cancel divides).symm
    _ ≤ numerator / denominator / spacing (numerator / denominator) *
          spacing (numerator / denominator) :=
        Nat.mul_le_mul_right _ (Nat.div_le_div_right leading)
    _ ≤ _ := by
        rw [Nat.div_div_eq_div_mul]
        exact Nat.mul_le_mul_right _ whole

/-- A quotient of at least a power of two is not rounded below it. -/
theorem pow_le_nearestSteps
    {numerator denominator scale : Nat} (positive : 0 < denominator)
    (above : Nat.pow 2 scale * denominator ≤ numerator) :
    Nat.pow 2 scale ≤ nearestSteps numerator denominator := by
  have quotient : Nat.pow 2 scale ≤ numerator / denominator :=
    (Nat.le_div_iff_mul_le positive).mpr above
  have nonzero : numerator / denominator ≠ 0 :=
    Nat.ne_of_gt (Nat.lt_of_lt_of_le (Nat.pow_pos (by decide)) quotient)
  have bits : scale ≤ (numerator / denominator).log2 :=
    (Nat.le_log2 nonzero).mpr quotient
  exact Nat.le_trans (Nat.pow_le_pow_right (by decide) bits)
    (pow_log2_le_nearestSteps nonzero)

/-! ## Representable numbers -/

/--
A number of steps that binary64 can hold: 53 binary digits, and no larger than
the largest.
-/
structure Representable (steps : Nat) : Prop where
  le_largest : steps ≤ largestSteps
  multiple : spacing steps ∣ steps

/--
Whatever has at most 53 binary digits at a scale is a multiple of its own
spacing.
-/
theorem spacing_dvd_mul_pow
    {significand : Nat} (short : significand ≤ Nat.pow 2 53) (scale : Nat) :
    spacing (significand * Nat.pow 2 scale) ∣
      significand * Nat.pow 2 scale := by
  rcases Nat.lt_or_eq_of_le short with inside | exact
  · by_cases zero : significand * Nat.pow 2 scale = 0
    · rw [zero]
      exact Nat.dvd_zero _
    · have limit : significand * Nat.pow 2 scale < 2 ^ (53 + scale) := by
        rw [Nat.pow_add]
        exact Nat.mul_lt_mul_of_pos_right inside (Nat.pow_pos (by decide))
      have bits := (Nat.log2_lt zero).mpr limit
      have divides :
          spacing (significand * Nat.pow 2 scale) ∣ Nat.pow 2 scale :=
        Nat.pow_dvd_pow 2 (by omega)
      exact Nat.dvd_trans divides (Nat.dvd_mul_left _ _)
  · have power : significand * Nat.pow 2 scale = 2 ^ (53 + scale) := by
      rw [exact, Nat.pow_add]
      rfl
    rw [power]
    unfold spacing
    rw [Nat.log2_two_pow]
    exact Nat.pow_dvd_pow 2 (by omega)

/-- Rounding gives what binary64 can hold, unless it is too large. -/
theorem spacing_dvd_nearestSteps
    (numerator : Nat) {denominator : Nat} (positive : 0 < denominator) :
    spacing (nearestSteps numerator denominator) ∣
      nearestSteps numerator denominator := by
  have short :
      roundHalfEven numerator
          (denominator * spacing (numerator / denominator)) ≤
        Nat.pow 2 53 := by
    apply roundHalfEven_le (Nat.mul_pos positive (spacing_pos _))
    have quotient : numerator / denominator <
        Nat.pow 2 53 * spacing (numerator / denominator) := by
      have inside :
          numerator / denominator < 2 ^ ((numerator / denominator).log2 + 1) :=
        Nat.lt_log2_self
      have bits : (numerator / denominator).log2 + 1 ≤
          53 + ((numerator / denominator).log2 - 52) := by omega
      have wider := Nat.pow_le_pow_right (by decide : 0 < 2) bits
      rw [Nat.pow_add 2 53] at wider
      exact Nat.lt_of_lt_of_le inside wider
    have scaled := (Nat.div_lt_iff_lt_mul positive).mp quotient
    calc numerator
        ≤ Nat.pow 2 53 * spacing (numerator / denominator) * denominator :=
          Nat.le_of_lt scaled
      _ = Nat.pow 2 53 * (denominator * spacing (numerator / denominator)) := by
        rw [Nat.mul_assoc, Nat.mul_comm denominator]
  exact spacing_dvd_mul_pow short _

theorem representable_of_ofRatio?
    {negative : Bool} {numerator denominator : Nat} {number : Finite}
    (positive : 0 < denominator)
    (rounded : Finite.ofRatio? negative numerator denominator = some number) :
    Representable number.steps := by
  unfold Finite.ofRatio? at rounded
  dsimp only at rounded
  split at rounded
  · next small =>
      cases rounded
      exact ⟨small, spacing_dvd_nearestSteps _ positive⟩
  · cases rounded

/-- Rounding whole steps adds at most one part in `2 ^ 53`. -/
theorem pow_mul_nearestSteps_le (steps : Nat) :
    Nat.pow 2 53 * nearestSteps steps 1 ≤ (Nat.pow 2 53 + 1) * steps := by
  have unfolded : nearestSteps steps 1 =
      roundHalfEven steps (spacing steps) * spacing steps := by
    unfold nearestSteps
    simp only [Nat.div_one, Nat.one_mul]
  have unit : Nat.pow 2 53 = 9007199254740992 := rfl
  rw [unfolded, unit]
  by_cases large : 52 ≤ Nat.log2 steps
  · have near := roundHalfEven_mul_le steps (spacing_pos steps)
    have close : 4503599627370496 * spacing steps ≤ steps :=
      pow_mul_spacing_le large
    omega
  · have single : spacing steps = 1 := by
      unfold spacing
      rw [Nat.sub_eq_zero_of_le (Nat.le_of_not_le large)]
    have exact : roundHalfEven steps 1 ≤ steps :=
      roundHalfEven_le (by decide) (Nat.le_of_eq (Nat.mul_one steps).symm)
    rw [single, Nat.mul_one]
    omega

end EventRelay.Number
