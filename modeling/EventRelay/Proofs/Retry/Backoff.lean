import EventRelay.Retry.Backoff
import EventRelay.Proofs.Number.Scaling
import Mathlib.Algebra.Order.Field.Power
import Mathlib.Data.Rat.Floor
import Mathlib.Tactic.NormNum

/-!
# How pauses grow

With exact products the pause after an attempt is the least pause times a power
of the factor, up to the cap.  The exponent follows the attempts up to
`2 ^ 31`.  There it turns negative, and it rises from the least exponent once
more.  The pauses therefore grow in two runs, never beyond the cap, and the
second run begins again below the first.
-/

namespace EventRelay.Retry

open EventRelay.Number

/-! ## Powers by squaring -/

/--
With exact products, squaring gathers the whole power: the fuel bounds the
binary digits of the exponent.
-/
theorem powerFrom_exact (fuel : Nat) :
    ∀ (gathered factor : Rat) (exponent : Nat), exponent < 2 ^ fuel →
      powerFrom .exact fuel (some gathered) (some factor) exponent =
        some (gathered * factor ^ exponent) := by
  induction fuel with
  | zero =>
      intro gathered factor exponent small
      have none : exponent = 0 := by simpa using small
      rw [none, pow_zero, mul_one]
      rfl
  | succ fuel inductionHypothesis =>
      intro gathered factor exponent small
      have half : exponent / 2 < 2 ^ fuel := by
        rw [Nat.pow_succ] at small
        omega
      have digits := Nat.div_add_mod exponent 2
      -- Whether the last digit is set decides what has been gathered.
      have last :
          (if exponent % 2 = 1 then
            product .exact (some gathered) (some factor) else some gathered) =
            some (gathered * factor ^ (exponent % 2)) := by
        rcases Nat.mod_two_eq_zero_or_one exponent with even | odd
        · rw [even, if_neg (by decide), pow_zero, mul_one]
        · rw [odd, if_pos rfl, pow_one]
          rfl
      have square : product .exact (some factor) (some factor) =
          some (factor * factor) := rfl
      simp only [powerFrom, last, square]
      split
      · next done =>
          have single : exponent % 2 = exponent := by omega
          rw [single]
      · rw [inductionHypothesis _ _ _ half, mul_assoc, ← pow_two, ← pow_mul,
          ← pow_add]
        congr 3
        omega

theorem power_exact (factor : Rat) (exponent : Nat) :
    power .exact (some factor) exponent = some (factor ^ exponent) := by
  have enough : exponent < 2 ^ (Nat.log2 exponent + 1) := Nat.lt_log2_self
  rw [power, powerFrom_exact _ _ _ _ enough, one_mul]

theorem signedPower_exact (factor : Rat) (exponent : Int) :
    signedPower .exact (some factor) exponent = some (factor ^ exponent) := by
  unfold signedPower
  rw [power_exact]
  split
  · next negative =>
      have turned : exponent = -(exponent.natAbs : Int) := by omega
      conv => rhs; rw [turned]
      rw [zpow_neg, zpow_natCast, ← one_div]
      rfl
  · next whole =>
      have kept : exponent = (exponent.natAbs : Int) := by omega
      conv => rhs; rw [kept]
      rw [zpow_natCast]

/-! ## The exponent -/

/-- The exponent follows the attempts up to half of all that can be counted. -/
theorem exponentOf_early
    {attempt : Nat} (positive : 0 < attempt) (early : attempt ≤ 2 ^ 31) :
    exponentOf attempt = (attempt : Int) - 1 := by
  unfold exponentOf
  rw [Int.bmod_def]
  simp only [UInt32.size]
  split <;> omega

/-- Beyond that it is smaller by the number of all attempts. -/
theorem exponentOf_late
    {attempt : Nat} (late : 2 ^ 31 < attempt)
    (countable : attempt < UInt32.size) :
    exponentOf attempt = (attempt : Int) - 1 - 2 ^ 32 := by
  unfold exponentOf
  rw [Int.bmod_def]
  simp only [UInt32.size] at countable ⊢
  split <;> omega

/-! ## The pauses -/

/-- The factor that a finite multiplier means. -/
def leastOne (number : Finite) : Rat := max 1 number.toRat

theorem one_le_leastOne (number : Finite) : 1 ≤ leastOne number :=
  le_max_left _ _

theorem growthFactor_finite (number : Finite) :
    growthFactor (.finite number) = some (leastOne number) := by
  unfold growthFactor leastOne
  dsimp only
  split
  · next small => rw [max_eq_left small.le]
  · next large => rw [max_eq_right (not_lt.mp large)]

/--
The whole milliseconds in the least pause times a power of the factor.
-/
def grownMillis (baseDelay : Duration) (factor : Rat) (exponent : Int) : Nat :=
  ⌊(baseDelay.toMillis : Rat) * factor ^ exponent⌋.toNat

/-- A greater exponent does not make a pause shorter. -/
theorem grownMillis_le
    (baseDelay : Duration) {factor : Rat} (growing : 1 ≤ factor)
    {lower upper : Int} (ordered : lower ≤ upper) :
    grownMillis baseDelay factor lower ≤
      grownMillis baseDelay factor upper := by
  have powers : factor ^ lower ≤ factor ^ upper :=
    zpow_le_zpow_right₀ growing ordered
  exact Int.toNat_le_toNat
    (Int.floor_mono (mul_le_mul_of_nonneg_left powers (Nat.cast_nonneg _)))

/-- The milliseconds of the cap, as many as 64 bits hold. -/
def capMillis (maxDelay : Duration) : Nat :=
  min maxDelay.toMillis (UInt64.size - 1)

theorem ofMillis_capMillis_le (maxDelay : Duration) :
    (Duration.ofMillis (capMillis maxDelay)).nanos ≤ maxDelay.nanos := by
  have below : capMillis maxDelay ≤ maxDelay.nanos / 1000000 :=
    Nat.min_le_left _ _
  exact (Nat.le_div_iff_mul_le (by decide)).mp below

/-- Of two magnitudes the smaller one has the fewer whole milliseconds. -/
theorem wholeMillis_smaller (grown : Rat) (cap : Nat) :
    wholeMillis (smaller (some grown) (some cap)) =
      min ⌊grown⌋.toNat (min cap (UInt64.size - 1)) := by
  have least : (if grown ≤ (cap : Rat) then grown else (cap : Rat)) =
      min grown cap := (min_def _ _).symm
  have floors : ⌊min grown (cap : Rat)⌋ = min ⌊grown⌋ (cap : Int) := by
    rw [Int.floor_mono.map_min, Int.floor_natCast]
  have whole : (min grown (cap : Rat)).floor = ⌊min grown (cap : Rat)⌋ := rfl
  unfold wholeMillis smaller
  dsimp only
  rw [least, whole, floors]
  omega

/-- The pause after an attempt, with exact products. -/
theorem grownDelay_exact
    (baseDelay maxDelay : Duration) (number : Finite) (attempt : Nat) :
    grownDelay .exact baseDelay maxDelay (.finite number) attempt =
      .ofMillis
        (min
          (grownMillis baseDelay (leastOne number) (exponentOf attempt))
          (capMillis maxDelay)) := by
  unfold grownDelay
  dsimp only
  rw [growthFactor_finite, signedPower_exact]
  exact congrArg Duration.ofMillis (wholeMillis_smaller _ _)

/--
What the exact pauses of a growing policy are: the least pause times a power of
the factor up to the cap, in two runs of exponents.
-/
structure Paced
    (baseDelay maxDelay : Duration) (factor : Rat) (pause : Nat → Duration) :
    Prop where
  /-- Up to the attempt `2 ^ 31` the exponent is the attempt less one. -/
  early : ∀ attempt : Nat, 0 < attempt → attempt ≤ 2 ^ 31 →
    pause attempt =
      .ofMillis
        (min (grownMillis baseDelay factor (attempt - 1)) (capMillis maxDelay))
  /-- Beyond it the exponent is smaller by `2 ^ 32`. -/
  late : ∀ attempt : Nat, 2 ^ 31 < attempt → attempt < UInt32.size →
    pause attempt =
      .ofMillis
        (min (grownMillis baseDelay factor (attempt - 1 - 2 ^ 32))
          (capMillis maxDelay))
  /-- No pause is longer than the cap. -/
  capped : ∀ attempt : Nat, attempt < UInt32.size →
    (pause attempt).nanos ≤ maxDelay.nanos
  /-- Pauses grow from attempt to attempt within the first run. -/
  grows : ∀ earlier later : Nat, 0 < earlier → earlier ≤ later →
    later ≤ 2 ^ 31 → (pause earlier).nanos ≤ (pause later).nanos
  /-- They grow within the second run as well. -/
  growsAgain : ∀ earlier later : Nat, 2 ^ 31 < earlier → earlier ≤ later →
    later < UInt32.size → (pause earlier).nanos ≤ (pause later).nanos
  /-- No pause of the second run is longer than one of the first. -/
  drops : ∀ earlier later : Nat, 0 < earlier → earlier ≤ 2 ^ 31 →
    2 ^ 31 < later → later < UInt32.size →
    (pause later).nanos ≤ (pause earlier).nanos

theorem ofMillis_nanos_le {fewer more : Nat} (ordered : fewer ≤ more) :
    (Duration.ofMillis fewer).nanos ≤ (Duration.ofMillis more).nanos :=
  Nat.mul_le_mul_right _ ordered

/-- Exact pauses are ordered as their exponents are. -/
theorem grownDelay_exact_le
    (baseDelay maxDelay : Duration) (number : Finite) {fewer more : Nat}
    (ordered : exponentOf fewer ≤ exponentOf more) :
    (grownDelay .exact baseDelay maxDelay (.finite number) fewer).nanos ≤
      (grownDelay .exact baseDelay maxDelay (.finite number) more).nanos := by
  rw [grownDelay_exact, grownDelay_exact]
  have grown := grownMillis_le baseDelay (one_le_leastOne number) ordered
  exact ofMillis_nanos_le (min_le_min_right _ grown)

/--
The exact pauses of a policy with a finite multiplier grow with the attempts up
to `2 ^ 31` and again beyond them, and stay below the cap throughout.
-/
theorem delayWith_exact_paced
    (maxAttempts : UInt32) (baseDelay maxDelay : Duration) (number : Finite) :
    Paced baseDelay maxDelay (leastOne number)
      (Policy.delayWith .exact
        ⟨maxAttempts, baseDelay, maxDelay, .exponential (.finite number)⟩) := by
  have grown : ∀ attempt : Nat, 0 < attempt →
      Policy.delayWith .exact
          ⟨maxAttempts, baseDelay, maxDelay, .exponential (.finite number)⟩
          attempt =
        grownDelay .exact baseDelay maxDelay (.finite number) attempt :=
    fun attempt positive => if_neg (Nat.ne_of_gt positive)
  constructor
  case early =>
    intro attempt positive few
    rw [grown attempt positive, grownDelay_exact,
      exponentOf_early positive few]
  case late =>
    intro attempt many countable
    rw [grown attempt (by omega), grownDelay_exact,
      exponentOf_late many countable]
  case capped =>
    intro attempt _
    by_cases positive : 0 < attempt
    · rw [grown attempt positive, grownDelay_exact]
      exact Nat.le_trans (ofMillis_nanos_le (Nat.min_le_right _ _))
        (ofMillis_capMillis_le maxDelay)
    · have none : attempt = 0 := by omega
      rw [none]
      exact Nat.zero_le _
  case grows =>
    intro earlier later positive ordered few
    rw [grown earlier positive, grown later (by omega)]
    apply grownDelay_exact_le
    rw [exponentOf_early positive (by omega),
      exponentOf_early (by omega) few]
    omega
  case growsAgain =>
    intro earlier later many ordered countable
    rw [grown earlier (by omega), grown later (by omega)]
    apply grownDelay_exact_le
    rw [exponentOf_late many (by omega), exponentOf_late (by omega) countable]
    omega
  case drops =>
    intro earlier later positive few many countable
    rw [grown earlier positive, grown later (by omega)]
    apply grownDelay_exact_le
    rw [exponentOf_late many countable, exponentOf_early positive few]
    simp only [UInt32.size] at countable
    omega

theorem leastOne_two : leastOne ⟨false, 2 * stepsPerOne⟩ = 2 := by
  have nonzero : (stepsPerOne : Rat) ≠ 0 :=
    Nat.cast_ne_zero.mpr Json.stepsPerOne_pos.ne'
  have two : Finite.toRat ⟨false, 2 * stepsPerOne⟩ = 2 := by
    simp only [Finite.toRat, Rat.mkRat_eq_div, Bool.false_eq_true, if_false]
    push_cast
    exact mul_div_cancel_right₀ 2 nonzero
  rw [leastOne, two, max_eq_right (by norm_num)]

/--
The pauses of the standard policy fall from the cap to nothing where the
exponent turns negative, with exact products and as they are made.
-/
theorem standard_delay_falls :
    Policy.standard.delayWith .exact 2147483648 = .ofMillis 5000 ∧
      Policy.standard.delayWith .exact 2147483649 = .ofMillis 0 ∧
      Policy.standard.delay 2147483648 = .ofMillis 5000 ∧
      Policy.standard.delay 2147483649 = .ofMillis 0 := by
  have exact : ∀ attempt : Nat, 0 < attempt →
      Policy.standard.delayWith .exact attempt =
        .ofMillis
          (min (grownMillis (.ofMillis 100) 2 (exponentOf attempt)) 5000) := by
    intro attempt positive
    have grown : Policy.standard.delayWith .exact attempt =
        grownDelay .exact (.ofMillis 100) (.ofMillis 5000)
          (.finite ⟨false, 2 * stepsPerOne⟩) attempt :=
      if_neg (Nat.ne_of_gt positive)
    rw [grown, grownDelay_exact, leastOne_two]
    rfl
  refine ⟨?_, ?_, by decide +kernel, by decide +kernel⟩
  · -- Six doublings already pass the cap.
    have sixth : grownMillis (.ofMillis 100) 2 6 = 6400 := by
      norm_num [grownMillis, Duration.toMillis, Duration.ofMillis]
      rfl
    have more : grownMillis (.ofMillis 100) 2 6 ≤
        grownMillis (.ofMillis 100) 2 (exponentOf 2147483648) :=
      grownMillis_le _ (by norm_num) (by decide)
    rw [exact _ (by decide), min_eq_right (by omega)]
  · -- Seven halvings already leave less than a millisecond.
    have seventh : grownMillis (.ofMillis 100) 2 (-7) = 0 := by
      norm_num [grownMillis, Duration.toMillis, Duration.ofMillis]
    have fewer : grownMillis (.ofMillis 100) 2 (exponentOf 2147483649) ≤
        grownMillis (.ofMillis 100) 2 (-7) :=
      grownMillis_le _ (by norm_num) (by decide)
    have none : grownMillis (.ofMillis 100) 2 (exponentOf 2147483649) = 0 :=
      Nat.le_zero.mp (seventh ▸ fewer)
    rw [exact _ (by decide), none]
    rfl

/-! ## The pauses that are made -/

/-- Whole numbers of at most 53 binary digits are kept by the rounding. -/
theorem binary64_natCast {count : Nat} (short : count ≤ 2 ^ 53) :
    Rounding.binary64 count = some (count : Rat) := by
  have divides : spacing (count * stepsPerOne) ∣ count * stepsPerOne := by
    -- The scale stays a variable, for its power is too large to be written out.
    obtain ⟨scale, same⟩ : ∃ scale, stepsPerOne = Nat.pow 2 scale := by
      unfold stepsPerOne
      exact ⟨_, rfl⟩
    rw [same]
    exact spacing_dvd_mul_pow short scale
  have kept : nearestSteps (count * stepsPerOne) 1 = count * stepsPerOne := by
    unfold nearestSteps roundHalfEven
    simp only [Nat.div_one, Nat.one_mul, Nat.mod_eq_zero_of_dvd divides,
      Nat.mul_zero, if_pos (spacing_pos _)]
    exact Nat.div_mul_cancel divides
  have word : count ≤ Json.largestWord := by
    have wide : 2 ^ 53 ≤ Json.largestWord := by decide
    exact Nat.le_trans short wide
  have nonzero : (stepsPerOne : Rat) ≠ 0 :=
    Nat.cast_ne_zero.mpr Json.stepsPerOne_pos.ne'
  have rounded : Finite.ofRat? (count : Rat) =
      some ⟨false, count * stepsPerOne⟩ := by
    have whole : Finite.ofRat? (count : Rat) = Finite.ofNat? count := rfl
    rw [whole, Json.ofNat?_word word, kept]
  unfold Rounding.binary64
  rw [rounded, Option.map_some]
  simp only [Finite.toRat, Rat.mkRat_eq_div, Bool.false_eq_true, if_false]
  push_cast
  rw [mul_div_cancel_right₀ _ nonzero]

/-- The smaller of two magnitudes has no more whole milliseconds than a cap. -/
theorem wholeMillis_smaller_le (grown : Option Rat) (cap : Nat) :
    wholeMillis (smaller grown (some (cap : Rat))) ≤ cap := by
  cases grown with
  | some grown =>
      rw [wholeMillis_smaller]
      exact Nat.le_trans (Nat.min_le_right _ _) (Nat.min_le_left _ _)
  | none =>
      have whole : (cap : Rat).floor = cap := Int.floor_natCast (R := Rat) cap
      unfold smaller wholeMillis
      dsimp only
      rw [whole]
      exact Nat.min_le_left _ _

/--
No pause that is made is longer than a cap whose milliseconds have at most 53
binary digits, whatever the multiplier.
-/
theorem delay_nanos_le
    (maxAttempts : UInt32) (baseDelay maxDelay : Duration)
    (multiplier : Binary64) (attempt : Nat)
    (short : maxDelay.toMillis ≤ 2 ^ 53) :
    (Policy.delay
        ⟨maxAttempts, baseDelay, maxDelay, .exponential multiplier⟩
        attempt).nanos ≤
      maxDelay.nanos := by
  unfold Policy.delay Policy.delayWith
  split
  · exact Nat.zero_le _
  · unfold grownDelay
    dsimp only
    rw [binary64_natCast short]
    exact (Nat.le_div_iff_mul_le (by decide)).mp (wholeMillis_smaller_le _ _)

end EventRelay.Retry
