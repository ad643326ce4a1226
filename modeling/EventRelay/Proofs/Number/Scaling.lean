import EventRelay.Json.Scan
import EventRelay.Proofs.Number.Shortest

/-!
# Scaling by powers of ten

A number of at most 64 bits can always be divided by a power of ten.  It can
be multiplied by one when the product stays clear of the largest finite
number; the few products close to it, which are shortest decimals of finite
numbers, are within reach too.
-/

namespace EventRelay.Json

open EventRelay.Number

/-! ## Rounded factors -/

/-- The scale stays a variable, for its power is too large to be written out. -/
theorem exists_stepsPerOne_eq : ∃ scale, stepsPerOne = Nat.pow 2 scale := by
  unfold stepsPerOne
  exact ⟨_, rfl⟩

theorem stepsPerOne_pos : 0 < stepsPerOne := by
  obtain ⟨scale, same⟩ := exists_stepsPerOne_eq
  rw [same]
  exact Nat.pow_pos (by decide)

/--
Where the largest finite number lies.  The powers are too large to be written
out, so what is needed of them is worked out in one place.
-/
private structure LargestStands : Prop where
  word : largestWord * stepsPerOne ≤ largestSteps * 1
  greatest : Nat.pow 10 greatestTens * stepsPerOne ≤ largestSteps * 1
  beyond : 6 * largestSteps < 4 * (Nat.pow 10 (greatestTens + 1) * stepsPerOne)
  bits : Nat.log2 largestSteps = 2097
  room :
    6 * Nat.pow 2 (Nat.log2 largestSteps) + 2 * spacing largestSteps ≤
      4 * largestSteps
  least : spacing 0 ≤ largestSteps

private theorem largest_stands : LargestStands := by
  constructor <;> decide +kernel

/-- A power of ten is at least one when it is rounded. -/
theorem stepsPerOne_le_nearestSteps (tens : Nat) :
    stepsPerOne ≤ nearestSteps (Nat.pow 10 tens * stepsPerOne) 1 := by
  have above : stepsPerOne * 1 ≤ Nat.pow 10 tens * stepsPerOne := by
    rw [Nat.mul_comm]
    exact Nat.mul_le_mul_right _ (Nat.pow_pos (by decide))
  generalize Nat.pow 10 tens * stepsPerOne = product at above ⊢
  obtain ⟨scale, same⟩ := exists_stepsPerOne_eq
  rw [same] at above ⊢
  exact pow_le_nearestSteps Nat.one_pos above

/-- The powers of ten up to the greatest stay finite when they are rounded. -/
theorem nearestSteps_pow_ten_le {tens : Nat} (small : tens ≤ greatestTens) :
    nearestSteps (Nat.pow 10 tens * stepsPerOne) 1 ≤ largestSteps := by
  apply nearestSteps_le_largestSteps Nat.one_pos
  have fewer : Nat.pow 10 tens ≤ Nat.pow 10 greatestTens :=
    Nat.pow_le_pow_right (by decide) small
  exact Nat.le_trans (Nat.mul_le_mul_right _ fewer) largest_stands.greatest

theorem ofRatio?_of_le {negative : Bool} {numerator denominator : Nat}
    (small :
      nearestSteps (numerator * stepsPerOne) denominator ≤ largestSteps) :
    Finite.ofRatio? negative numerator denominator =
      some ⟨negative, nearestSteps (numerator * stepsPerOne) denominator⟩ :=
  if_pos small

theorem ofNat?_pow_ten {tens : Nat} (small : tens ≤ greatestTens) :
    Finite.ofNat? (Nat.pow 10 tens) =
      some ⟨false, nearestSteps (Nat.pow 10 tens * stepsPerOne) 1⟩ :=
  ofRatio?_of_le (nearestSteps_pow_ten_le small)

theorem ofNat?_word {value : Nat} (small : value ≤ largestWord) :
    Finite.ofNat? value =
      some ⟨false, nearestSteps (value * stepsPerOne) 1⟩ := by
  apply ofRatio?_of_le
  apply nearestSteps_le_largestSteps Nat.one_pos
  exact Nat.le_trans (Nat.mul_le_mul_right _ small) largest_stands.word

/-! ## Dividing -/

/-- A number of at least one does not make a dividend larger. -/
theorem scaleDown?_isSome
    {amount right : Finite} (finite : amount.steps ≤ largestSteps)
    (atLeastOne : stepsPerOne ≤ right.steps) :
    ∃ smaller,
      amount.scaleDown? right = some smaller ∧
        smaller.steps ≤ largestSteps := by
  have positive : 0 < right.steps :=
    Nat.lt_of_lt_of_le stepsPerOne_pos atLeastOne
  have small :
      nearestSteps (amount.steps * stepsPerOne) right.steps ≤ largestSteps :=
    nearestSteps_le_largestSteps positive (Nat.mul_le_mul finite atLeastOne)
  exact ⟨_, ofRatio?_of_le small, small⟩

theorem divideByPower_isSome
    {amount : Finite} (finite : amount.steps ≤ largestSteps) {tens : Nat}
    (small : tens ≤ greatestTens) :
    ∃ smaller, divideByPower amount tens = some smaller ∧
      smaller.steps ≤ largestSteps := by
  unfold divideByPower
  rw [ofNat?_pow_ten small, Option.bind_some]
  exact scaleDown?_isSome finite (stepsPerOne_le_nearestSteps tens)

theorem divideByTens_isSome (fuel : Nat) {amount : Finite}
    (finite : amount.steps ≤ largestSteps) (tens : Nat) :
    (divideByTens fuel amount tens).isSome = true := by
  induction fuel generalizing amount tens with
  | zero => rfl
  | succ fuel induction =>
      unfold divideByTens
      split
      · next few =>
          obtain ⟨smaller, scaled, _⟩ := divideByPower_isSome finite few
          rw [scaled]
          rfl
      · obtain ⟨smaller, scaled, bounded⟩ :=
          divideByPower_isSome finite (Nat.le_refl greatestTens)
        rw [scaled, Option.bind_some]
        split
        · rfl
        · exact induction bounded (tens - greatestTens)

/-! ## Multiplying -/

/--
A product that stays clear of the largest finite number through two roundings.
-/
def clearProduct : Nat := 1797693134862315 * Nat.pow 10 293

/--
The exponent of the products that are not clear.  It is never unfolded, for
its power of ten is too large to be written out.
-/
@[irreducible]
def edgeTens : Nat := 292

/--
Where the clear products end.  Between them and the largest finite number there
are eight decimals of seventeen digits, and their products are finite too.
-/
private structure EdgeStands : Prop where
  rounds :
    (Nat.pow 2 53 + 1) * (Nat.pow 2 53 + 1) * (clearProduct * stepsPerOne) ≤
      Nat.pow 2 53 * Nat.pow 2 53 * largestSteps
  clear : clearProduct = 17976931348623150 * Nat.pow 10 edgeTens
  narrow : ∀ tens < edgeTens, Nat.pow 10 17 * Nat.pow 10 tens ≤ clearProduct
  above :
    4 * largestSteps <
      4 * (17976931348623157 * Nat.pow 10 edgeTens * stepsPerOne) +
        2 * spacing largestSteps
  shown :
    shortest .toEven largestSteps = ⟨17976931348623157, (edgeTens : Int)⟩
  products :
    ∀ last < 8,
      nearestSteps ((17976931348623150 + last) * stepsPerOne) 1 *
          nearestSteps (Nat.pow 10 edgeTens * stepsPerOne) 1 ≤
        largestSteps * stepsPerOne

private theorem edge_stands : EdgeStands := by
  constructor <;> decide +kernel

/--
Two rounded factors multiply to a finite number where their exact product is
clear.
-/
theorem rounded_mul_le
    {digits tens : Nat} (clear : digits * Nat.pow 10 tens ≤ clearProduct) :
    nearestSteps (digits * stepsPerOne) 1 *
        nearestSteps (Nat.pow 10 tens * stepsPerOne) 1 ≤
      largestSteps * stepsPerOne := by
  have left := pow_mul_nearestSteps_le (digits * stepsPerOne)
  have right := pow_mul_nearestSteps_le (Nat.pow 10 tens * stepsPerOne)
  have limit := edge_stands.rounds
  generalize nearestSteps (digits * stepsPerOne) 1 = first at left ⊢
  generalize nearestSteps (Nat.pow 10 tens * stepsPerOne) 1 = second at right ⊢
  generalize Nat.pow 10 tens = power at clear right
  generalize Nat.pow 2 53 + 1 = grown at left right limit
  have positive : 0 < Nat.pow 2 53 := Nat.pow_pos (by decide)
  generalize Nat.pow 2 53 = unit at left right limit positive
  generalize stepsPerOne = one at left right limit ⊢
  generalize largestSteps = largest at limit ⊢
  generalize clearProduct = bound at clear limit
  refine Nat.le_of_mul_le_mul_left ?_ (Nat.mul_pos positive positive)
  calc unit * unit * (first * second)
      = unit * first * (unit * second) := by ac_rfl
    _ ≤ grown * (digits * one) * (grown * (power * one)) :=
      Nat.mul_le_mul left right
    _ = digits * power * (grown * grown * (one * one)) := by ac_rfl
    _ ≤ bound * (grown * grown * (one * one)) := Nat.mul_le_mul_right _ clear
    _ = grown * grown * (bound * one) * one := by ac_rfl
    _ ≤ unit * unit * largest * one := Nat.mul_le_mul_right _ limit
    _ = unit * unit * (largest * one) := by ac_rfl

/-- Below the largest finite number there is room for half its spacing. -/
theorem upper_end_le
    {steps : Nat} (held : Representable steps)
    (smaller : steps ≠ largestSteps) :
    4 * steps + 2 * spacing steps + 2 * spacing largestSteps ≤
      4 * largestSteps := by
  have bits := largest_stands.bits
  rcases Nat.lt_or_eq_of_le (log2_le_of_le_largestSteps held.le_largest)
      with few | same
  · obtain ⟨power, same, below, gap⟩ := le_pow_of_log2_lt few
    have room : 6 * power + 2 * spacing largestSteps ≤ 4 * largestSteps := by
      rw [same, ← bits]
      exact largest_stands.room
    clear same
    omega
  · have gap : spacing steps = spacing largestSteps := by
      unfold spacing
      rw [same, bits]
    obtain ⟨multiple, largest⟩ := largestSteps_eq_mul_spacing held.le_largest
    obtain ⟨count, counted⟩ := held.multiple
    have next : (count + 1) * spacing steps ≤ multiple * spacing steps := by
      apply Nat.mul_le_mul_right
      have strict : spacing steps * count < spacing steps * multiple := by
        rw [← counted, Nat.mul_comm, ← largest]
        exact Nat.lt_of_le_of_ne held.le_largest smaller
      exact Nat.lt_of_mul_lt_mul_left strict
    rw [Nat.succ_mul, Nat.mul_comm count, ← counted, ← largest] at next
    omega

/--
The shortest decimal of another finite number, where it is not clear, is one
of six.
-/
theorem edge_digits
    {steps digits tens : Nat} (held : Representable steps)
    (smaller : steps ≠ largestSteps)
    (shown : shortest .toEven steps = ⟨digits, (tens : Int)⟩)
    (beyond : clearProduct < digits * Nat.pow 10 tens) :
    tens = edgeTens ∧ ∃ last < 8, digits = 17976931348623150 + last := by
  obtain ⟨short, _, close⟩ := shortest_stands .toEven steps
  rw [shown] at short close
  unfold Close at close
  rw [decimalSteps_ofNat] at close
  dsimp only at short close
  have room := upper_end_le held smaller
  have above := edge_stands.above
  have upper :
      digits * Nat.pow 10 tens < 17976931348623157 * Nat.pow 10 edgeTens := by
    apply Nat.lt_of_mul_lt_mul_right (a := stepsPerOne)
    omega
  have enough : edgeTens ≤ tens := by
    apply Classical.byContradiction
    intro few
    have product := edge_stands.narrow tens (Nat.not_le.mp few)
    exact absurd beyond
      (Nat.not_lt.mpr (Nat.le_trans (Nat.mul_le_mul_right _ short) product))
  obtain ⟨more, rfl⟩ := Nat.exists_eq_add_of_le enough
  have split :
      Nat.pow 10 (edgeTens + more) = Nat.pow 10 more * Nat.pow 10 edgeTens := by
    rw [Nat.mul_comm]
    exact Nat.pow_add 10 edgeTens more
  rw [split, ← Nat.mul_assoc] at upper beyond
  rw [edge_stands.clear] at beyond
  have low := Nat.lt_of_mul_lt_mul_right beyond
  have high := Nat.lt_of_mul_lt_mul_right upper
  cases more with
  | zero =>
      rw [show Nat.pow 10 0 = 1 from rfl, Nat.mul_one] at low high
      exact ⟨rfl, digits - 17976931348623150, by omega, by omega⟩
  | succ more =>
      rw [pow_ten_succ, Nat.mul_left_comm] at low high
      omega

/--
The decimal that is shown for a finite number can be multiplied out again.
-/
theorem shown_mul_le
    {steps digits tens : Nat} (held : Representable steps)
    (shown : shortest .toEven steps = ⟨digits, (tens : Int)⟩) :
    nearestSteps (digits * stepsPerOne) 1 *
        nearestSteps (Nat.pow 10 tens * stepsPerOne) 1 ≤
      largestSteps * stepsPerOne := by
  by_cases clear : digits * Nat.pow 10 tens ≤ clearProduct
  · exact rounded_mul_le clear
  · by_cases largest : steps = largestSteps
    · rw [largest, edge_stands.shown] at shown
      obtain ⟨rfl, exponent⟩ := Decimal.mk.inj shown
      obtain rfl : tens = edgeTens := (Int.ofNat.inj exponent).symm
      have edge := edge_stands.products 7 (by decide)
      rw [show 17976931348623150 + 7 = 17976931348623157 from rfl] at edge
      exact edge
    · obtain ⟨exponent, last, few, same⟩ :=
        edge_digits held largest shown (Nat.not_le.mp clear)
      rw [exponent, same]
      exact edge_stands.products last few

/-! ## Scaling -/

theorem scaleByTens_isSome_of_neg
    (negative : Bool) {significand : Nat} {exponent : Int}
    (small : significand ≤ largestWord) (below : exponent < 0) :
    (scaleByTens negative significand exponent).isSome = true := by
  have rounded := ofNat?_word small
  have finite := (representable_of_ofRatio? Nat.one_pos rounded).le_largest
  unfold scaleByTens
  rw [rounded, Option.bind_some, if_pos below]
  apply divideByTens_isSome
  exact finite

/--
A nonzero decimal that is shown for a finite number has a finite power of ten.
-/
theorem shown_tens_le
    {steps digits tens : Nat} (finite : steps ≤ largestSteps)
    (nonzero : digits ≠ 0) (close : Close steps digits (tens : Int)) :
    tens ≤ greatestTens := by
  apply Classical.byContradiction
  intro many
  have power : Nat.pow 10 (greatestTens + 1) ≤ Nat.pow 10 tens :=
    Nat.pow_le_pow_right (by decide) (Nat.not_le.mp many)
  have product : Nat.pow 10 (greatestTens + 1) * stepsPerOne ≤
      digits * Nat.pow 10 tens * stepsPerOne := by
    apply Nat.mul_le_mul_right
    exact Nat.le_trans power (Nat.le_mul_of_pos_left _
      (Nat.pos_of_ne_zero nonzero))
  have gap : spacing steps ≤ largestSteps := by
    by_cases zero : steps = 0
    · rw [zero]
      exact largest_stands.least
    · exact Nat.le_trans (spacing_le (Nat.pos_of_ne_zero zero)) finite
  have above := largest_stands.beyond
  unfold Close at close
  rw [decimalSteps_ofNat, Nat.mul_one] at close
  dsimp only at close
  omega

/--
The decimal that is shown for a finite number scales to a finite number again.
-/
theorem scaleByTens_isSome_of_shown
    (negative : Bool) {steps : Nat} (held : Representable steps) :
    (scaleByTens negative (shortest .toEven steps).digits
      (shortest .toEven steps).exponent).isSome = true := by
  obtain ⟨short, _, close⟩ := shortest_stands .toEven steps
  obtain ⟨⟨digits, exponent⟩, shown⟩ : ∃ decimal,
    shortest .toEven steps = decimal := ⟨_, rfl⟩
  rw [shown] at short close ⊢
  dsimp only at short close ⊢
  have word : digits ≤ largestWord := Nat.le_trans short (by decide)
  by_cases below : exponent < 0
  · exact scaleByTens_isSome_of_neg negative word below
  · obtain ⟨tens, rfl⟩ := Int.eq_ofNat_of_zero_le (Int.not_lt.mp below)
    have rounded := ofNat?_word word
    unfold scaleByTens
    rw [rounded, Option.bind_some, if_neg below]
    dsimp only
    split
    · rfl
    · next nonzero =>
        have some : digits ≠ 0 := by
          rintro rfl
          apply nonzero
          rw [Nat.zero_mul]
          rfl
        have few := shown_tens_le held.le_largest some close
        rw [if_pos (Int.ofNat_le.mpr few), Int.toNat_natCast,
          ofNat?_pow_ten few, Option.bind_some]
        have product := shown_mul_le held shown
        have finite : nearestSteps
            (nearestSteps (digits * stepsPerOne) 1 *
              nearestSteps (Nat.pow 10 tens * stepsPerOne) 1 * stepsPerOne)
            (stepsPerOne * stepsPerOne) ≤ largestSteps := by
          apply nearestSteps_le_largestSteps
            (Nat.mul_pos stepsPerOne_pos stepsPerOne_pos)
          rw [← Nat.mul_assoc largestSteps]
          exact Nat.mul_le_mul_right _ product
        exact Option.isSome_of_eq_some (ofRatio?_of_le finite)

/-! ## Every result is representable -/

theorem representable_divideByPower
    {amount result : Finite} {tens : Nat} (small : tens ≤ greatestTens)
    (divided : divideByPower amount tens = some result) :
    Representable result.steps := by
  unfold divideByPower at divided
  rw [ofNat?_pow_ten small, Option.bind_some] at divided
  refine representable_of_ofRatio? ?_ divided
  exact Nat.lt_of_lt_of_le stepsPerOne_pos
    (stepsPerOne_le_nearestSteps tens)

theorem representable_divideByTens
    (fuel : Nat) {amount result : Finite} {tens : Nat}
    (held : Representable amount.steps)
    (divided : divideByTens fuel amount tens = some result) :
    Representable result.steps := by
  induction fuel generalizing amount tens with
  | zero =>
      cases divided
      exact held
  | succ fuel induction =>
      unfold divideByTens at divided
      split at divided
      · next few => exact representable_divideByPower few divided
      · obtain ⟨smaller, scaled, divided⟩ := Option.bind_eq_some_iff.mp divided
        have next :=
          representable_divideByPower (Nat.le_refl greatestTens) scaled
        split at divided
        · cases divided
          exact next
        · exact induction next divided

theorem representable_scaleByTens
    {negative : Bool} {significand : Nat} {exponent : Int} {result : Finite}
    (scaled : scaleByTens negative significand exponent = some result) :
    Representable result.steps := by
  unfold scaleByTens at scaled
  obtain ⟨magnitude, rounded, scaled⟩ := Option.bind_eq_some_iff.mp scaled
  have held : Representable magnitude.steps :=
    representable_of_ofRatio? Nat.one_pos rounded
  dsimp only at scaled
  split at scaled
  · refine representable_divideByTens 4 ?_ scaled
    exact held
  · split at scaled
    · cases scaled
      exact held
    · split at scaled
      · obtain ⟨power, _, multiplied⟩ := Option.bind_eq_some_iff.mp scaled
        exact representable_of_ofRatio?
          (Nat.mul_pos stepsPerOne_pos stepsPerOne_pos) multiplied
      · cases scaled

end EventRelay.Json
