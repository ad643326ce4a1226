import EventRelay.Proofs.Json.Number

/-!
# Written floats read again

A float is laid out in one of four ways: as a whole number followed by a point
and a zero, with a point between its digits, with a point before them, or with
an exponent.  Each of them is scanned into parts whose digits fit 64 bits and
whose scale is a negative power of ten, or else they are the digits and the
exponent of the shortest decimal.
-/

namespace EventRelay.Json

open EventRelay.Number

/-- All digits of the parts of a number. -/
def NumberParts.digits (parts : NumberParts) : List Char :=
  parts.whole ++ parts.places.getD []

/-- The power of ten that the digits of the parts of a number are scaled by. -/
def NumberParts.scale (parts : NumberParts) : Int :=
  parts.exponent.getD 0 - ((parts.places.getD []).length : Int)

/-- Parts that a written decimal is scanned into. -/
structure NumberParts.Shows (parts : NumberParts) (decimal : Decimal) :
    Prop where
  plain : parts.Plain
  marked : parts.places.isSome = true ∨ parts.exponent.isSome = true
  small : digitsValue parts.digits 0 ≤ largestWord
  scaled : parts.scale < 0 ∨
    digitsValue parts.digits 0 = decimal.digits ∧ parts.scale = decimal.exponent

/--
Digits that stand for a number that is not zero, and more digits behind them.
-/
theorem numeral_append
    {value : Nat} (nonzero : value ≠ 0) {more : List Char}
    (decimal : ∀ char ∈ more, char.isDigit = true) :
    Numeral (Nat.toDigits 10 value ++ more) := by
  obtain ⟨first, rest, spelled, _, zero⟩ := toDigits_cons value
  refine ⟨?_, first, rest ++ more, by rw [spelled, List.cons_append],
    fun isZero => absurd (zero isZero) nonzero⟩
  intro char member
  rcases List.mem_append.mp member with first | later
  · exact isDigit_toDigits first
  · exact decimal char later

theorem isDigit_zeros
    {count : Nat} {char : Char} (member : char ∈ List.replicate count '0') :
    char.isDigit = true := by
  rw [(List.mem_replicate.mp member).2]
  rfl

/-- A whole number, followed by a point and a zero. -/
theorem shows_whole {digits count : Nat} (zero : digits = 0 → count = 0)
    (short : (Nat.toDigits 10 digits).length + count ≤ 16) :
    NumberParts.Shows
      ⟨Nat.toDigits 10 digits ++ List.replicate count '0', some ['0'], none⟩
      ⟨digits, (count : Int)⟩ := by
  refine ⟨⟨?_, ?_⟩, .inl rfl, ?_, .inl (by simp [NumberParts.scale])⟩
  · by_cases isZero : digits = 0
    · rw [zero isZero, List.replicate_zero, List.append_nil]
      exact numeral_toDigits digits
    · exact numeral_append isZero fun char member => isDigit_zeros member
  · intro places same
    cases same
    exact ⟨List.cons_ne_nil _ _,
      fun char member => @isDigit_zeros 1 char member⟩
  · have inside : digits * Nat.pow 10 count < Nat.pow 10 16 := by
      have below := Nat.mul_lt_mul_of_pos_right (lt_pow_length_toDigits digits)
        (Nat.pow_pos (by decide) : 0 < Nat.pow 10 count)
      have joined := Nat.pow_add 10 (Nat.toDigits 10 digits).length count
      have wider := Nat.pow_le_pow_right (by decide : 0 < 10) short
      rw [joined] at wider
      exact Nat.lt_of_lt_of_le below wider
    have value : digitsValue (NumberParts.digits
        ⟨Nat.toDigits 10 digits ++ List.replicate count '0', some ['0'], none⟩)
          0 =
          digits * Nat.pow 10 count * 10 := by
      unfold NumberParts.digits
      rw [digitsValue_append, digitsValue_append, digitsValue_toDigits,
        digitsValue_zeros]
      rfl
    rw [value]
    have limit : Nat.pow 10 16 * 10 ≤ largestWord := by decide
    omega

/-- A point between the digits. -/
theorem shows_inside
    {digits count : Nat} (short : digits ≤ Nat.pow 10 17)
    (positive : 0 < count) (inside : count < (Nat.toDigits 10 digits).length) :
    NumberParts.Shows
      ⟨(Nat.toDigits 10 digits).take ((Nat.toDigits 10 digits).length - count),
        some ((Nat.toDigits 10 digits).drop
          ((Nat.toDigits 10 digits).length - count)), none⟩
      ⟨digits, -(count : Int)⟩ := by
  have before : 0 < (Nat.toDigits 10 digits).length - count := by omega
  have after : ((Nat.toDigits 10 digits).drop
      ((Nat.toDigits 10 digits).length - count)).length = count := by
    rw [List.length_drop]
    omega
  refine ⟨⟨⟨?_, ?_⟩, ?_⟩, .inl rfl, ?_, .inl ?_⟩
  · intro char member
    exact isDigit_toDigits (List.mem_of_mem_take member)
  · obtain ⟨first, rest, spelled, alone⟩ := (numeral_toDigits digits).leading
    rw [spelled] at before inside ⊢
    obtain ⟨kept, same⟩ := Nat.exists_eq_add_of_lt before
    rw [same, Nat.zero_add, List.take_succ_cons]
    refine ⟨first, rest.take kept, rfl, ?_⟩
    intro zero
    rw [alone zero, List.take_nil]
  · intro places same
    cases same
    refine ⟨List.ne_nil_of_length_pos (by omega), ?_⟩
    intro char member
    exact isDigit_toDigits (List.mem_of_mem_drop member)
  · unfold NumberParts.digits
    rw [Option.getD_some, List.take_append_drop, digitsValue_toDigits]
    exact Nat.le_trans short (by decide)
  · unfold NumberParts.scale
    rw [Option.getD_some, after, Option.getD_none]
    omega

/-- A point before the digits. -/
theorem shows_below
    {digits : Nat} (short : digits ≤ Nat.pow 10 17) (zeros : Nat)
    (exponent : Int) :
    NumberParts.Shows
      ⟨['0'], some (List.replicate zeros '0' ++ Nat.toDigits 10 digits), none⟩
      ⟨digits, exponent⟩ := by
  obtain ⟨first, rest, spelled, _⟩ := toDigits_cons digits
  refine ⟨⟨⟨?_, '0', [], rfl, fun _ => rfl⟩, ?_⟩, .inl rfl, ?_, .inl ?_⟩
  · intro char member
    exact @isDigit_zeros 1 char member
  · intro places same
    cases same
    refine ⟨by simp [spelled], ?_⟩
    intro char member
    rcases List.mem_append.mp member with zero | digit
    · exact isDigit_zeros zero
    · exact isDigit_toDigits digit
  · have value : digitsValue (NumberParts.digits
        ⟨['0'], some (List.replicate zeros '0' ++ Nat.toDigits 10 digits),
          none⟩) 0 =
          digits := by
      unfold NumberParts.digits
      rw [Option.getD_some, digitsValue_append, digitsValue_append,
        show digitsValue ['0'] 0 = 0 from rfl, digitsValue_zeros, Nat.zero_mul,
        digitsValue_toDigits]
    rw [value]
    exact Nat.le_trans short (by decide)
  · unfold NumberParts.scale
    rw [Option.getD_none, Option.getD_some, List.length_append, spelled,
      List.length_cons]
    omega

/--
An exponent behind the digits, of which all but the first stand behind a
point.
-/
theorem shows_scientific
    {digits : Nat} (short : digits ≤ Nat.pow 10 17) {exponent : Int}
    {first : Char} {rest : List Char}
    (spelled : Nat.toDigits 10 digits = first :: rest)
    (places : Option (List Char)) (kept : places.getD [] = rest)
    (nonempty : places ≠ some []) :
    NumberParts.Shows ⟨[first], places, some (exponent + (rest.length : Int))⟩
      ⟨digits, exponent⟩ := by
  have decimal : ∀ char ∈ first :: rest, char.isDigit = true := by
    intro char member
    exact isDigit_toDigits (spelled ▸ member)
  have value : digitsValue (NumberParts.digits
      ⟨[first], places, some (exponent + (rest.length : Int))⟩) 0 = digits := by
    unfold NumberParts.digits
    rw [kept]
    show digitsValue (first :: rest) 0 = digits
    rw [← spelled, digitsValue_toDigits]
  refine ⟨⟨⟨?_, first, [], rfl, fun _ => rfl⟩, ?_⟩, .inr rfl, ?_,
    .inr ⟨value, ?_⟩⟩
  · intro char member
    rw [List.mem_singleton.mp member]
    exact decimal first List.mem_cons_self
  · rintro written same
    cases same
    obtain rfl : written = rest := kept
    refine ⟨fun empty => nonempty (congrArg some empty), ?_⟩
    intro char member
    exact decimal char (List.mem_cons_of_mem _ member)
  · rw [value]
    exact Nat.le_trans short (by decide)
  · unfold NumberParts.scale
    rw [kept, Option.getD_some]
    exact Int.add_sub_cancel exponent _

/-- However a decimal is laid out, its text shows it. -/
theorem ofDecimal_shows
    {decimal : Decimal} (short : decimal.digits ≤ Nat.pow 10 17)
    (zero : decimal.digits = 0 → decimal.exponent = 0) :
    ∃ parts : NumberParts,
      parts.Shows decimal ∧ Layout.json.ofDecimal decimal = parts.text := by
  obtain ⟨digits, exponent⟩ := decimal
  dsimp only at short zero
  unfold Layout.ofDecimal
  dsimp only
  obtain ⟨first, rest, spelled, _⟩ := toDigits_cons digits
  split
  · next positional =>
      have leading :
          -5 ≤ exponent + ((Nat.toDigits 10 digits).length : Int) - 1 ∧
            exponent + ((Nat.toDigits 10 digits).length : Int) - 1 < 16 := by
        simpa [Layout.json] using positional
      unfold Layout.placePoint
      split
      · next whole =>
          obtain ⟨count, rfl⟩ := Int.eq_ofNat_of_zero_le whole
          refine ⟨_, shows_whole (by omega) (by omega), ?_⟩
          simp [NumberParts.text, placesText, exponentText, Layout.json]
      · next fraction =>
          obtain ⟨count, rfl⟩ : ∃ count : Nat, exponent = -(count : Int) :=
            ⟨(-exponent).toNat, by omega⟩
          rw [Int.neg_neg, Int.toNat_natCast]
          dsimp only
          split
          · next inside =>
              refine ⟨_, shows_inside short (by omega) inside, ?_⟩
              simp [NumberParts.text, placesText, exponentText]
          · refine ⟨_, shows_below short
              (count - (Nat.toDigits 10 digits).length) _, ?_⟩
            simp [NumberParts.text, placesText, exponentText]
  · have leading : exponent + ((Nat.toDigits 10 digits).length : Int) - 1 =
        exponent + (rest.length : Int) := by
      rw [spelled, List.length_cons]
      omega
    rw [leading]
    unfold Layout.scientific
    cases rest with
    | nil =>
        refine ⟨_, shows_scientific short spelled none rfl (by decide), ?_⟩
        simp [NumberParts.text, placesText, exponentText, spelled]
    | cons second rest =>
        refine ⟨_, shows_scientific short spelled (some (second :: rest)) rfl
          (by simp), ?_⟩
        simp [NumberParts.text, placesText, exponentText, spelled]

/-! ## Numbers that a text can give -/

/-- Whole numbers of 64 bits, signed or not, and representable floats. -/
def Number.Sound : Number → Prop
  | .integer value => -0x8000000000000000 ≤ value ∧ value < 0x10000000000000000
  | .float value => Representable value.steps

/-- The parts that show a representable number have a value. -/
theorem value?_isSome
    {parts : NumberParts} {steps : Nat} (held : Representable steps)
    (shows : parts.Shows (shortest .toEven steps)) (negative : Bool) :
    ∃ again, parts.value? negative = some (.float again) := by
  have finite :
      (scaleByTens negative (digitsValue parts.digits 0) parts.scale).isSome =
        true := by
    rcases shows.scaled with below | ⟨digits, exponent⟩
    · exact scaleByTens_isSome_of_neg negative shows.small below
    · rw [digits, exponent]
      exact scaleByTens_isSome_of_shown negative held
  obtain ⟨again, scaled⟩ := Option.isSome_iff_exists.mp finite
  refine ⟨again, ?_⟩
  rw [value?_float shows.marked shows.small]
  exact congrArg (Option.map Number.float) scaled

/-- A float is written as parts that show its shortest decimal. -/
theorem print_float (value : Finite) :
    ∃ parts : NumberParts,
      parts.Shows (shortest .toEven value.steps) ∧
        (Number.float value).print =
          signText value.negative ++ parts.text := by
  obtain ⟨short, zero, _⟩ := shortest_stands .toEven value.steps
  obtain ⟨parts, shows, text⟩ := ofDecimal_shows short zero
  refine ⟨parts, shows, ?_⟩
  show (if value.negative then _ else _) = _
  rw [show Layout.json.tie = .toEven from rfl, text]
  cases value.negative with
  | true => rfl
  | false => rfl

/-- Every number is written as parts behind a sign. -/
theorem print_plain (number : Number) :
    ∃ (negative : Bool) (parts : NumberParts),
      parts.Plain ∧ number.print = signText negative ++ parts.text := by
  cases number with
  | integer value =>
      exact ⟨_, _, plain_toDigits value.natAbs, printInteger_eq value⟩
  | float value =>
      obtain ⟨parts, shows, text⟩ := print_float value
      exact ⟨value.negative, parts, shows.plain, text⟩

/-- A number is written as parts that have a value. -/
theorem print_parts {number : Number} (sound : number.Sound) :
    ∃ (negative : Bool) (parts : NumberParts) (again : Number),
      parts.Plain ∧ number.print = signText negative ++ parts.text ∧
        parts.value? negative = some again := by
  cases number with
  | integer value =>
      exact ⟨_, _, _, plain_toDigits value.natAbs, printInteger_eq value,
        value?_toDigits sound.1 sound.2⟩
  | float value =>
      obtain ⟨parts, shows, text⟩ := print_float value
      obtain ⟨again, read⟩ := value?_isSome sound shows value.negative
      exact ⟨value.negative, parts, .float again, shows.plain, text, read⟩

/-- What is read from the text of a number is the number itself. -/
def Number.ReadsBack (number : Number) : Prop :=
  readNumber number.print = .ok (number, [])

/--
The text of a number is accepted again wherever a value may end, and gives the
number back if it does so by itself.
-/
theorem readNumber_print {number : Number} (sound : number.Sound) :
    ∃ again,
      (∀ rest,
        Ends rest →
          readNumber (number.print ++ rest) = .ok (again, rest)) ∧
        (number.ReadsBack → again = number) := by
  obtain ⟨negative, parts, again, plain, text, value⟩ := print_parts sound
  have reads : ∀ rest, Ends rest →
      readNumber (number.print ++ rest) = .ok (again, rest) := by
    intro rest ends
    rw [text]
    exact readNumber_append plain value ends
  refine ⟨again, reads, ?_⟩
  intro back
  have alone := reads [] ends_nil
  rw [List.append_nil, show readNumber number.print = _ from back] at alone
  cases alone
  rfl

theorem readNumber_printInteger
    {value : Int} (low : -0x8000000000000000 ≤ value)
    (high : value < 0x10000000000000000) {rest : List Char}
    (ends : Ends rest) :
    readNumber (printInteger value ++ rest) = .ok (.integer value, rest) := by
  rw [printInteger_eq]
  exact readNumber_append (plain_toDigits value.natAbs)
    (value?_toDigits low high) ends

/-- The text of the parts of a number begins with a digit. -/
theorem NumberParts.Plain.text_cons
    {parts : NumberParts} (plain : parts.Plain) :
    ∃ first rest, parts.text = first :: rest ∧ first.isDigit = true := by
  obtain ⟨first, rest, spelled, _⟩ := plain.whole.leading
  refine
    ⟨first, rest ++ placesText parts.places ++ exponentText parts.exponent, ?_,
      plain.whole.decimal first (spelled ▸ List.mem_cons_self)⟩
  unfold NumberParts.text
  rw [spelled]
  rfl

theorem print_number_cons (number : Number) :
    ∃ first rest,
      number.print = first :: rest ∧ (first = '-' ∨ first.isDigit = true) := by
  obtain ⟨negative, parts, plain, text⟩ := print_plain number
  obtain ⟨first, rest, spelled, digit⟩ := plain.text_cons
  rw [text, spelled]
  cases negative with
  | true => exact ⟨'-', first :: rest, rfl, .inl rfl⟩
  | false => exact ⟨first, rest, rfl, .inr digit⟩

/-! ## Numbers that were read -/

theorem gather_le
    {digits : List Char} {start : Nat} (small : start ≤ largestWord) :
    (gather start digits).1 ≤ largestWord := by
  induction digits generalizing start with
  | nil => exact small
  | cons digit digits induction =>
      unfold gather
      dsimp only
      split
      · next fits => exact induction fits
      · exact small

theorem sound_of_value?
    {negative : Bool} {parts : NumberParts} {number : Number}
    (value : parts.value? negative = some number) :
    number.Sound := by
  have small : (gather 0 parts.whole).1 ≤ largestWord :=
    gather_le (Nat.zero_le _)
  have limit : largestWord = 0xFFFFFFFFFFFFFFFF := rfl
  unfold NumberParts.value? at value
  dsimp only at value
  split at value
  · next whole =>
      cases value
      obtain ⟨_, _, _, sign⟩ := whole
      show -0x8000000000000000 ≤ (if negative = true then _ else _) ∧
        (if negative = true then _ else _) < 0x10000000000000000
      cases negative with
      | true =>
          simp at sign ⊢
          omega
      | false =>
          simp
          omega
  · obtain ⟨result, scaled, same⟩ := Option.map_eq_some_iff.mp value
    cases same
    exact representable_scaleByTens scaled

theorem sound_of_readUnsigned
    {negative : Bool} {input rest : List Char} {number : Number}
    (read : readUnsigned negative input = .ok (number, rest)) :
    number.Sound := by
  unfold readUnsigned at read
  obtain ⟨⟨parts, after⟩, _, read⟩ := bind_eq_ok.mp read
  dsimp only at read
  split at read
  · next amount value =>
      cases read
      exact sound_of_value? value
  · cases read

theorem sound_of_readNumber {input rest : List Char} {number : Number}
    (read : readNumber input = .ok (number, rest)) : number.Sound := by
  unfold readNumber at read
  split at read
  · exact sound_of_readUnsigned read
  · exact sound_of_readUnsigned read

end EventRelay.Json
