import EventRelay.Proofs.Number.Digits
import Mathlib.Data.List.TakeWhile

/-!
# Numerals

What a setting may be written as is given here by its parts and not by a
reader.  A whole number is digits, which a plus sign may stand before.  A
numeral is a sign, digits, a point with more digits and a power of ten, of
which the digits alone must be written.

The readers of settings accept these texts, with the numbers that they spell,
and no others.
-/

namespace EventRelay.Number

/-! ## Whole numbers -/

/-- The text is digits, behind a plus sign or not, that spell the number. -/
def SpellsWhole (text : String) (value : Nat) : Prop :=
  ∃ digits : List Char,
    (text.toList = digits ∨ text.toList = '+' :: digits) ∧ digits ≠ [] ∧
      (∀ char ∈ digits, char.isDigit = true) ∧
      Nat.ofDigitChars 10 digits 0 = value

theorem readDigits_eq_ok
    {limit start value : Nat} {digits : List Char} (within : start ≤ limit) :
    readDigits limit start digits = .ok value ↔
      (∀ char ∈ digits, char.isDigit = true) ∧
        digitsValue digits start = value ∧ value ≤ limit := by
  induction digits generalizing start with
  | nil =>
      constructor
      · intro read
        cases read
        exact ⟨fun char member => (List.not_mem_nil member).elim, rfl, within⟩
      · rintro ⟨-, rfl, -⟩
        rfl
  | cons char rest induction =>
      have step :
          digitsValue (char :: rest) start =
            digitsValue rest (start * 10 + digitValue char) := rfl
      rw [readDigits, step, List.forall_mem_cons]
      cases digit : char.isDigit with
      | false => simp
      | true =>
          by_cases above : limit < start * 10 + digitValue char
          · -- what is above the limit stays there, however the text goes on
            have later :=
              le_digitsValue rest (start * 10 + digitValue char)
            rw [if_neg (by decide), if_pos above]
            constructor
            · intro read
              cases read
            · rintro ⟨-, rfl, bounded⟩
              omega
          · rw [if_neg (by decide), if_neg above,
              induction (Nat.le_of_not_lt above)]
            simp only [true_and]

/-- A text is a whole number for the reader if it spells one in range. -/
theorem readNatural_eq_ok {limit value : Nat} {text : String} :
    readNatural limit text = .ok value ↔
      SpellsWhole text value ∧ value ≤ limit := by
  have spelled {digits : List Char} :
      readDigits limit 0 digits = .ok value ↔
        (∀ char ∈ digits, char.isDigit = true) ∧
          Nat.ofDigitChars 10 digits 0 = value ∧ value ≤ limit := by
    rw [readDigits_eq_ok (Nat.zero_le limit), digitsValue_eq]
  unfold readNatural SpellsWhole
  split
  next empty =>
      constructor
      · intro read
        cases read
      · rintro ⟨⟨digits, spelling, written, -⟩, -⟩
        rcases spelling with same | same
        · exact (written (same.symm.trans empty)).elim
        · rw [empty] at same
          cases same
  next alone =>
      constructor
      · intro read
        cases read
      · rintro ⟨⟨digits, spelling, written, decimal, -⟩, -⟩
        rw [alone] at spelling
        rcases spelling with rfl | same
        · cases decimal '+' List.mem_cons_self
        · exact (written (List.cons.inj same).2.symm).elim
  next digits more signed =>
      rw [spelled]
      constructor
      · rintro ⟨decimal, value, bounded⟩
        exact ⟨⟨digits, .inr signed, more, decimal, value⟩, bounded⟩
      · rintro ⟨⟨others, spelling, written, decimal, value⟩, bounded⟩
        rw [signed] at spelling
        rcases spelling with rfl | same
        · cases decimal '+' List.mem_cons_self
        · obtain rfl : digits = others := (List.cons.inj same).2
          exact ⟨decimal, value, bounded⟩
  next written alone unsigned =>
      rw [spelled]
      constructor
      · rintro ⟨decimal, value, bounded⟩
        exact ⟨⟨text.toList, .inl rfl, written, decimal, value⟩, bounded⟩
      · rintro ⟨⟨digits, spelling, -, decimal, value⟩, bounded⟩
        rcases spelling with rfl | same
        · exact ⟨decimal, value, bounded⟩
        · exact (unsigned digits same).elim

/-! ## Numerals -/

/-- A sign before a number, which need not be written. -/
inductive Sign where
  | absent
  | plus
  | minus

namespace Sign

/-- A sign as it is written. -/
def text : Sign → List Char
  | .absent => []
  | .plus => ['+']
  | .minus => ['-']

/-- Whether the sign is a minus. -/
def negative : Sign → Bool
  | .absent => false
  | .plus => false
  | .minus => true

/-- The sign that a text begins with, and what follows it. -/
def split : List Char → Sign × List Char
  | '-' :: rest => (.minus, rest)
  | '+' :: rest => (.plus, rest)
  | rest => (.absent, rest)

theorem text_append_split (text : List Char) :
    (split text).1.text ++ (split text).2 = text := by
  unfold split
  split <;> rfl

/-- A sign is split off a text that does not go on with another one. -/
theorem split_text_append
    (sign : Sign) {rest : List Char}
    (unsigned : ∀ char ∈ rest.head?, char ≠ '-' ∧ char ≠ '+') :
    split (sign.text ++ rest) = (sign, rest) := by
  cases sign with
  | plus => rfl
  | minus => rfl
  | absent =>
      show split rest = (.absent, rest)
      unfold split
      split
      next others => exact ((unsigned '-' rfl).1 rfl).elim
      next others => exact ((unsigned '+' rfl).2 rfl).elim
      next => rfl

end Sign

theorem unsigned_of_isDigit
    {char : Char} (digit : char.isDigit = true) : char ≠ '-' ∧ char ≠ '+' := by
  constructor <;> rintro rfl <;> cases digit

/-- A power of ten behind a number: its mark, its sign and its digits. -/
structure Power where
  mark : Char
  sign : Sign
  digits : List Char
  marked : mark = 'e' ∨ mark = 'E'
  written : digits ≠ []
  decimal : ∀ char ∈ digits, char.isDigit = true

namespace Power

/-- A power of ten as it is written. -/
def text (power : Power) : List Char :=
  power.mark :: (power.sign.text ++ power.digits)

/-- The exponent that the sign and the digits spell. -/
def exponent (power : Power) : Int :=
  let magnitude : Nat := Nat.ofDigitChars 10 power.digits 0
  if power.sign.negative then -magnitude else magnitude

end Power

/--
A number in decimal notation.  At least one digit stands before the point or
behind it.
-/
structure Numeral where
  sign : Sign
  whole : List Char
  /-- The digits behind the point, if a point is written. -/
  places : Option (List Char)
  power : Option Power
  written : whole ++ places.getD [] ≠ []
  decimal : ∀ char ∈ whole ++ places.getD [], char.isDigit = true

namespace Numeral

/-- A number as it is written. -/
def text (numeral : Numeral) : List Char :=
  numeral.sign.text ++ (numeral.whole ++
    (numeral.places.elim [] ('.' :: ·) ++ numeral.power.elim [] Power.text))

/-- The binary64 value nearest to the number. -/
def value (numeral : Numeral) : Binary64 :=
  let places := numeral.places.getD []
  .ofDecimal numeral.sign.negative
    (Nat.ofDigitChars 10 (numeral.whole ++ places) 0)
    (numeral.power.elim 0 Power.exponent - places.length)

end Numeral

/-- An exponent is read after the sign has been split off. -/
theorem readExponent_cons (mark : Char) (rest : List Char) :
    readExponent (mark :: rest) =
      if (mark == 'e' || mark == 'E') && !(Sign.split rest).2.isEmpty &&
          (Sign.split rest).2.all Char.isDigit then
        some
          (if (Sign.split rest).1.negative then
            -(digitsValue (Sign.split rest).2 0 : Int)
          else digitsValue (Sign.split rest).2 0)
      else none := by
  unfold Sign.split
  split
  next => rfl
  next => rfl
  next minus plus =>
      rw [readExponent]
      · rfl
      · exact minus
      · exact plus

theorem readExponent_text (power : Option Power) :
    readExponent (power.elim [] Power.text) =
      some (power.elim 0 Power.exponent) := by
  cases power with
  | none => rfl
  | some power =>
      obtain ⟨mark, sign, digits, marked, written, decimal⟩ := power
      have unsigned : ∀ char ∈ digits.head?, char ≠ '-' ∧ char ≠ '+' :=
        fun char first =>
          unsigned_of_isDigit (decimal char (List.mem_of_head? first))
      have shape :
          ((mark == 'e' || mark == 'E') && !digits.isEmpty &&
            digits.all Char.isDigit) = true := by
        simp [marked, written, List.all_eq_true.mpr decimal]
      simp only [Option.elim, Power.text, readExponent_cons,
        Sign.split_text_append sign unsigned, shape, if_true, Power.exponent,
        digitsValue_eq]

theorem exists_power_of_readExponent
    {text : List Char} {exponent : Int}
    (read : readExponent text = some exponent) :
    ∃ power : Option Power, power.elim [] Power.text = text ∧
      power.elim 0 Power.exponent = exponent := by
  cases text with
  | nil =>
      cases read
      exact ⟨none, rfl, rfl⟩
  | cons mark rest =>
      rw [readExponent_cons] at read
      split at read
      next shape =>
          simp only [Bool.and_eq_true, Bool.or_eq_true, beq_iff_eq,
            Bool.not_eq_true', List.isEmpty_eq_false_iff, List.all_eq_true]
            at shape
          obtain ⟨⟨marked, written⟩, decimal⟩ := shape
          refine ⟨some ⟨mark, (Sign.split rest).1, (Sign.split rest).2, marked,
            written, decimal⟩, ?_, ?_⟩
          · exact congrArg (mark :: ·) (Sign.text_append_split rest)
          · rw [digitsValue_eq] at read
            exact Option.some.inj read
      next => cases read

/-! ## Reading a numeral -/

/-- The digits behind a point that a text begins with, and what follows. -/
def splitPlaces : List Char → Option (List Char) × List Char
  | '.' :: rest => (some (spanDigits rest).1, (spanDigits rest).2)
  | rest => (none, rest)

theorem spanDigits_join (text : List Char) :
    (spanDigits text).1 ++ (spanDigits text).2 = text :=
  List.takeWhile_append_dropWhile

theorem isDigit_spanDigits
    (text : List Char) : ∀ char ∈ (spanDigits text).1, char.isDigit = true :=
  fun _ member => List.mem_takeWhile_imp member

theorem splitPlaces_join (text : List Char) :
    (splitPlaces text).1.elim [] ('.' :: ·) ++ (splitPlaces text).2 = text := by
  unfold splitPlaces
  split
  next rest => exact congrArg ('.' :: ·) (spanDigits_join rest)
  next => rfl

theorem isDigit_splitPlaces (text : List Char) :
    ∀ char ∈ (splitPlaces text).1.getD [], char.isDigit = true := by
  unfold splitPlaces
  split
  next rest => exact isDigit_spanDigits rest
  next => exact fun char member => (List.not_mem_nil member).elim

/-- What may stand behind the digits of a numeral: its power of ten. -/
theorem stops_power (power : Option Power) :
    Stops (power.elim [] Power.text) := by
  cases power with
  | none => exact stops_nil
  | some power =>
      refine stops_cons ?_ _
      rcases power.marked with mark | mark <;> rw [mark] <;> rfl

theorem splitPlaces_append
    {places : Option (List Char)} (power : Option Power)
    (decimal : ∀ char ∈ places.getD [], char.isDigit = true) :
    splitPlaces
        (places.elim [] ('.' :: ·) ++ power.elim [] Power.text) =
      (places, power.elim [] Power.text) := by
  cases places with
  | some digits =>
      have split := spanDigits_append decimal (stops_power power)
      show (some (spanDigits (digits ++ _)).1,
        (spanDigits (digits ++ _)).2) = _
      rw [Option.getD_some] at split
      rw [split]
  | none =>
      cases power with
      | none => rfl
      | some power =>
          show splitPlaces (power.mark :: _) = (none, power.mark :: _)
          rcases power.marked with mark | mark <;> rw [mark] <;> rfl

/-- A magnitude is read from its digits and from what follows them. -/
theorem readMagnitude_eq (negative : Bool) (text : List Char) :
    readMagnitude negative text =
      let whole := (spanDigits text).1
      let (places, rest) := splitPlaces (spanDigits text).2
      if whole ++ places.getD [] = [] then none
      else
        (readExponent rest).map fun exponent =>
          .ofDecimal negative (Nat.ofDigitChars 10 (whole ++ places.getD []) 0)
            (exponent - (places.getD []).length) := by
  simp only [← digitsValue_eq, digitsValue_append]
  unfold readMagnitude
  split
  next whole rest same =>
      rw [same]
      split
      next places others split =>
          split at split
          next rest =>
              have pointed :
                  splitPlaces ('.' :: rest) = (some places, others) := by
                rw [splitPlaces, split]
              simp only [pointed, Option.getD_some, List.append_eq_nil_iff,
                Bool.and_eq_true, List.isEmpty_iff]
          next plain =>
              have unpointed : splitPlaces rest = (none, rest) := by
                rw [splitPlaces]
                exact plain
              cases split
              simp only [unpointed, Option.getD_none, List.append_eq_nil_iff,
                Bool.and_eq_true, List.isEmpty_iff]

theorem readWord_ne_finite
    {negative : Bool} {text : List Char} {number : Finite} :
    readWord negative text ≠ some (.finite number) := by
  unfold readWord
  intro read
  dsimp only at read
  split at read
  · cases read
  · split at read <;> cases read

/-- A number is read after its sign has been split off. -/
theorem readBinary64_eq (text : String) :
    readBinary64 text =
      let (sign, magnitude) := Sign.split text.toList
      if text.isEmpty then .error .empty
      else
        match readMagnitude sign.negative magnitude <|>
          readWord sign.negative magnitude with
        | some value => .ok value
        | none => .error .invalid := by
  unfold readBinary64
  generalize text.toList = chars
  split
  next negative magnitude split =>
      split at split
      next =>
          cases split
          rfl
      next =>
          cases split
          rfl
      next minus plus =>
          have plain : Sign.split chars = (.absent, chars) := by
            rw [Sign.split]
            · exact minus
            · exact plus
          cases split
          rw [plain]
          rfl

/-- What is read as a finite number is a numeral. -/
theorem exists_numeral_of_readBinary64
    {text : String} {number : Finite}
    (read : readBinary64 text = .ok (.finite number)) :
    ∃ numeral : Numeral, text.toList = numeral.text ∧
      numeral.value = .finite number := by
  have joined := Sign.text_append_split text.toList
  rw [readBinary64_eq] at read
  generalize Sign.split text.toList = split at joined read
  obtain ⟨sign, magnitude⟩ := split
  have taken :
      readMagnitude sign.negative magnitude = some (.finite number) := by
    dsimp only at read
    split at read
    next => cases read
    next =>
        cases first : readMagnitude sign.negative magnitude with
        | some value =>
            rw [first] at read
            cases read
            rfl
        | none =>
            rw [first] at read
            cases word : readWord sign.negative magnitude with
            | none =>
                rw [word] at read
                cases read
            | some value =>
                rw [word] at read
                cases read
                exact (readWord_ne_finite word).elim
  rw [readMagnitude_eq] at taken
  have front := spanDigits_join magnitude
  have behind := splitPlaces_join (spanDigits magnitude).2
  have decimal := isDigit_splitPlaces (spanDigits magnitude).2
  generalize splitPlaces (spanDigits magnitude).2 = split
    at taken behind decimal
  obtain ⟨places, rest⟩ := split
  dsimp only at taken
  split at taken
  next => cases taken
  next written =>
      obtain ⟨exponent, raised, same⟩ := Option.map_eq_some_iff.mp taken
      obtain ⟨power, spelled, rfl⟩ := exists_power_of_readExponent raised
      refine ⟨⟨sign, (spanDigits magnitude).1, places, power, written, ?_⟩,
        ?_, same⟩
      · intro char member
        rcases List.mem_append.mp member with member | member
        · exact isDigit_spanDigits magnitude char member
        · exact decimal char member
      · show _ = sign.text ++ ((spanDigits magnitude).1 ++
          (places.elim [] ('.' :: ·) ++ power.elim [] Power.text))
        rw [spelled, behind, front]
        exact joined.symm

/-- A numeral is read as its value. -/
theorem readBinary64_numeral
    {text : String} {numeral : Numeral}
    (spelled : text.toList = numeral.text) :
    readBinary64 text = .ok numeral.value := by
  obtain ⟨sign, whole, places, power, written, decimal⟩ := numeral
  have front : ∀ char ∈ whole, char.isDigit = true :=
    fun char member => decimal char (List.mem_append_left _ member)
  have back : ∀ char ∈ places.getD [], char.isDigit = true :=
    fun char member => decimal char (List.mem_append_right _ member)
  have stops :
      Stops (places.elim [] ('.' :: ·) ++ power.elim [] Power.text) := by
    cases places with
    | none => exact stops_power power
    | some digits => exact stops_cons rfl _
  have unsigned :
      ∀ char ∈ (whole ++ (places.elim [] ('.' :: ·) ++
        power.elim [] Power.text)).head?, char ≠ '-' ∧ char ≠ '+' := by
    intro char first
    cases whole with
    | cons digit rest =>
        cases first
        exact unsigned_of_isDigit (front _ List.mem_cons_self)
    | nil =>
        cases places with
        | none => exact (written rfl).elim
        | some digits =>
            cases first
            decide
  have nonempty : text.isEmpty = false := by
    rw [Bool.eq_false_iff]
    intro empty
    rw [String.isEmpty_iff.mp empty] at spelled
    have parts := List.append_eq_nil_iff.mp spelled.symm
    obtain ⟨noWhole, noRest⟩ := List.append_eq_nil_iff.mp parts.2
    cases places with
    | none => exact written (List.append_eq_nil_iff.mpr ⟨noWhole, rfl⟩)
    | some digits => cases noRest
  rw [readBinary64_eq, spelled]
  simp only [Numeral.text, Sign.split_text_append sign unsigned, nonempty,
    readMagnitude_eq, spanDigits_append front stops,
    splitPlaces_append power back, readExponent_text, if_neg written]
  rfl

/-- A text is read as a finite number exactly when it is a numeral of it. -/
theorem readBinary64_eq_finite {text : String} {number : Finite} :
    readBinary64 text = .ok (.finite number) ↔
      ∃ numeral : Numeral, text.toList = numeral.text ∧
        numeral.value = .finite number := by
  constructor
  · exact exists_numeral_of_readBinary64
  · rintro ⟨numeral, spelled, value⟩
    rw [readBinary64_numeral spelled, value]

end EventRelay.Number
