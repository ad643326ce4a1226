import EventRelay.Json.Value
import EventRelay.Proofs.Number.Digits
import EventRelay.Proofs.Number.Scaling

/-!
# Written numbers read again

Numbers come from a text, so a whole number fits 64 bits and a float is
representable.  The text of such a number is accepted again wherever a value
may end.  A float that is read again need not be the one that was written:
digits are scaled by a rounded power of ten.
-/

namespace EventRelay.Json

open EventRelay.Number

/-! ## Steps that may fail -/

section Steps

variable {α β fault : Type}

theorem ok_bind (value : α) (next : α → Except fault β) :
    ((.ok value : Except fault α) >>= next) = next value :=
  rfl

theorem bind_eq_ok
    {first : Except fault α} {next : α → Except fault β} {result : β} :
    first >>= next = .ok result ↔
      ∃ value, first = .ok value ∧ next value = .ok result := by
  cases first with
  | error fault =>
      constructor
      · intro never
        cases never
      · rintro ⟨_, never, _⟩
        cases never
  | ok value =>
      constructor
      · intro same
        exact ⟨value, rfl, same⟩
      · rintro ⟨_, same, after⟩
        cases same
        exact after

theorem map_eq_ok {first : Except fault α} {next : α → β} {result : β} :
    first.map next = .ok result ↔
      ∃ value, first = .ok value ∧ next value = result := by
  cases first with
  | error fault =>
      constructor
      · intro never
        cases never
      · rintro ⟨_, never, _⟩
        cases never
  | ok value =>
      constructor
      · intro same
        cases same
        exact ⟨value, rfl, rfl⟩
      · rintro ⟨_, same, rfl⟩
        cases same
        rfl

end Steps

/-! ## Where a value may end -/

/--
A text in which a value may have ended: nothing, a comma or a closing bracket
follows.
-/
def Ends (rest : List Char) : Prop :=
  ∀ char ∈ rest.head?, char = ',' ∨ char = ']' ∨ char = '\x7d'

theorem ends_nil : Ends [] := by
  intro char member
  cases member

theorem Ends.stops {rest : List Char} (ends : Ends rest) : Stops rest := by
  intro char member
  rcases ends char member with rfl | rfl | rfl
  · rfl
  · rfl
  · rfl

/-- Where a value may end no exponent begins. -/
theorem Ends.noExponent
    {char : Char} {rest : List Char} (ends : Ends (char :: rest)) :
    ¬(char = 'e' ∨ char = 'E') := by
  rcases ends char rfl with rfl | rfl | rfl
  · decide
  · decide
  · decide

/-! ## The parts of a number -/

/-- Digits that may stand before the point: a leading zero stands alone. -/
structure Numeral (whole : List Char) : Prop where
  decimal : ∀ char ∈ whole, char.isDigit = true
  leading : ∃ first rest, whole = first :: rest ∧ (first = '0' → rest = [])

/-- The text of the places after the point. -/
def placesText : Option (List Char) → List Char
  | none => []
  | some digits => '.' :: digits

/-- The text of a signed exponent. -/
def exponentText : Option Int → List Char
  | none => []
  | some exponent =>
    'e' :: (if exponent < 0 then '-' else '+') ::
      Nat.toDigits 10 exponent.natAbs

/-- The text of the parts of a number. -/
def NumberParts.text (parts : NumberParts) : List Char :=
  parts.whole ++ placesText parts.places ++ exponentText parts.exponent

/-- The parts of a number that can be read. -/
structure NumberParts.Plain (parts : NumberParts) : Prop where
  whole : Numeral parts.whole
  places :
      ∀ digits ∈ parts.places,
        digits ≠ [] ∧ ∀ char ∈ digits, char.isDigit = true

theorem scanDigits_append {digits rest : List Char} (some : digits ≠ [])
    (decimal : ∀ char ∈ digits, char.isDigit = true) (stops : Stops rest) :
    scanDigits (digits ++ rest) = .ok (digits, rest) := by
  unfold scanDigits
  rw [spanDigits_append decimal stops]
  cases digits with
  | nil => exact absurd rfl some
  | cons first digits => rfl

theorem scanWhole_append
    {whole rest : List Char} (numeral : Numeral whole) (stops : Stops rest) :
    scanWhole (whole ++ rest) = .ok (whole, rest) := by
  obtain ⟨first, others, rfl, alone⟩ := numeral.leading
  have plain :=
    scanDigits_append (List.cons_ne_nil first others) numeral.decimal stops
  by_cases zero : first = '0'
  · obtain rfl := alone zero
    subst zero
    cases rest with
    | nil => exact plain
    | cons next rest =>
        have mark : next.isDigit = false := stops next rfl
        unfold scanWhole
        simp only [List.cons_append, List.nil_append, mark, Bool.false_eq_true,
          if_false]
  · unfold scanWhole
    split
    · next same => exact absurd (List.cons.inj same).1 zero
    · exact plain

theorem scanPlaces_append
    {places : Option (List Char)} {rest : List Char}
    (plain :
      ∀ digits ∈ places, digits ≠ [] ∧ ∀ char ∈ digits, char.isDigit = true)
    (stops : Stops rest) (noPoint : rest.head? ≠ some '.') :
    scanPlaces (placesText places ++ rest) = .ok (places, rest) := by
  cases places with
  | none =>
      unfold scanPlaces placesText
      rw [List.nil_append]
      split
      · exact absurd rfl noPoint
      · rfl
  | some digits =>
      obtain ⟨some, decimal⟩ := plain digits rfl
      show (scanDigits (digits ++ rest)).map _ = _
      rw [scanDigits_append some decimal stops]
      rfl

theorem scanSignedDigits_append
    (exponent : Int) {rest : List Char} (stops : Stops rest) :
    scanSignedDigits
        ((if exponent < 0 then '-' else '+') ::
          (Nat.toDigits 10 exponent.natAbs ++ rest)) =
      .ok (exponent, rest) := by
  obtain ⟨first, others, spelled, _⟩ := toDigits_cons exponent.natAbs
  have digits := scanDigits_append (List.cons_ne_nil first others)
    (fun char member => isDigit_toDigits (spelled ▸ member)) stops
  rw [← spelled] at digits
  by_cases below : exponent < 0
  · rw [if_pos below]
    show (scanDigits (Nat.toDigits 10 exponent.natAbs ++ rest)).map _ = _
    rw [digits]
    show Except.ok
      (-(digitsValue (Nat.toDigits 10 exponent.natAbs) 0 : Int), rest) = _
    rw [digitsValue_toDigits,
      ← Int.eq_neg_natAbs_of_nonpos (Int.le_of_lt below)]
  · rw [if_neg below]
    show (scanDigits (Nat.toDigits 10 exponent.natAbs ++ rest)).map _ = _
    rw [digits]
    show Except.ok
      ((digitsValue (Nat.toDigits 10 exponent.natAbs) 0 : Int), rest) = _
    rw [digitsValue_toDigits, Int.natAbs_of_nonneg (Int.not_lt.mp below)]

theorem scanExponent_append
    (exponent : Option Int) {rest : List Char} (ends : Ends rest) :
    scanExponent (exponentText exponent ++ rest) = .ok (exponent, rest) := by
  cases exponent with
  | none =>
      unfold scanExponent exponentText
      rw [List.nil_append]
      cases rest with
      | nil => rfl
      | cons char rest =>
          simp only [if_neg ends.noExponent]
  | some exponent =>
      show (scanSignedDigits
        ((if exponent < 0 then '-' else '+') ::
          (Nat.toDigits 10 exponent.natAbs ++ rest))).map _ = _
      rw [scanSignedDigits_append exponent ends.stops]
      rfl

theorem stops_exponentText
    (exponent : Option Int) {rest : List Char} (ends : Ends rest) :
    Stops (exponentText exponent ++ rest) ∧
      (exponentText exponent ++ rest).head? ≠ some '.' := by
  cases exponent with
  | none =>
      refine ⟨ends.stops, ?_⟩
      intro point
      rcases ends '.' point with same | same | same
      · cases same
      · cases same
      · cases same
  | some exponent =>
      refine ⟨stops_cons rfl _, ?_⟩
      intro point
      exact absurd (Option.some.inj point) (by decide)

theorem stops_placesText
    (places : Option (List Char)) {rest : List Char} (stops : Stops rest) :
    Stops (placesText places ++ rest) := by
  cases places with
  | none => exact stops
  | some digits => exact stops_cons rfl _

theorem scanNumber_append
    {parts : NumberParts} (plain : parts.Plain) {rest : List Char}
    (ends : Ends rest) :
    scanNumber (parts.text ++ rest) = .ok (parts, rest) := by
  obtain ⟨stops, noPoint⟩ := stops_exponentText parts.exponent ends
  unfold scanNumber NumberParts.text
  rw [List.append_assoc, List.append_assoc]
  rw [scanWhole_append plain.whole (stops_placesText parts.places stops)]
  show (scanPlaces _ >>= _) = _
  rw [scanPlaces_append plain.places stops noPoint]
  show (scanExponent _ >>= _) = _
  rw [scanExponent_append parts.exponent ends]
  rfl

/-! ## The value of the parts -/

theorem gather_of_le {digits : List Char} {start : Nat}
    (small : digitsValue digits start ≤ largestWord) :
    gather start digits = (digitsValue digits start, []) := by
  induction digits generalizing start with
  | nil => rfl
  | cons digit digits induction =>
      have next : start * 10 + digitValue digit ≤ largestWord :=
        Nat.le_trans (le_digitsValue digits _) small
      unfold gather
      rw [if_pos next]
      exact induction small

theorem value?_integer
    {negative : Bool} {whole : List Char}
    (small : digitsValue whole 0 ≤ largestWord)
    (signed :
      negative = true →
        digitsValue whole 0 ≠ 0 ∧ digitsValue whole 0 ≤ 0x8000000000000000) :
    NumberParts.value? negative ⟨whole, none, none⟩ =
      some (.integer (if negative then -(digitsValue whole 0 : Int) else
        digitsValue whole 0)) := by
  unfold NumberParts.value?
  rw [gather_of_le small]
  cases negative with
  | false => rfl
  | true => simp [signed rfl]

theorem value?_float {negative : Bool} {parts : NumberParts}
    (marked : parts.places.isSome = true ∨ parts.exponent.isSome = true)
    (small :
      digitsValue (parts.whole ++ parts.places.getD []) 0 ≤ largestWord) :
    parts.value? negative =
      (scaleByTens negative
        (digitsValue (parts.whole ++ parts.places.getD []) 0)
        (parts.exponent.getD 0 -
          ((parts.places.getD []).length : Int))).map .float := by
  obtain ⟨whole, places, exponent⟩ := parts
  dsimp only at marked small ⊢
  rw [digitsValue_append] at small ⊢
  have first := gather_of_le (Nat.le_trans (le_digitsValue _ _) small)
  have second := gather_of_le small
  have unmarked : ¬ (places.isNone = true ∧ exponent.isNone = true ∧
      ([] : List Char).isEmpty = true ∧ (!negative ∨ (digitsValue whole 0 ≠ 0 ∧
        digitsValue whole 0 ≤ 0x8000000000000000))) := by
    rintro ⟨noPlaces, noExponent, _⟩
    rcases marked with some | some
    · cases places with
      | none => cases some
      | some digits => cases noPlaces
    · cases exponent with
      | none => cases some
      | some exponent => cases noExponent
  unfold NumberParts.value?
  dsimp only
  rw [first]
  dsimp only
  rw [if_neg unmarked, second]
  dsimp only
  rw [show ((([] : List Char).length : Int) -
      ((places.getD []).length - ([] : List Char).length : Nat) +
          exponent.getD 0) =
        exponent.getD 0 - ((places.getD []).length : Int) by simp; omega]

/-! ## Reading parts -/

theorem readUnsigned_append
    {negative : Bool} {parts : NumberParts} {again : Number}
    (plain : parts.Plain) (value : parts.value? negative = some again)
    {rest : List Char} (ends : Ends rest) :
    readUnsigned negative (parts.text ++ rest) = .ok (again, rest) := by
  unfold readUnsigned
  rw [scanNumber_append plain ends]
  rw [ok_bind]
  dsimp only
  rw [value]
  rfl

/-- A sign in front of the parts of a number. -/
def signText (negative : Bool) : List Char :=
  if negative then ['-'] else []

theorem readNumber_append
    {negative : Bool} {parts : NumberParts} {again : Number}
    (plain : parts.Plain) (value : parts.value? negative = some again)
    {rest : List Char} (ends : Ends rest) :
    readNumber (signText negative ++ parts.text ++ rest) =
      .ok (again, rest) := by
  have unsigned := readUnsigned_append plain value ends
  cases negative with
  | true => exact unsigned
  | false =>
      obtain ⟨first, others, spelled, _⟩ := plain.whole.leading
      have digit : first.isDigit = true :=
        plain.whole.decimal first (spelled ▸ List.mem_cons_self)
      show readNumber (parts.text ++ rest) = _
      unfold readNumber
      split
      · next same =>
          unfold NumberParts.text at same
          rw [spelled] at same
          rw [(List.cons.inj same).1] at digit
          cases digit
      · exact unsigned

/-! ## Whole numbers -/

theorem numeral_toDigits (value : Nat) : Numeral (Nat.toDigits 10 value) := by
  refine ⟨fun char member => isDigit_toDigits member, ?_⟩
  obtain ⟨first, rest, spelled, _, zero⟩ := toDigits_cons value
  refine ⟨first, rest, spelled, ?_⟩
  intro isZero
  rw [zero isZero] at spelled
  exact (List.cons.inj spelled).2.symm

theorem plain_toDigits (value : Nat) :
    NumberParts.Plain ⟨Nat.toDigits 10 value, none, none⟩ := by
  refine ⟨numeral_toDigits value, ?_⟩
  intro digits member
  cases member

/--
A whole number that fits 64 bits, with or without a sign, is its digits and
keeps its value.
-/
theorem value?_toDigits
    {value : Int} (low : -0x8000000000000000 ≤ value)
    (high : value < 0x10000000000000000) :
    NumberParts.value? (decide (value < 0))
        ⟨Nat.toDigits 10 value.natAbs, none, none⟩ =
      some (.integer value) := by
  have spelled := digitsValue_toDigits value.natAbs
  have small : digitsValue (Nat.toDigits 10 value.natAbs) 0 ≤ largestWord := by
    rw [spelled]
    show value.natAbs ≤ 0xFFFFFFFFFFFFFFFF
    omega
  have signed :
      decide (value < 0) = true →
        digitsValue (Nat.toDigits 10 value.natAbs) 0 ≠ 0 ∧
          digitsValue (Nat.toDigits 10 value.natAbs) 0 ≤
            0x8000000000000000 := by
    intro sign
    have below := of_decide_eq_true sign
    rw [spelled]
    omega
  rw [value?_integer small signed, spelled]
  by_cases below : value < 0
  · rw [decide_eq_true below, if_pos rfl,
      ← Int.eq_neg_natAbs_of_nonpos (Int.le_of_lt below)]
  · rw [decide_eq_false below, if_neg Bool.false_ne_true,
      Int.natAbs_of_nonneg (Int.not_lt.mp below)]

theorem printInteger_eq (value : Int) :
    printInteger value = signText (decide (value < 0)) ++
      NumberParts.text ⟨Nat.toDigits 10 value.natAbs, none, none⟩ := by
  have text : NumberParts.text ⟨Nat.toDigits 10 value.natAbs, none, none⟩ =
      Nat.toDigits 10 value.natAbs := by
    simp [NumberParts.text, placesText, exponentText]
  rw [text]
  unfold printInteger signText
  by_cases below : value < 0
  · rw [if_pos below, decide_eq_true below]
    rfl
  · rw [if_neg below, decide_eq_false below]
    rfl

end EventRelay.Json
