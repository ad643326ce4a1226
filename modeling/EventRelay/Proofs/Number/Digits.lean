import EventRelay.Number.Reading

/-!
# Decimal digits

The digits of a number spell the number, the first of them is zero only for
zero itself, and a scan over digits stops exactly behind them.
-/

namespace EventRelay.Number

/-- A text that no further digit begins. -/
def Stops (rest : List Char) : Prop :=
  ∀ char ∈ rest.head?, char.isDigit = false

theorem stops_nil : Stops [] := by
  intro char member
  cases member

theorem stops_cons
    {char : Char} (mark : char.isDigit = false) (rest : List Char) :
    Stops (char :: rest) := by
  intro other member
  cases member
  exact mark

theorem spanDigits_append {digits rest : List Char}
    (decimal : ∀ char ∈ digits, char.isDigit = true) (stops : Stops rest) :
    spanDigits (digits ++ rest) = (digits, rest) := by
  have first : rest.takeWhile Char.isDigit = [] := by
    cases rest with
    | nil => rfl
    | cons char rest => simp [stops char rfl]
  have last : rest.dropWhile Char.isDigit = rest := by
    cases rest with
    | nil => rfl
    | cons char rest => simp [stops char rfl]
  unfold spanDigits
  rw [List.takeWhile_append_of_pos decimal,
    List.dropWhile_append_of_pos decimal, first, last, List.append_nil]

/-! ## The number that digits spell -/

theorem digitsValue_eq (digits : List Char) (start : Nat) :
    digitsValue digits start = Nat.ofDigitChars 10 digits start := by
  have same : (fun value digit => value * 10 + digitValue digit) =
      fun (value : Nat) (digit : Char) =>
        10 * value + (digit.toNat - '0'.toNat) := by
    funext value digit
    rw [Nat.mul_comm]
    rfl
  rw [digitsValue, same, Nat.ofDigitChars_eq_foldl]

theorem digitsValue_append (left right : List Char) (start : Nat) :
    digitsValue (left ++ right) start =
      digitsValue right (digitsValue left start) :=
  List.foldl_append

theorem digitsValue_toDigits (value : Nat) :
    digitsValue (Nat.toDigits 10 value) 0 = value := by
  rw [digitsValue_eq, Nat.ofDigitChars_ten_toDigits]

theorem digitsValue_zeros (count start : Nat) :
    digitsValue (List.replicate count '0') start =
      start * Nat.pow 10 count := by
  rw [digitsValue_eq, Nat.ofDigitChars_replicate_zero, Nat.mul_comm]
  rfl

/-- More digits never make the number smaller. -/
theorem le_digitsValue (digits : List Char) (start : Nat) :
    start ≤ digitsValue digits start := by
  induction digits generalizing start with
  | nil => exact Nat.le_refl start
  | cons digit digits induction =>
      have later :
          start * 10 + digitValue digit ≤ digitsValue (digit :: digits) start :=
        induction (start * 10 + digitValue digit)
      omega

theorem digitsValue_lt
    {digits : List Char} (decimal : ∀ char ∈ digits, char.isDigit = true)
    (start : Nat) :
    digitsValue digits start < (start + 1) * Nat.pow 10 digits.length := by
  induction digits generalizing start with
  | nil =>
      show start < (start + 1) * 1
      omega
  | cons digit digits induction =>
      have bound : digitValue digit ≤ 9 := by
        have range := decimal digit List.mem_cons_self
        simp only [Char.isDigit, Bool.and_eq_true, decide_eq_true_eq, ge_iff_le,
          UInt32.le_iff_toNat_le] at range
        show digit.val.toNat - 48 ≤ 9
        have upper : digit.val.toNat ≤ 57 := range.2
        omega
      have later :=
        induction (fun char member => decimal char
          (List.mem_cons_of_mem _ member)) (start * 10 + digitValue digit)
      have wider :
          (start * 10 + digitValue digit + 1) * Nat.pow 10 digits.length ≤
            (start + 1) * 10 * Nat.pow 10 digits.length :=
        Nat.mul_le_mul_right _ (by omega)
      rw [List.length_cons, show Nat.pow 10 (digits.length + 1) = 10 * Nat.pow
          10 digits.length from
        Nat.pow_succ', ← Nat.mul_assoc]
      exact Nat.lt_of_lt_of_le later wider

/-! ## The digits of a number -/

theorem isDigit_toDigits
    {value : Nat} {char : Char} (member : char ∈ Nat.toDigits 10 value) :
    char.isDigit = true :=
  Nat.isDigit_of_mem_toDigits (by decide) (by decide) member

theorem lt_pow_length_toDigits (value : Nat) :
    value < Nat.pow 10 (Nat.toDigits 10 value).length :=
  (Nat.length_toDigits_le_iff (by decide) Nat.length_toDigits_pos).mp
    (Nat.le_refl _)

/-- The digits of a number begin with zero only for zero itself. -/
theorem toDigits_cons (value : Nat) :
    ∃ first rest, Nat.toDigits 10 value = first :: rest ∧ first.isDigit = true ∧
      (first = '0' → value = 0) := by
  induction value using Nat.strongRecOn with
  | _ value induction =>
      by_cases single : value < 10
      · have digit : (Nat.digitChar value).isDigit = true := by simp [single]
        exact ⟨Nat.digitChar value, [], Nat.toDigits_of_lt_base single, digit,
          Nat.digitChar_eq_zero.mp⟩
      · have shorter : value / 10 < value :=
          Nat.div_lt_self (by omega) (by decide)
        obtain ⟨first, rest, spelled, digit, zero⟩ :=
          induction (value / 10) shorter
        refine ⟨first, rest ++ [Nat.digitChar (value % 10)], ?_, digit, ?_⟩
        · rw [Nat.toDigits_of_base_le (by decide) (by omega), spelled]
          rfl
        · intro isZero
          have small := zero isZero
          omega

end EventRelay.Number
