/-!
# Hexadecimal digits

The digits of identifiers and of escapes by number, read in either case and
written in lower case.
-/

namespace EventRelay.Text

/-- The value of a hexadecimal digit in either case. -/
def hexValue? (char : Char) : Option Nat :=
  if '0' ≤ char ∧ char ≤ '9' then some (char.toNat - '0'.toNat)
  else if 'a' ≤ char ∧ char ≤ 'f' then some (char.toNat - 'a'.toNat + 10)
  else if 'A' ≤ char ∧ char ≤ 'F' then some (char.toNat - 'A'.toNat + 10)
  else none

/-- Whether a character is a hexadecimal digit, in either case. -/
def isHex (char : Char) : Bool :=
  (hexValue? char).isSome

/--
The hexadecimal digits of a number, the given number of them, from the last.
-/
def hexDigits : Nat → Nat → List Char
  | 0, _ => []
  | count + 1, value =>
      hexDigits count (value / 16) ++ [Nat.digitChar (value % 16)]

/-- A digit that has been written reads back. -/
theorem hexValue?_digitChar (value : Nat) (small : value < 16) :
    hexValue? (Nat.digitChar value) = some value := by
  have all :
      ∀ digit : Fin 16,
        hexValue? (Nat.digitChar digit.val) = some digit.val := by
    decide
  exact all ⟨value, small⟩

@[simp]
theorem length_hexDigits (count value : Nat) :
    (hexDigits count value).length = count := by
  induction count generalizing value with
  | zero => rfl
  | succ count induction => simp [hexDigits, induction]

end EventRelay.Text
