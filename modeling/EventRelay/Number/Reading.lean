import EventRelay.Number.Layout

/-!
# Reading numbers from settings

Whole numbers are decimal digits after an optional plus sign, bounded by the
width that will hold them; the first character that cannot continue the number
decides the error.  Binary64 values are digits with an optional point and
exponent, or the words for the infinities and for no number, in any case of
letters.
-/

namespace EventRelay.Number

/-- Why a text is not a whole number. -/
inductive IntegerFault where
  | empty
  | badDigit
  | tooLarge
  deriving DecidableEq

/-- The reason as settings report it. -/
def IntegerFault.message : IntegerFault → String
  | .empty => "cannot parse integer from empty string"
  | .badDigit => "invalid digit found in string"
  | .tooLarge => "number too large to fit in target type"

/-- Why a text is not a binary64 value. -/
inductive FloatFault where
  | empty
  | invalid
  deriving DecidableEq

/-- The reason as settings report it. -/
def FloatFault.message : FloatFault → String
  | .empty => "cannot parse float from empty string"
  | .invalid => "invalid float literal"

/-- The value of a decimal digit. -/
def digitValue (digit : Char) : Nat :=
  digit.toNat - '0'.toNat

/--
The number spelled by decimal digits, continuing from a value already read.
-/
def digitsValue (digits : List Char) (start : Nat) : Nat :=
  digits.foldl (fun value digit => value * 10 + digitValue digit) start

/--
Reads digits up to the end of the text, keeping the value at or below the
limit.
-/
def readDigits (limit : Nat) : Nat → List Char → Except IntegerFault Nat
  | value, [] => .ok value
  | value, char :: rest =>
    if !char.isDigit then .error .badDigit
    else if limit < value * 10 + digitValue char then .error .tooLarge
    else readDigits limit (value * 10 + digitValue char) rest

/-- Reads a whole number not above the limit. -/
def readNatural (limit : Nat) (text : String) : Except IntegerFault Nat :=
  match text.toList with
  | [] => .error .empty
  | ['+'] => .error .badDigit
  | '+' :: digits => readDigits limit 0 digits
  | digits => readDigits limit 0 digits

/-- Splits a text after its leading decimal digits. -/
def spanDigits (text : List Char) : List Char × List Char :=
  (text.takeWhile Char.isDigit, text.dropWhile Char.isDigit)

/--
Reads an exponent part that reaches the end of the text; without one the
exponent is zero.
-/
def readExponent : List Char → Option Int
  | [] => some 0
  | mark :: rest =>
    let (negative, digits) :=
      match rest with
      | '-' :: digits => (true, digits)
      | '+' :: digits => (false, digits)
      | digits => (false, digits)
    if (mark == 'e' || mark == 'E') && !digits.isEmpty &&
        digits.all Char.isDigit then
      some (if negative then -(digitsValue digits 0 : Int)
        else digitsValue digits 0)
    else none

/-- Reads the digits, point and exponent of a magnitude. -/
def readMagnitude (negative : Bool) (text : List Char) : Option Binary64 :=
  let (whole, afterWhole) := spanDigits text
  let (places, afterPlaces) :=
    match afterWhole with
    | '.' :: rest => spanDigits rest
    | rest => ([], rest)
  if whole.isEmpty && places.isEmpty then none
  else
    (readExponent afterPlaces).map fun exponent =>
      .ofDecimal negative (digitsValue places (digitsValue whole 0))
        (exponent - places.length)

/-- Reads one of the words for an infinity or for no number. -/
def readWord (negative : Bool) (text : List Char) : Option Binary64 :=
  let word := String.ofList (text.map Char.toLower)
  if word = "inf" ∨ word = "infinity" then some (.infinite negative)
  else if word = "nan" then some .undefined
  else none

/-- Reads a binary64 value, in digits or as a word, after an optional sign. -/
def readBinary64 (text : String) : Except FloatFault Binary64 :=
  let (negative, magnitude) :=
    match text.toList with
    | '-' :: rest => (true, rest)
    | '+' :: rest => (false, rest)
    | rest => (false, rest)
  if text.isEmpty then .error .empty
  else
    match readMagnitude negative magnitude <|> readWord negative magnitude with
    | some value => .ok value
    | none => .error .invalid

end EventRelay.Number
