import EventRelay.Number.Shortest

/-!
# How a number is laid out as text

A number shows its shortest digits; a `Layout` decides which of two equally
near ones those are and where they stand.  With the number written
`d.ddd * 10 ^ e`, it says for which `e` the notation is positional, and what
follows a whole number in that notation.  All other numbers carry a signed
exponent.
-/

namespace EventRelay.Number

/-- The choices of one written form of numbers. -/
structure Layout where
  /--
  Whether a number with this leading exponent is written without an exponent.
  -/
  positional : Int → Bool
  /-- What follows a whole number in positional notation. -/
  wholeEnding : List Char
  /-- Which digits stand for a number halfway between two shortest decimals. -/
  tie : Tie

namespace Layout

/--
JSON numbers are positional from `1e-5` up to `1e16`, a whole number shows one
zero, and halfway digits end evenly.
-/
def json : Layout where
  positional exponent := -5 ≤ exponent && exponent < 16
  wholeEnding := ['.', '0']
  tie := .toEven

/--
Plain numbers never carry an exponent, a whole number shows no point, and
halfway digits are rounded away from zero.
-/
def plain : Layout where
  positional _ := true
  wholeEnding := []
  tie := .awayFromZero

/-- Digits with a decimal point placed `exponent` digits from their end. -/
def placePoint (layout : Layout) (digits : List Char) (exponent : Int) :
    List Char :=
  if 0 ≤ exponent then
    digits ++ List.replicate exponent.toNat '0' ++ layout.wholeEnding
  else
    let places := (-exponent).toNat
    if places < digits.length then
      digits.take (digits.length - places) ++ '.' ::
        digits.drop (digits.length - places)
    else '0' :: '.' :: (List.replicate (places - digits.length) '0' ++ digits)

/-- Digits with a point after the first and a signed exponent. -/
def scientific (digits : List Char) (leading : Int) : List Char :=
  let mantissa :=
    match digits with
    | first :: second :: rest => first :: '.' :: second :: rest
    | short => short
  let sign := if leading < 0 then '-' else '+'
  mantissa ++ 'e' :: sign :: Nat.toDigits 10 leading.natAbs

/-- The text of a decimal without its sign. -/
def ofDecimal (layout : Layout) (decimal : Decimal) : List Char :=
  let digits := Nat.toDigits 10 decimal.digits
  let leading := decimal.exponent + digits.length - 1
  if layout.positional leading then layout.placePoint digits decimal.exponent
  else scientific digits leading

/-- The text of a finite number: its shortest digits, laid out. -/
def ofFinite (layout : Layout) (number : Finite) : List Char :=
  let magnitude := layout.ofDecimal (shortest layout.tie number.steps)
  if number.negative then '-' :: magnitude else magnitude

end Layout

/-- The plain text of any binary64 value. -/
def Binary64.text : Binary64 → String
  | .finite number => String.ofList (Layout.plain.ofFinite number)
  | .infinite false => "inf"
  | .infinite true => "-inf"
  | .undefined => "NaN"

end EventRelay.Number
