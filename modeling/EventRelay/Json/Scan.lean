import EventRelay.Json.Fault
import EventRelay.Number.Reading
import EventRelay.Text.Hexadecimal

/-!
# Scanning JSON text

The smallest pieces of a JSON text are read here: blanks, the three words,
quoted texts and numbers.  A scanner takes the text from where it stands and
gives what it read with the rest of the text.  It never looks further than it
must, so the first fault from the left is the one reported.

Numbers follow one rule.  Leading digits are gathered as long as they fit 64
bits, later ones only shift the exponent, and the gathered number is scaled by
a rounded power of ten.
-/

namespace EventRelay.Json

open EventRelay.Number

/-- Reads a value from the front of a text and gives it with the rest. -/
abbrev Reader (α : Type) := List Char → Except Fault (α × List Char)

/-- Whether a character is blank between the parts of a JSON text. -/
def isBlank (char : Char) : Bool :=
  char == ' ' || char == '\t' || char == '\n' || char == '\r'

/-- The text from its first character that is not blank. -/
def skipBlanks (input : List Char) : List Char :=
  input.dropWhile isBlank

/-- Reads the rest of a word character by character. -/
def expectWord : List Char → List Char → Except Fault (List Char)
  | [], input => .ok input
  | _ :: _, [] => .error .truncated
  | expected :: word, char :: input =>
    if char = expected then expectWord word input else .error .malformed

/-- Whether a text holds at least the given number of UTF-8 bytes. -/
def holdsBytes : Nat → List Char → Bool
  | 0, _ => true
  | _ + 1, [] => false
  | needed + 1, char :: input => holdsBytes (needed + 1 - char.utf8Size) input

/-- Where a scan stands inside a quoted text. -/
inductive QuotedPlace where
  /-- Between characters. -/
  | plain
  /-- After a backslash. -/
  | escape
  /--
  Inside four hexadecimal digits, after those already read; a pending first
  half of a pair waits.
  -/
  | hex (digits value : Nat) (pending : Option Nat)
  /-- After the first half of a pair, before the backslash of the second. -/
  | half (first : Nat)
  /-- After the backslash that follows the first half of a pair. -/
  | halfEscape (first : Nat)

/-- What the four digits of an escape stand for. -/
inductive EscapedUnit where
  | char (value : Char)
  | firstHalf (value : Nat)
  | unpaired

/-- Combines a 16-bit unit with a pending first half. -/
def escapedUnit (unit : Nat) (pending : Option Nat) : EscapedUnit :=
  match pending with
  | some first =>
    if 0xDC00 ≤ unit ∧ unit ≤ 0xDFFF then
      .char (Char.ofNat (0x10000 + (first - 0xD800) * 0x400 + (unit - 0xDC00)))
    else .unpaired
  | none =>
    if 0xD800 ≤ unit ∧ unit ≤ 0xDBFF then .firstHalf unit
    else if 0xDC00 ≤ unit ∧ unit ≤ 0xDFFF then .unpaired
    else .char (Char.ofNat unit)

/-- The character that a one-letter escape stands for. -/
def shortEscape? : Char → Option Char
  | '"' => some '"'
  | '\\' => some '\\'
  | '/' => some '/'
  | 'b' => some '\x08'
  | 'f' => some '\x0c'
  | 'n' => some '\n'
  | 'r' => some '\r'
  | 't' => some '\t'
  | _ => none

/-- Puts a character before the content that follows it. -/
def prepend (char : Char) (scanned : Except Fault (List Char × List Char)) :
    Except Fault (List Char × List Char) :=
  scanned.map fun result => (char :: result.1, result.2)

/--
Reads the content of a quoted text up to and with its closing quote.

An escape by number needs four hexadecimal digits.  A text with fewer than
four bytes left there is truncated, whatever the bytes are.  Where `paired`
holds, the halves of a pair must follow each other; where it does not, each
half stands for a replacement character.
-/
def scanQuoted (paired : Bool) :
    QuotedPlace → List Char → Except Fault (List Char × List Char)
  | _, [] => .error .truncated
  | .plain, char :: input =>
    if char = '"' then .ok ([], input)
    else if char = '\\' then scanQuoted paired .escape input
    else if char.toNat < 0x20 then .error .malformed
    else prepend char (scanQuoted paired .plain input)
  | .escape, char :: input =>
    if char = 'u' then
      if holdsBytes 4 input then
        scanQuoted paired (.hex 0 0 none) input
      else
        .error .truncated
    else
      match shortEscape? char with
      | some meant => prepend meant (scanQuoted paired .plain input)
      | none => .error .malformed
  | .hex digits value pending, char :: input =>
    match Text.hexValue? char with
    | none => .error .malformed
    | some digit =>
      if digits < 3 then
        scanQuoted paired (.hex (digits + 1) (value * 16 + digit) pending) input
      else
        match escapedUnit (value * 16 + digit) pending, paired with
        | .char meant, _ => prepend meant (scanQuoted paired .plain input)
        | .firstHalf first, true => scanQuoted paired (.half first) input
        | .unpaired, true => .error .malformed
        | _, false => prepend '\uFFFD' (scanQuoted paired .plain input)
  | .half first, char :: input =>
    if char = '\\' then
      scanQuoted paired (.halfEscape first) input
    else
      .error .malformed
  | .halfEscape first, char :: input =>
    if char = 'u' then
      if holdsBytes 4 input then scanQuoted paired (.hex 0 0 (some first)) input
      else .error .truncated
    else .error .malformed

/-- Reads the content of a quoted text after its opening quote. -/
def readQuoted : Reader String := fun input =>
  (scanQuoted true .plain input).map fun result =>
    (String.ofList result.1, result.2)

/-- The written parts of a number after its sign. -/
structure NumberParts where
  whole : List Char
  /-- The digits after the point, when there is a point. -/
  places : Option (List Char)
  /-- The exponent, when there is one. -/
  exponent : Option Int

/-- Reads digits of which there must be at least one. -/
def scanDigits : Reader (List Char) := fun input =>
  match spanDigits input with
  | ([], []) => .error .truncated
  | ([], _ :: _) => .error .malformed
  | digits => .ok digits

/-- Reads the digits before the point; a leading zero stands alone. -/
def scanWhole : Reader (List Char) := fun input =>
  match input with
  | '0' :: next :: rest =>
      if next.isDigit then .error .malformed else .ok (['0'], next :: rest)
  | input => scanDigits input

/-- Reads the point and the digits after it, if there is a point. -/
def scanPlaces : Reader (Option (List Char)) := fun input =>
  match input with
  | '.' :: rest => (scanDigits rest).map fun result => (some result.1, result.2)
  | input => .ok (none, input)

/-- Reads the sign and the digits of an exponent. -/
def scanSignedDigits : Reader Int := fun input =>
  match input with
  | '-' :: rest =>
      (scanDigits rest).map fun result =>
        (-(digitsValue result.1 0 : Int), result.2)
  | '+' :: rest =>
      (scanDigits rest).map fun result =>
        ((digitsValue result.1 0 : Int), result.2)
  | input =>
      (scanDigits input).map fun result =>
        ((digitsValue result.1 0 : Int), result.2)

/-- Reads the exponent, if there is one. -/
def scanExponent : Reader (Option Int) := fun input =>
  match input with
  | [] => .ok (none, [])
  | mark :: rest =>
    if mark = 'e' ∨ mark = 'E' then
      (scanSignedDigits rest).map fun result => (some result.1, result.2)
    else .ok (none, mark :: rest)

/-- Reads the parts of a number after its sign. -/
def scanNumber : Reader NumberParts := fun input => do
  let (whole, afterWhole) ← scanWhole input
  let (places, afterPlaces) ← scanPlaces afterWhole
  let (exponent, rest) ← scanExponent afterPlaces
  return (⟨whole, places, exponent⟩, rest)

/-- The largest whole number of 64 bits. -/
def largestWord : Nat := UInt64.size - 1

/--
Gathers leading digits while the number fits 64 bits; gives it and the digits
left over.
-/
def gather : Nat → List Char → Nat × List Char
  | value, [] => (value, [])
  | value, digit :: digits =>
    let next := value * 10 + digitValue digit
    if next ≤ largestWord then gather next digits else (value, digit :: digits)

/-- The exponent of the greatest power of ten that is finite. -/
@[irreducible]
def greatestTens : Nat := 308

/-- Divides a number by a finite power of ten. -/
def divideByPower (amount : Finite) (tens : Nat) : Option Finite :=
  (Finite.ofNat? (Nat.pow 10 tens)).bind amount.scaleDown?

/--
Divides a number by powers of ten, by the greatest finite one at most at a
time.
-/
def divideByTens : Nat → Finite → Nat → Option Finite
  | 0, amount, _ => some amount
  | fuel + 1, amount, tens =>
    if tens ≤ greatestTens then divideByPower amount tens
    else
      (divideByPower amount greatestTens).bind fun smaller =>
        if smaller.isZero then
          some smaller
        else
          divideByTens fuel smaller (tens - greatestTens)

/--
A number of at most 64 bits scaled by a power of ten; nothing when it is too
large.
-/
def scaleByTens (negative : Bool) (significand : Nat) (exponent : Int) :
    Option Finite :=
  (Finite.ofNat? significand).bind fun magnitude =>
    let amount : Finite := ⟨negative, magnitude.steps⟩
    if exponent < 0 then divideByTens 4 amount exponent.natAbs
    else if amount.isZero then some amount
    else if exponent ≤ greatestTens then
      (Finite.ofNat? (Nat.pow 10 exponent.toNat)).bind amount.scaleUp?
    else none

/-- The value of the parts of a number; nothing when it is out of range. -/
def NumberParts.value? (negative : Bool) (parts : NumberParts) :
    Option Number :=
  let (gathered, shifted) := gather 0 parts.whole
  let whole : Int := if negative then -(gathered : Int) else gathered
  if parts.places.isNone ∧ parts.exponent.isNone ∧ shifted.isEmpty ∧
      (!negative ∨ (gathered ≠ 0 ∧ gathered ≤ 0x8000000000000000)) then
    some (.integer whole)
  else
    let places := parts.places.getD []
    let (significand, dropped) := gather gathered places
    let exponent := (shifted.length : Int) -
        (places.length - dropped.length : Nat) +
      parts.exponent.getD 0
    (scaleByTens negative significand exponent).map .float

/-- Reads a number after its sign. -/
def readUnsigned (negative : Bool) : Reader Number := fun input => do
  let (parts, rest) ← scanNumber input
  match parts.value? negative with
  | some amount => return (amount, rest)
  | none => .error .malformed

/-- Reads a number that the text begins with. -/
def readNumber : Reader Number := fun input =>
  match input with
  | '-' :: rest => readUnsigned true rest
  | input => readUnsigned false input

end EventRelay.Json
