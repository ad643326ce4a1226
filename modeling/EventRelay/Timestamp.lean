import EventRelay.Calendar
import EventRelay.Number.Reading
import EventRelay.Text.Blank

/-!
# Timestamps

A timestamp is a moment in universal time: a day, a second of that day and
nanoseconds.  Inside a leap second the nanoseconds run on past one thousand
million.

The written form has the date, the letter `T`, the time with as few of 0, 3, 6
or 9 places as lose nothing, and the letter `Z`.  Reading is more generous:
blanks may stand before numbers and marks, numbers may be short, and any
offset from universal time below a day is applied.
-/

namespace EventRelay

open EventRelay.Text EventRelay.Number

/-- A moment in universal time. -/
structure Timestamp where
  /-- Days since 1 January 1970. -/
  day : Int
  second : Nat
  nano : Nat
  deriving DecidableEq

namespace Timestamp

/-- The first year that timestamps reach. -/
def firstYear : Int := -262143

/-- The last year that timestamps reach. -/
def lastYear : Int := 262142

/-- Whether a day lies in the years that timestamps reach. -/
def reaches (day : Int) : Bool :=
  (Date.mk firstYear 1 1).toDays ≤ day && day ≤ (Date.mk lastYear 12 31).toDays

/-- The whole milliseconds since 1 January 1970. -/
def toMillis (timestamp : Timestamp) : Int :=
  (timestamp.day * 86400 + timestamp.second) * 1000 +
    (timestamp.nano / 1000000 : Nat)

/-- The moment a number of milliseconds after 1 January 1970. -/
def ofMillis (millis : Int) : Timestamp :=
  let seconds := Int.fdiv millis 1000
  ⟨Int.fdiv seconds 86400, (Int.fmod seconds 86400).toNat,
    (Int.fmod millis 1000).toNat * 1000000⟩

/-- The last decimal digits of a number, exactly as many as asked for. -/
def paddedDigits : Nat → Nat → List Char
  | 0, _ => []
  | count + 1, value =>
      paddedDigits count (value / 10) ++ [Nat.digitChar (value % 10)]

/-- A year in four digits, with a sign and more digits where four do not do. -/
def yearText (year : Int) : List Char :=
  if 0 ≤ year ∧ year ≤ 9999 then paddedDigits 4 year.toNat
  else
    let digits := Nat.toDigits 10 year.natAbs
    (if year < 0 then '-' else '+') ::
      (List.replicate (4 - digits.length) '0' ++ digits)

/-- The point and the places after the seconds. -/
def placesText (nano : Nat) : List Char :=
  if nano = 0 then []
  else if nano % 1000000 = 0 then '.' :: paddedDigits 3 (nano / 1000000)
  else if nano % 1000 = 0 then '.' :: paddedDigits 6 (nano / 1000)
  else '.' :: paddedDigits 9 nano

/-- The written form; inside a leap second the seconds are one more. -/
def toText (timestamp : Timestamp) : String :=
  let date := Date.ofDays timestamp.day
  let leap := timestamp.nano / 1000000000
  String.ofList
    (yearText date.year ++ '-' :: paddedDigits 2 date.month ++ '-' ::
      paddedDigits 2 date.day ++ 'T' ::
      paddedDigits 2 (timestamp.second / 3600) ++ ':' ::
      paddedDigits 2 (timestamp.second / 60 % 60) ++ ':' ::
      paddedDigits 2 (timestamp.second % 60 + leap) ++
      placesText (timestamp.nano % 1000000000) ++ ['Z'])

/-- Reads up to `most` digits, and at least one. -/
def readDigits? (most : Nat) (input : List Char) : Option (Nat × List Char) :=
  let digits := (input.take most).takeWhile Char.isDigit
  if digits.isEmpty then
    none
  else
    some (digitsValue digits 0, input.drop digits.length)

/-- Reads a number of one or two digits after blanks. -/
def readShort? (input : List Char) : Option (Nat × List Char) :=
  readDigits? 2 (trimStart input)

/--
Reads a year after blanks: up to four digits, or a sign and any number of
digits.
-/
def readYear? (input : List Char) : Option (Int × List Char) :=
  match trimStart input with
  | '-' :: rest =>
      (readDigits? rest.length rest).map fun (value, rest) =>
        (-(value : Int), rest)
  | '+' :: rest =>
      (readDigits? rest.length rest).map fun (value, rest) =>
        ((value : Int), rest)
  | input =>
      (readDigits? 4 input).map fun (value, rest) => ((value : Int), rest)

/-- Reads one mark after blanks. -/
def readMark? (mark : Char) (input : List Char) : Option (List Char) :=
  match trimStart input with
  | char :: rest => if char = mark then some rest else none
  | [] => none

/-- Reads a date that the calendar has, in the years that timestamps reach. -/
def readDate? (input : List Char) : Option (Date × List Char) := do
  let (year, input) ← readYear? input
  let input ← readMark? '-' input
  let (month, input) ← readShort? input
  let input ← readMark? '-' input
  let (day, input) ← readShort? input
  let date : Date := ⟨year, month, day⟩
  if date.isValid ∧ firstYear ≤ year ∧ year ≤ lastYear then
    some (date, input)
  else
    none

/--
Reads the places after the seconds as nanoseconds; places after the ninth are
dropped.
-/
def readPlaces? (input : List Char) : Option (Nat × List Char) :=
  match input with
  | '.' :: rest =>
    let digits := rest.takeWhile Char.isDigit
    let kept := digits.take 9
    if digits.isEmpty then none
    else
      some (digitsValue kept 0 * Nat.pow 10 (9 - kept.length),
        rest.drop digits.length)
  | input => some (0, input)

/-- Reads the time of day as seconds and nanoseconds. -/
def readTime? (input : List Char) : Option (Nat × Nat × List Char) := do
  let (hour, input) ← readShort? input
  let input ← readMark? ':' input
  let (minute, input) ← readShort? input
  let input ← readMark? ':' input
  let (second, input) ← readShort? input
  let (nano, input) ← readPlaces? input
  if hour < 24 ∧ minute < 60 ∧ second ≤ 60 then
    let ofDay := hour * 3600 + minute * 60
    if second = 60 then some (ofDay + 59, 1000000000 + nano, input)
    else some (ofDay + second, nano, input)
  else none

/-- Reads exactly two digits. -/
def readPair? (input : List Char) : Option (Nat × List Char) :=
  match input with
  | first :: second :: rest =>
    if first.isDigit ∧ second.isDigit then
      some (digitsValue [first, second] 0, rest)
    else
      none
  | _ => none

/-- Reads the hours and minutes of an offset after its sign, in seconds. -/
def readOffset? (input : List Char) : Option (Int × List Char) := do
  let (hours, input) ← readPair? input
  let (minutes, input) ← readPair?
    (input.dropWhile fun char => char == ':' || isBlank char)
  let seconds := hours * 3600 + minutes * 60
  if minutes < 60 ∧ seconds < 86400 then some ((seconds : Int), input) else none

/--
Reads what follows the time: the word or letter for universal time, or a
signed offset.
-/
def readZone? (input : List Char) : Option (Int × List Char) :=
  if (input.take 3).map Char.toLower = ['u', 't', 'c'] then
    some (0, input.drop 3)
  else
    match input with
    | 'Z' :: rest => some (0, rest)
    | 'z' :: rest => some (0, rest)
    | '+' :: rest => readOffset? rest
    | '-' :: rest =>
        (readOffset? rest).map fun (offset, rest) => (-offset, rest)
    | '\u2212' :: rest =>
        (readOffset? rest).map fun (offset, rest) => (-offset, rest)
    | _ => none

/-- Reads a timestamp that fills the whole text. -/
def parse? (text : String) : Option Timestamp := do
  let (date, input) ← readDate? text.toList
  let input ←
    match input with
    | separator :: rest =>
      if separator = 'T' ∨ separator = 't' ∨ separator = ' ' then
        some rest
      else
        none
    | [] => none
  let (second, nano, input) ← readTime? input
  let (offset, input) ← readZone? (trimStart input)
  let moment := (second : Int) - offset
  let day := date.toDays + Int.fdiv moment 86400
  if (trimStart input).isEmpty ∧ reaches day then
    some ⟨day, (Int.fmod moment 86400).toNat, nano⟩
  else none

end Timestamp

end EventRelay
