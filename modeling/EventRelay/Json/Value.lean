import EventRelay.Dictionary
import EventRelay.Number.Layout

/-!
# JSON documents

A document is null, a boolean, a number, a text, an array or an object; an
object is a dictionary, so its members ascend by key and each key occurs once.
Whole numbers that fit 64 bits, signed or not, are kept exactly; all others
are binary64.  `Json.print` writes a document without blanks, and
`Json.nesting` counts the arrays and objects open at its deepest place.
-/

namespace EventRelay

open EventRelay.Number

/-- A number of a document, kept exactly as a whole number or as binary64. -/
inductive Json.Number where
  | integer (value : Int)
  | float (value : Finite)
  deriving DecidableEq

/-- A JSON document. -/
inductive Json where
  | null
  | boolean (value : Bool)
  | number (value : Json.Number)
  | text (value : String)
  | array (items : List Json)
  | object (members : List (String × Json))

namespace Json

/-- Equality of the numbers meant; a whole number never equals a float. -/
def Number.same : Number → Number → Bool
  | .integer left, .integer right => left == right
  | .float left, .float right => left.sameValue right
  | _, _ => false

mutual

/-- Equality of documents, numbers compared by the value meant. -/
def same : Json → Json → Bool
  | .null, .null => true
  | .boolean left, .boolean right => left == right
  | .number left, .number right => left.same right
  | .text left, .text right => left == right
  | .array left, .array right => sameItems left right
  | .object left, .object right => sameMembers left right
  | _, _ => false

/-- Equality of the items, place by place. -/
def sameItems : List Json → List Json → Bool
  | [], [] => true
  | left :: lefts, right :: rights => same left right && sameItems lefts rights
  | _, _ => false

/-- Equality of the members, which ascend by key on both sides. -/
def sameMembers : List (String × Json) → List (String × Json) → Bool
  | [], [] => true
  | (leftKey, left) :: lefts, (rightKey, right) :: rights =>
    leftKey == rightKey && same left right && sameMembers lefts rights
  | _, _ => false

end

mutual

/-- The number of arrays and objects open at the deepest place of a document. -/
def nesting : Json → Nat
  | .array items => nestingOfItems items + 1
  | .object members => nestingOfMembers members + 1
  | _ => 0

/-- The greatest nesting among the items of an array. -/
def nestingOfItems : List Json → Nat
  | [] => 0
  | item :: items => max (nesting item) (nestingOfItems items)

/-- The greatest nesting among the members of an object. -/
def nestingOfMembers : List (String × Json) → Nat
  | [] => 0
  | (_, value) :: members => max (nesting value) (nestingOfMembers members)

end

/-- The member of an object under a key; other documents have no members. -/
def member? (key : String) : Json → Option Json
  | .object members => Dictionary.find? key members
  | _ => none

/-- The text of a text document. -/
def asText? : Json → Option String
  | .text value => some value
  | _ => none

/-- The two lower-case hexadecimal digits of a control character. -/
def controlDigits (code : Nat) : List Char :=
  [Nat.digitChar (code / 16), Nat.digitChar (code % 16)]

/--
One character between quotes: quotes, backslashes and controls are escaped,
all else stands raw.
-/
def escapedChar (char : Char) : List Char :=
  match char with
  | '"' => ['\\', '"']
  | '\\' => ['\\', '\\']
  | '\x08' => ['\\', 'b']
  | '\x0c' => ['\\', 'f']
  | '\n' => ['\\', 'n']
  | '\r' => ['\\', 'r']
  | '\t' => ['\\', 't']
  | char =>
    if char.toNat < 0x20 then
      ['\\', 'u', '0', '0'] ++ controlDigits char.toNat
    else
      [char]

/-- A text between quotes. -/
def printText (value : String) : List Char :=
  '"' :: (value.toList.flatMap escapedChar ++ ['"'])

/-- The text of a whole number. -/
def printInteger (value : Int) : List Char :=
  if value < 0 then
    '-' :: Nat.toDigits 10 value.natAbs
  else
    Nat.toDigits 10 value.natAbs

/-- The word for a boolean. -/
def printBoolean (value : Bool) : List Char :=
  if value then ['t', 'r', 'u', 'e'] else ['f', 'a', 'l', 's', 'e']

/-- The word for null. -/
def printNull : List Char := ['n', 'u', 'l', 'l']

/-- The text of a number; a float keeps a point or an exponent. -/
def Number.print : Number → List Char
  | .integer value => printInteger value
  | .float value => Layout.json.ofFinite value

/-- Written parts with commas between them. -/
def separated : List (List Char) → List Char
  | [] => []
  | [part] => part
  | part :: parts => part ++ ',' :: separated parts

/-- A written value after its key and a colon. -/
def printMember (key : String) (value : List Char) : List Char :=
  printText key ++ ':' :: value

mutual

/-- The text of a document, without blanks. -/
def print : Json → List Char
  | .null => printNull
  | .boolean value => printBoolean value
  | .number value => value.print
  | .text value => printText value
  | .array items => '[' :: (separated (printItems items) ++ [']'])
  | .object members => '\x7b' :: (separated (printMembers members) ++ ['\x7d'])

/-- The texts of the items of an array. -/
def printItems : List Json → List (List Char)
  | [] => []
  | item :: items => print item :: printItems items

/-- The texts of the members of an object. -/
def printMembers : List (String × Json) → List (List Char)
  | [] => []
  | (key, value) :: members =>
      printMember key (print value) :: printMembers members

end

end Json

end EventRelay
