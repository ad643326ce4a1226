import EventRelay.InputError
import EventRelay.Text.Hexadecimal

/-!
# Identifiers

Messages and the exchanges they belong to are identified by numbers of 128
bits.  The written form is 32 lower-case hexadecimal digits in five groups.  A
reader also accepts digits of either case, the digits without hyphens, and the
hyphenated form in braces or after `urn:uuid:`.

`timeOrdered` lays out a fresh identifier: the milliseconds of its minting
stand in front, so identifiers ascend with time, and a sequence number keeps
those of one millisecond apart and in order.
-/

namespace EventRelay

/-- A number of 128 bits that names a message or an exchange. -/
structure Identifier where
  bits : BitVec 128
  deriving DecidableEq

/-- Why a text is not an identifier. -/
inductive IdentifierFault where
  | length (found : Nat)
  | character (found : Char) (position : Nat)
  | groupCount (found : Nat)
  | groupLength (group expected found : Nat)
  deriving DecidableEq

/-- The reason why a text is no identifier, in words. -/
def IdentifierFault.message : IdentifierFault → String
  | .length found => "invalid length: found " ++ toString found
  | .character found position =>
    "invalid character: found \x60" ++ String.singleton found ++ "\x60 at " ++
      toString position
  | .groupCount found =>
      "invalid group count: expected 5, found " ++ toString found
  | .groupLength group expected found =>
    "invalid group length in group " ++ toString group ++ ": expected " ++
      toString expected ++ ", found " ++ toString found

open EventRelay.Text

namespace Identifier

/-- Where the hyphens of the hyphenated form stand. -/
def hyphenPlaces : List Nat := [8, 13, 18, 23]

/-- Whether characters have the hyphenated form. -/
def isHyphenated (chars : List Char) : Bool :=
  chars.length == 36 &&
    chars.zipIdx.all fun (char, place) =>
      if hyphenPlaces.contains place then char == '-' else isHex char

/--
The identifier whose digits are the hexadecimal ones among the characters.
-/
def ofDigits (chars : List Char) : Identifier :=
  ⟨BitVec.ofNat 128
    ((chars.filterMap hexValue?).foldl (fun value digit => value * 16 + digit)
      0)⟩

/-- The number of UTF-8 bytes of characters. -/
def byteLength (chars : List Char) : Nat :=
  chars.foldr (fun char total => char.utf8Size + total) 0

/--
The places of the hyphens, counted in bytes, or the first character that has
no place here.
-/
def scanPlaces : Nat → List Char → Except IdentifierFault (List Nat)
  | _, [] => .ok []
  | place, char :: rest =>
    if char = '-' then
      (scanPlaces (place + char.utf8Size) rest).map (place :: ·)
    else if isHex char then scanPlaces (place + char.utf8Size) rest
    else .error (.character char place)

/--
The first group that does not end at its hyphen; with all hyphens in place,
the last one.
-/
def wrongGroup (length : Nat) (places : List Nat) : IdentifierFault :=
  let ends := (places.zip hyphenPlaces).zipIdx
  match ends.find? fun ((place, expected), _) => place != expected with
  | some ((place, expected), group) =>
    let start := if group = 0 then 0 else 4 + 5 * group
    .groupLength group (expected - start) (place - start)
  | none => .groupLength 4 12 (length - 24)

/--
What is wrong with the characters between the ends of a wrapper of the given
lengths.

`hyphenated` says whether the five groups were promised; a plain text without
hyphens is judged by its length alone.
-/
def faultOf
    (hyphenated : Bool) (before : Nat) (length : Nat) (inside : List Char) :
    IdentifierFault :=
  match scanPlaces before inside with
  | .error fault => fault
  | .ok places =>
    if places.isEmpty && !hyphenated then .length length
    else if places.length ≠ 4 then .groupCount (places.length + 1)
    else wrongGroup length (places.map (· - before))

/-- The words before an identifier that is written as a resource name. -/
def resourceWords : List Char := "urn:uuid:".toList

/-- What is between braces. -/
def insideBraces? (chars : List Char) : Option (List Char) :=
  match chars with
  | '\x7b' :: rest =>
      if rest.getLast? = some '\x7d' then some rest.dropLast else none
  | _ => none

/-- What follows the words of a resource name, in any case of letters. -/
def afterResourceWords? (chars : List Char) : Option (List Char) :=
  if (chars.take 9).map Char.toLower = resourceWords then
    some (chars.drop 9)
  else
    none

/--
Where the five groups have to stand, for the three lengths that promise them:
the whole text, what is between braces, or what follows the words of a
resource name.
-/
def hyphenatedPart? (chars : List Char) : Option (List Char) :=
  if byteLength chars = 36 then some chars
  else if byteLength chars = 38 then insideBraces? chars
  else if byteLength chars = 45 then afterResourceWords? chars
  else none

/--
What is wrong with characters whose length promises no form.

Braces and the words of a resource name still promise the five groups between
their ends.
-/
def faultOfOther (chars : List Char) : IdentifierFault :=
  match insideBraces? chars, afterResourceWords? chars with
  | some inside, _ => faultOf true 1 (byteLength chars) inside
  | none, some inside =>
      faultOf true resourceWords.length (byteLength chars) inside
  | none, none => faultOf false 0 (byteLength chars) chars

/--
Reads an identifier in any of its accepted forms.

The length decides which form the text is held to, and a part that promises
the five groups is judged on its own, with places counted from its start.
-/
def parse (text : String) : Except IdentifierFault Identifier :=
  let chars := text.toList
  let length := byteLength chars
  if length = 0 ∨ 45 < length then .error (.length length)
  else if length = 32 ∧ chars.all isHex then .ok (ofDigits chars)
  else
    match hyphenatedPart? chars with
    | some part =>
      if isHyphenated part then .ok (ofDigits part)
      else .error (faultOf true 0 (byteLength part) part)
    | none => .error (faultOfOther chars)

/-- What an identifier names. -/
inductive Role where
  | message
  | correlation
  deriving DecidableEq

/-- The name of a role in errors. -/
def Role.name : Role → String
  | .message => "MessageId"
  | .correlation => "CorrelationId"

/-- Reads an identifier from outside, for the given role. -/
def parseAs (role : Role) (text : String) : Except InputError Identifier :=
  match parse text with
  | .ok identifier => .ok identifier
  | .error fault => .error (.notIdentifier (role.name ++ ": " ++ fault.message))

/-- The written form: five groups of lower-case digits. -/
def toText (identifier : Identifier) : String :=
  let digits := hexDigits 32 identifier.bits.toNat
  String.ofList
    (digits.take 8 ++ '-' :: (digits.drop 8).take 4 ++ '-' ::
      (digits.drop 12).take 4 ++ '-' :: (digits.drop 16).take 4 ++ '-' ::
      digits.drop 20)

/--
A fresh identifier for a time in milliseconds and a sequence number of up to
74 bits.
-/
def timeOrdered (millis sequence : Nat) : Identifier :=
  ⟨BitVec.ofNat 128
    (millis % Nat.pow 2 48 * Nat.pow 2 80 + 7 * Nat.pow 2 76 +
      sequence / Nat.pow 2 62 % Nat.pow 2 12 * Nat.pow 2 64 + 2 * Nat.pow 2 62 +
      sequence % Nat.pow 2 62)⟩

/-- The version that an identifier carries in its thirteenth digit. -/
def version (identifier : Identifier) : Nat :=
  identifier.bits.toNat / Nat.pow 2 76 % 16

end Identifier

end EventRelay
