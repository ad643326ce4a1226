import EventRelay.Json.Skip

/-!
# Codecs

A codec relates the values of one type to JSON.  It reads a value from the
front of a text while the text streams by, writes it as text, and relates it
to documents that are already parsed.

Reading takes the number of arrays and objects that may still be opened; it is
the only limit on nesting.  This module gives the codecs without members of
their own: texts, flags, whole numbers, names of a closed set, optional
values, dictionaries and open documents.
-/

namespace EventRelay.Json

/-- The ways between the values of a type and JSON. -/
structure Codec (α : Type) where
  /-- Reads a value, with this many arrays and objects at most to be opened. -/
  read : Nat → Reader α
  write : α → List Char
  ofDocument : Json → Except Fault α
  toDocument : α → Json

/-- The number of arrays and objects that may be open at one place of a text. -/
def nestingLimit : Nat := 127

namespace Codec

/-- Reads a whole text as one value with nothing but blanks after it. -/
def decode {α : Type} (codec : Codec α) (content : String) :
    Except Fault α := do
  let (value, rest) ← codec.read nestingLimit content.toList
  match skipBlanks rest with
  | [] => return value
  | _ :: _ => .error .malformed

/-- Writes a value as a whole text. -/
def encode {α : Type} (codec : Codec α) (value : α) : String :=
  String.ofList (codec.write value)

end Codec

/-- What a text that is not blank in front holds there. -/
def foundAt (input : List Char) : Except Fault Found :=
  match input with
  | [] => .error .truncated
  | 'n' :: rest => (expectWord ['u', 'l', 'l'] rest).map fun _ => .null
  | 't' :: rest => (expectWord ['r', 'u', 'e'] rest).map fun _ => .boolean true
  | 'f' :: rest =>
      (expectWord ['a', 'l', 's', 'e'] rest).map fun _ => .boolean false
  | '"' :: rest => (readQuoted rest).map fun result => .text result.1
  | '[' :: _ => .ok .sequence
  | '\x7b' :: _ => .ok .map
  | char :: rest =>
    if char = '-' ∨ char.isDigit then
      (readNumber (char :: rest)).map fun result => .number result.1
    else .error .malformed

/-- Reports what a text holds where something else was expected. -/
def mismatch {α : Type} (expected : String) (input : List Char) :
    Except Fault α := do
  let found ← foundAt input
  .error (.wrongType found expected)

/-- What is expected of a text. -/
def expectedText : String := "a string"

/-- Reads a text, or reports what was expected in its place. -/
def readText (expected : String) : Reader String := fun input =>
  match skipBlanks input with
  | '"' :: rest => readQuoted rest
  | input => mismatch expected input

/-- Reads null, or reports what was expected in its place. -/
def readNull (expected : String) : Reader Unit := fun input =>
  match skipBlanks input with
  | 'n' :: rest => (expectWord ['u', 'l', 'l'] rest).map fun rest => ((), rest)
  | input => mismatch expected input

namespace Codec

variable {α β : Type}

/-- The codec of texts. -/
def text : Codec String where
  read _ := readText expectedText
  write := printText
  ofDocument
    | .text value => .ok value
    | other => .error (.wrongType (found other) expectedText)
  toDocument := .text

/-- The codec of the two booleans. -/
def flag : Codec Bool where
  read _ input :=
    match skipBlanks input with
    | 't' :: rest =>
        (expectWord ['r', 'u', 'e'] rest).map fun rest => (true, rest)
    | 'f' :: rest =>
        (expectWord ['a', 'l', 's', 'e'] rest).map fun rest => (false, rest)
    | input => mismatch "a boolean" input
  write := printBoolean
  ofDocument
    | .boolean value => .ok value
    | other => .error (.wrongType (found other) "a boolean")
  toDocument := .boolean

/-- A number as a signed whole number of 64 bits. -/
def signedWord : Json.Number → Except Fault Int
  | .integer value =>
    if -0x8000000000000000 ≤ value ∧ value < 0x8000000000000000 then .ok value
    else .error (.wrongValue (.number (.integer value)) "i64")
  | .float value => .error (.wrongType (.number (.float value)) "i64")

/-- The codec of signed whole numbers of 64 bits. -/
def integer : Codec Int where
  read _ input :=
    match skipBlanks input with
    | char :: rest =>
      if char = '-' ∨ char.isDigit then do
        let (amount, rest) ← readNumber (char :: rest)
        let value ← signedWord amount
        return (value, rest)
      else mismatch "i64" (char :: rest)
    | [] => .error .truncated
  write := printInteger
  ofDocument
    | .number value => signedWord value
    | other => .error (.wrongType (found other) "i64")
  toDocument value := .number (.integer value)

/-- Values of one type by way of another, where reading may refuse. -/
def refine (codec : Codec α) (parse : α → Except Fault β) (print : β → α) :
    Codec β where
  read depth input := do
    let (raw, rest) ← codec.read depth input
    let value ← parse raw
    return (value, rest)
  write value := codec.write (print value)
  ofDocument document := codec.ofDocument document >>= parse
  toDocument value := codec.toDocument (print value)

/-- Values of one type that correspond to those of another. -/
def imap (codec : Codec α) (forward : α → β) (backward : β → α) : Codec β :=
  codec.refine (fun value => .ok (forward value)) backward

/--
Reads a text that a parser accepts; `expected` describes it where there is no
text.
-/
def parsed
    (expected : String) (parse : String → Except Fault α) (print : α → String) :
    Codec α where
  read _ input := do
    let (raw, rest) ← readText expected input
    let value ← parse raw
    return (value, rest)
  write value := printText (print value)
  ofDocument
    | .text raw => parse raw
    | other => .error (.wrongType (found other) expected)
  toDocument value := .text (print value)

/-- Values that may be null. -/
def optional (codec : Codec α) : Codec (Option α) where
  read depth input :=
    match skipBlanks input with
    | 'n' :: rest =>
        (expectWord ['u', 'l', 'l'] rest).map fun rest => (none, rest)
    | input =>
        (codec.read depth input).map fun result => (some result.1, result.2)
  write
    | none => printNull
    | some value => codec.write value
  ofDocument
    | .null => .ok none
    | document => (codec.ofDocument document).map some
  toDocument
    | none => .null
    | some value => codec.toDocument value

/-- Finds the value with a given name in a closed set. -/
def choose (all : List α) (name : α → String) (given : String) :
    Except Fault α :=
  match all.find? fun value => name value == given with
  | some value => .ok value
  | none => .error (.unknownVariant given (all.map name))

/--
The names of a closed set, as a text or as an object whose only member has a
null value.
-/
def name (all : List α) (name : α → String) : Codec α where
  read depth input :=
    match skipBlanks input with
    | [] => .error .truncated
    | '"' :: rest => do
      let (given, rest) ← readQuoted rest
      let value ← choose all name given
      return (value, rest)
    | '\x7b' :: rest =>
      if depth = 0 then .error .malformed
      else do
        let content ← skipMark '"' rest
        let (given, rest) ← readQuoted content
        let value ← choose all name given
        let rest ← skipMark ':' rest
        let (_, rest) ← readNull "unit" rest
        let rest ← skipMark '\x7d' rest
        return (value, rest)
    | _ :: _ => .error .malformed
  write value := printText (name value)
  ofDocument
    | .text given => choose all name given
    | .object [(given, content)] => do
      let value ← choose all name given
      match content with
      | .null => return value
      | other => .error (.wrongType (found other) "unit")
    | .object _ => .error (.wrongValue .map "map with a single key")
    | other => .error (.wrongType (found other) "string or map")
  toDocument value := .text (name value)

end Codec

/-- Where the reading of an array stands. -/
inductive ArrayPlace where
  | first (input : List Char)
  | later (input : List Char)
  | closed (rest : List Char)

/-- What follows in an array: an item, or its end. -/
inductive NextItem where
  | item (input : List Char)
  | closed (rest : List Char)

/-- Goes to the next item of an array or past its end. -/
def nextItem : ArrayPlace → Except Fault NextItem
  | .closed rest => .ok (.closed rest)
  | .first input =>
    match skipBlanks input with
    | [] => .error .truncated
    | ']' :: rest => .ok (.closed rest)
    | char :: rest => .ok (.item (char :: rest))
  | .later input =>
    match skipBlanks input with
    | [] => .error .truncated
    | ']' :: rest => .ok (.closed rest)
    | ',' :: rest =>
      match skipBlanks rest with
      | [] => .error .truncated
      | ']' :: _ => .error .malformed
      | char :: rest => .ok (.item (char :: rest))
    | _ :: _ => .error .malformed

/-- Goes past the end of an array that should hold no further item. -/
def closeArray : ArrayPlace → Except Fault (List Char)
  | .closed rest => .ok rest
  | .first input => skipMark ']' input
  | .later input => skipMark ']' input

/-- What follows in an object: a member after its key, or the end. -/
inductive NextMember where
  | member (key : String) (afterKey : List Char)
  | closed (rest : List Char)

/-- Reads the key of a member at a quote. -/
def readKey (input : List Char) : Except Fault NextMember :=
  match skipBlanks input with
  | [] => .error .truncated
  | '"' :: rest => (readQuoted rest).map fun result => .member result.1 result.2
  | _ :: _ => .error .malformed

/--
Goes to the next member of an object, past its key, or past the end of the
object.
-/
def nextMember (first : Bool) (input : List Char) : Except Fault NextMember :=
  match skipBlanks input with
  | [] => .error .truncated
  | '\x7d' :: rest => .ok (.closed rest)
  | char :: rest =>
    if first then readKey (char :: rest)
    else if char = ',' then readKey rest
    else .error .malformed

/-- Reads the items of an array up to and with its end. -/
def readItems {α : Type} (item : Reader α) :
    Nat → ArrayPlace → Except Fault (List α × List Char)
  | 0, _ => .error .malformed
  | fuel + 1, place => do
    match ← nextItem place with
    | .closed rest => return ([], rest)
    | .item input =>
      let (value, rest) ← item input
      let (values, rest) ← readItems item fuel (.later rest)
      return (value :: values, rest)

/--
Reads the members of an object up to and with its end, in the order of the
text.
-/
def readEntries {α : Type} (item : Reader α) :
    Nat → Bool → List Char → Except Fault (List (String × α) × List Char)
  | 0, _, _ => .error .malformed
  | fuel + 1, first, input => do
    match ← nextMember first input with
    | .closed rest => return ([], rest)
    | .member key afterKey =>
      let input ← skipMark ':' afterKey
      let (value, rest) ← item input
      let (entries, rest) ← readEntries item fuel false rest
      return ((key, value) :: entries, rest)

/--
Reads a document, given how an array and an object go on after their opening
bracket.
-/
def readDocumentWith (array object : Reader Json) : Reader Json := fun input =>
  match skipBlanks input with
  | [] => .error .truncated
  | 'n' :: rest =>
      (expectWord ['u', 'l', 'l'] rest).map fun rest => (.null, rest)
  | 't' :: rest =>
      (expectWord ['r', 'u', 'e'] rest).map fun rest => (.boolean true, rest)
  | 'f' :: rest =>
      (expectWord ['a', 'l', 's', 'e'] rest).map fun rest =>
        (.boolean false, rest)
  | '"' :: rest =>
      (readQuoted rest).map fun result => (.text result.1, result.2)
  | '[' :: rest => array rest
  | '\x7b' :: rest => object rest
  | char :: rest =>
    if char = '-' ∨ char.isDigit then
      (readNumber (char :: rest)).map fun result => (.number result.1, result.2)
    else .error .malformed

/-- Reads a document with at most this many arrays and objects open. -/
def readDocument : Nat → Reader Json
  | 0 =>
      readDocumentWith (fun _ => .error .malformed) (fun _ => .error .malformed)
  | depth + 1 =>
    readDocumentWith
      (fun rest =>
        (readItems (readDocument depth) (rest.length + 1)
          (.first rest)).map fun result =>
          (.array result.1, result.2))
      (fun rest =>
        (readEntries (readDocument depth) (rest.length + 1)
          true rest).map fun result =>
          (.object (Dictionary.ofEntries result.1), result.2))

namespace Codec

/-- The codec of open documents, of which none is refused. -/
def document : Codec Json where
  read := readDocument
  write := print
  ofDocument := .ok
  toDocument document := document

/-- The texts of a document's members, or the first that is no text. -/
def textMembers : List (String × Json) → Except Fault (Dictionary String)
  | [] => .ok []
  | (key, value) :: members => do
    let value ← text.ofDocument value
    let members ← textMembers members
    return (key, value) :: members

/-- Dictionaries of texts; of members with one key the last stays. -/
def dictionary : Codec (Dictionary String) where
  read depth input :=
    match skipBlanks input with
    | '\x7b' :: rest =>
      if depth = 0 then .error .malformed
      else
        (readEntries (text.read depth) (rest.length + 1)
          true rest).map fun result =>
          (Dictionary.ofEntries result.1, result.2)
    | input => mismatch "a map" input
  write entries :=
    '\x7b' ::
      (separated
        (entries.map fun entry => printMember entry.1 (printText entry.2)) ++
        ['\x7d'])
  ofDocument
    | .object members => textMembers members
    | other => .error (.wrongType (found other) "a map")
  toDocument entries :=
    .object (entries.map fun entry => (entry.1, .text entry.2))

end Codec

end EventRelay.Json
