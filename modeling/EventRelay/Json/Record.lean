import EventRelay.Json.Codec

/-!
# Records

A record is described once, as a list of fields in their written order.  From
the description come the text of a record, its reading from an object or from
an array of its fields in order, and its reading from a parsed document.

While an object is read, each field has a slot, empty until its member has
been seen.  Members may come in any order, unknown ones are skipped, and a
known one may come once.  When the object ends, an empty slot takes what the
field says about being left out, or is a fault.
-/

namespace EventRelay.Json

/-- One field of a record. -/
structure Field (α : Type) where
  key : String
  codec : Codec α
  /-- What the field is when it is left out, if it may be. -/
  absent : Option α
  /-- Whether writing leaves the field out. -/
  omitted : α → Bool

namespace Field

variable {α : Type}

/-- A field that must be given. -/
def required (key : String) (codec : Codec α) : Field α :=
  ⟨key, codec, none, fun _ => false⟩

/-- A field with a value of its own when it is left out. -/
def defaulting (key : String) (codec : Codec α) (default : α) : Field α :=
  ⟨key, codec, some default, fun _ => false⟩

/-- A field that may be null or left out and is written in either case. -/
def optional (key : String) (codec : Codec α) : Field (Option α) :=
  ⟨key, codec.optional, some none, fun _ => false⟩

/--
A field that may be null or left out and is written only when it has a value.
-/
def optionalOmitted (key : String) (codec : Codec α) : Field (Option α) :=
  ⟨key, codec.optional, some none, Option.isNone⟩

end Field

/--
The fields of a record in their written order, with the types of its values
and of its slots.
-/
inductive Fields : Type → Type → Type 1 where
  | nil : Fields Unit Unit
  | cons {α β σ : Type} (field : Field α) (rest : Fields β σ) :
      Fields (α × β) (Option α × σ)

/-- What a key means to a record some of whose slots are filled. -/
inductive Slot (σ : Type) : Type 1 where
  | unknown
  | repeated
  | awaiting {α : Type} (codec : Codec α) (fill : α → σ)

/-- The meaning of a key to slots that have one more in front. -/
def Slot.map {σ τ : Type} (wrap : σ → τ) : Slot σ → Slot τ
  | .unknown => .unknown
  | .repeated => .repeated
  | .awaiting codec fill => .awaiting codec fun value => wrap (fill value)

namespace Fields

/-- The number of fields. -/
def count {τ σ : Type} : Fields τ σ → Nat
  | .nil => 0
  | .cons _ rest => rest.count + 1

/-- The slots before any member has been seen. -/
def empty {τ σ : Type} : Fields τ σ → σ
  | .nil => ()
  | .cons _ rest => (none, rest.empty)

/-- What a key means, given the slots. -/
def slot {τ σ : Type} (key : String) : Fields τ σ → σ → Slot σ
  | .nil, _ => .unknown
  | .cons field rest, (filled, others) =>
    if key = field.key then
      match filled with
      | some _ => .repeated
      | none => .awaiting field.codec fun value => (some value, others)
    else (rest.slot key others).map fun others => (filled, others)

/-- The record that the slots make up, or the first field that is missing. -/
def finish {τ σ : Type} : Fields τ σ → σ → Except Fault τ
  | .nil, _ => .ok ()
  | .cons field rest, (filled, others) => do
    let value ←
      match filled <|> field.absent with
      | some value => .ok value
      | none => .error (.missingField field.key)
    let values ← rest.finish others
    return (value, values)

/-- Reads the members of an object up to and with its end. -/
def readMembers {τ σ : Type} (fields : Fields τ σ) (depth : Nat) :
    Nat → Bool → σ → List Char → Except Fault (σ × List Char)
  | 0, _, _, _ => .error .malformed
  | fuel + 1, first, slots, input => do
    match ← nextMember first input with
    | .closed rest => return (slots, rest)
    | .member key afterKey =>
      match fields.slot key slots with
      | .unknown =>
        let input ← skipMark ':' afterKey
        let rest ← skipValue input
        fields.readMembers depth fuel false slots rest
      | .repeated => .error (.duplicateField key)
      | .awaiting codec fill =>
        let input ← skipMark ':' afterKey
        let (value, rest) ← codec.read depth input
        fields.readMembers depth fuel false (fill value) rest

/--
Reads the fields in order from an array, and stops before its end.

An array that ends early leaves out the remaining fields; `expected` describes
the whole record where that is a fault.
-/
def readInOrder {τ σ : Type} (expected : String) (depth : Nat) :
    Fields τ σ → Nat → ArrayPlace → Except Fault (τ × ArrayPlace)
  | .nil, _, place => .ok ((), place)
  | .cons field rest, index, place => do
    match ← nextItem place with
    | .item input =>
      let (value, after) ← field.codec.read depth input
      let (values, place) ← rest.readInOrder expected depth (index + 1)
        (.later after)
      return ((value, values), place)
    | .closed after =>
      match field.absent with
      | none => .error (.wrongLength index expected)
      | some value =>
        let (values, place) ← rest.readInOrder expected depth (index + 1)
          (.closed after)
        return ((value, values), place)

/-- Takes the members of a parsed object in the order of their keys. -/
def takeMembers {τ σ : Type} (fields : Fields τ σ) :
    List (String × Json) → σ → Except Fault σ
  | [], slots => .ok slots
  | (key, document) :: members, slots =>
    match fields.slot key slots with
    | .unknown => fields.takeMembers members slots
    | .repeated => .error (.duplicateField key)
    | .awaiting codec fill => do
      let value ← codec.ofDocument document
      fields.takeMembers members (fill value)

/--
Takes the fields in order from a parsed array, and gives the items left over.
-/
def takeInOrder {τ σ : Type} (expected : String) :
    Fields τ σ → Nat → List Json → Except Fault (τ × List Json)
  | .nil, _, items => .ok ((), items)
  | .cons field rest, index, item :: items => do
    let value ← field.codec.ofDocument item
    let (values, items) ← rest.takeInOrder expected (index + 1) items
    return ((value, values), items)
  | .cons field rest, index, [] => do
    match field.absent with
    | none => .error (.wrongLength index expected)
    | some value =>
      let (values, items) ← rest.takeInOrder expected (index + 1) []
      return ((value, values), items)

/-- The written members of a record. -/
def writeMembers {τ σ : Type} : Fields τ σ → τ → List (List Char)
  | .nil, _ => []
  | .cons field rest, (value, values) =>
    if field.omitted value then rest.writeMembers values
    else
      printMember field.key (field.codec.write value) ::
        rest.writeMembers values

/-- The members of a record as a parsed document. -/
def documentMembers {τ σ : Type} : Fields τ σ → τ → List (String × Json)
  | .nil, _ => []
  | .cons field rest, (value, values) =>
    if field.omitted value then rest.documentMembers values
    else
      (field.key, field.codec.toDocument value) :: rest.documentMembers values

end Fields

/-- A number of fields as part of an expectation. -/
def elementCount (count : Nat) : String :=
  toString count ++ (if count = 1 then " element" else " elements")

namespace Codec

/--
Records with the given fields; the title names the kind of record in faults.
-/
def record {τ σ : Type} (title : String) (fields : Fields τ σ) : Codec τ where
  read depth input :=
    let inner := depth - 1
    match skipBlanks input with
    | '[' :: rest =>
      if depth = 0 then .error .malformed
      else do
        let expected :=
          "struct " ++ title ++ " with " ++ elementCount fields.count
        let (values, place) ← fields.readInOrder expected inner 0 (.first rest)
        let rest ← closeArray place
        return (values, rest)
    | '\x7b' :: rest =>
      if depth = 0 then .error .malformed
      else do
        let (slots, rest) ←
          fields.readMembers inner (rest.length + 1) true fields.empty rest
        let values ← fields.finish slots
        return (values, rest)
    | input => mismatch ("struct " ++ title) input
  write values := '\x7b' :: (separated (fields.writeMembers values) ++ ['\x7d'])
  ofDocument
    | .array items => do
      let expected :=
        "struct " ++ title ++ " with " ++ elementCount fields.count
      let (values, left) ← fields.takeInOrder expected 0 items
      if left.isEmpty then return values
      else .error (.wrongLength items.length "fewer elements in array")
    | .object members =>
        fields.takeMembers members fields.empty >>= fields.finish
    | other => .error (.wrongType (found other) ("struct " ++ title))
  toDocument values :=
    .object (Dictionary.ofEntries (fields.documentMembers values))

end Codec

end EventRelay.Json
