import EventRelay.Json.Value
import EventRelay.Text.Quoted

/-!
# Why a text or a document does not decode

Decoding goes through its input from the front and stops at the first fault.
A text that breaks the grammar is malformed and one that ends too early is
truncated; every other fault tells what was found and what the reader of that
place expected.
-/

namespace EventRelay.Json

open EventRelay.Number

/-- What stands where something else was expected. -/
inductive Found where
  | null
  | boolean (value : Bool)
  | number (value : Number)
  | text (value : String)
  | sequence
  | map
  deriving DecidableEq

/-- The first fault of a decoding. -/
inductive Fault where
  | malformed
  | truncated
  | wrongType (found : Found) (expected : String)
  | wrongValue (found : Found) (expected : String)
  | wrongLength (length : Nat) (expected : String)
  | missingField (name : String)
  | duplicateField (name : String)
  | unknownVariant (name : String) (known : List String)
  /--
  A value of the right shape that its own parser refuses, for the given
  reason.
  -/
  | refused (reason : String)
  deriving DecidableEq

/-- How a found value is described. -/
def Found.describe : Found → String
  | .null => "null"
  | .boolean value =>
      "boolean \x60" ++ (if value then "true" else "false") ++ "\x60"
  | .number (.integer value) => "integer \x60" ++ toString value ++ "\x60"
  | .number (.float value) =>
    "floating point \x60" ++ String.ofList (Layout.json.ofFinite value) ++
      "\x60"
  | .text value => "string " ++ Text.quoted value
  | .sequence => "sequence"
  | .map => "map"

/-- A name between backticks. -/
def ticked (name : String) : String :=
  "\x60" ++ name ++ "\x60"

/-- The known names of a closed set, as an expectation. -/
def oneOf : List String → String
  | [] => "there are no variants"
  | [only] => "expected " ++ ticked only
  | [first, second] => "expected " ++ ticked first ++ " or " ++ ticked second
  | names => "expected one of " ++ String.intercalate ", " (names.map ticked)

/-- The text of the fault; faults of syntax only have a mark of their sort. -/
def Fault.message : Fault → String
  | .malformed => "<syntax>"
  | .truncated => "<eof>"
  | .wrongType found expected =>
      "invalid type: " ++ found.describe ++ ", expected " ++ expected
  | .wrongValue found expected =>
      "invalid value: " ++ found.describe ++ ", expected " ++ expected
  | .wrongLength length expected =>
      "invalid length " ++ toString length ++ ", expected " ++ expected
  | .missingField name => "missing field " ++ ticked name
  | .duplicateField name => "duplicate field " ++ ticked name
  | .unknownVariant name known =>
      "unknown variant " ++ ticked name ++ ", " ++ oneOf known
  | .refused reason => reason

/-- What a parsed document is, where something else was expected. -/
def found : Json → Found
  | .null => .null
  | .boolean value => .boolean value
  | .number value => .number value
  | .text value => .text value
  | .array _ => .sequence
  | .object _ => .map

end EventRelay.Json
