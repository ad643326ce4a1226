import EventRelay.Duration
import EventRelay.Number.Reading
import EventRelay.Quota
import EventRelay.Text.Blank

/-!
# Variables of the environment

A variable has a key, a standard value and a reader.  Where it is not set the
standard value holds; where it is set, its text is trimmed of blanks at both
ends and must be acceptable to the reader.  A text that is not acceptable is
an error with the key, the offending value and the reason, and never falls
back to the standard value.
-/

namespace EventRelay

open EventRelay.Number

/-- Where the texts of variables come from; an unset variable has none. -/
abbrev Lookup := String → Option String

/-- Why the text of a variable is not acceptable. -/
inductive SettingFault where
  | wholeNumber (fault : IntegerFault)
  | fraction (fault : FloatFault)
  | flag
  | zero
  | belowOne
  | empty
  deriving DecidableEq

/-- The reason in words. -/
def SettingFault.message : SettingFault → String
  | .wholeNumber fault => fault.message
  | .fraction fault => fault.message
  | .flag => "expected true or false"
  | .zero => "must be at least 1"
  | .belowOne => "must be a finite number >= 1"
  | .empty => "must not be empty"

/-- A variable whose text is not acceptable. -/
structure SettingError where
  key : String
  /-- The offending value: the trimmed text, or the number it was read as. -/
  value : String
  fault : SettingFault
  deriving DecidableEq

/-- The text of the error: the offending value, its key and the reason. -/
def SettingError.message (error : SettingError) : String :=
  "invalid value '" ++ error.value ++ "' for " ++ error.key ++ ": " ++
    error.fault.message

/--
What a reader makes of a text: a value, or an offending value with the reason.
-/
abbrev Reading (α : Type) := Except (String × SettingFault) α

/-- A variable with its standard value and the reader of its trimmed text. -/
structure Variable (α : Type) where
  key : String
  standard : α
  read : String → Reading α

/-- The value of a variable. -/
def Variable.load {α : Type} (setting : Variable α) (lookup : Lookup) :
    Except SettingError α :=
  match lookup setting.key with
  | none => .ok setting.standard
  | some text =>
    match setting.read (Text.trim text) with
    | .ok value => .ok value
    | .error (value, fault) => .error ⟨setting.key, value, fault⟩

/-- A finite multiplier of at least one. -/
structure Multiplier where
  number : Finite
  atLeastOne : number.negative = false ∧ stepsPerOne ≤ number.steps
  deriving DecidableEq

/-- The multiplier that doubles. -/
def Multiplier.two : Multiplier :=
  ⟨⟨false, 2 * stepsPerOne⟩, rfl,
    Nat.le_mul_of_pos_left stepsPerOne Nat.zero_lt_two⟩

/-- Takes every text as it is. -/
def readAny (text : String) : Reading String := .ok text

/-- Takes every text but the empty one. -/
def readNonEmpty (text : String) : Reading String :=
  if text.isEmpty then .error (text, .empty) else .ok text

/-- Reads a count of at least one that fits 32 bits. -/
def readQuota (text : String) : Reading Quota :=
  match readNatural (UInt32.size - 1) text with
  | .error fault => .error (text, .wholeNumber fault)
  | .ok count =>
    match Quota.ofNat? count with
    | some quota => .ok quota
    | none => .error ("0", .zero)

/-- Reads a number of milliseconds that fits 64 bits. -/
def readMillis (text : String) : Reading Duration :=
  match readNatural (UInt64.size - 1) text with
  | .error fault => .error (text, .wholeNumber fault)
  | .ok millis => .ok (.ofMillis millis)

/--
Reads a multiplier; the value shown for a bad one is the number it was read
as.
-/
def readMultiplier (text : String) : Reading Multiplier :=
  match readBinary64 text with
  | .error fault => .error (text, .fraction fault)
  | .ok (.finite number) =>
    if range : number.negative = false ∧ stepsPerOne ≤ number.steps then
      .ok ⟨number, range⟩
    else .error ((Binary64.finite number).text, .belowOne)
  | .ok value => .error (value.text, .belowOne)

/-- Reads one of the words for yes and no, in any case of letters. -/
def readFlag (text : String) : Reading Bool :=
  let word := Text.lowercase text
  if ["true", "1", "yes", "on"].contains word then .ok true
  else if ["false", "0", "no", "off"].contains word then .ok false
  else .error (text, .flag)

end EventRelay
