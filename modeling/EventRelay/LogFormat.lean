import EventRelay.Text.Blank

/-!
# Log formats

Log lines are written as JSON or for people to read.  A setting names the
format in any case of letters; without the setting it is JSON.
-/

namespace EventRelay

/-- How log lines are written. -/
inductive LogFormat where
  | json
  | pretty
  deriving DecidableEq

/-- A text that names no log format. -/
structure UnknownLogFormat where
  value : String
  deriving DecidableEq

/-- The text of the error, with the two formats to choose from. -/
def UnknownLogFormat.message (error : UnknownLogFormat) : String :=
  "unknown log format '" ++ error.value ++ "' (expected json or pretty)"

namespace LogFormat

/-- The setting that names the log format. -/
def settingKey : String := "CENSUS_LOG_FORMAT"

/-- The log format that a text names. -/
def parse (text : String) : Except UnknownLogFormat LogFormat :=
  let word := Text.lowercase (Text.trim text)
  if word = "json" then .ok .json
  else if word = "pretty" ∨ word = "text" then .ok .pretty
  else .error ⟨text⟩

/-- The log format of settings that may leave it out. -/
def fromSettings (lookup : String → Option String) :
    Except UnknownLogFormat LogFormat :=
  match lookup settingKey with
  | some text => parse text
  | none => .ok .json

end LogFormat

end EventRelay
