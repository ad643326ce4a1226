import EventRelay.Json.Fault

/-!
# Failures of the document store

A store reports a status with a message, holds a document that does not
decode, or was tried as often as allowed.  Contention is a status that may
pass by itself; only it is worth another attempt.
-/

namespace EventRelay.Store

/-- The statuses that a store reports. -/
inductive Status where
  | resourceExhausted
  | aborted
  | deadlineExceeded
  | unavailable
  | invalidArgument
  | notFound
  | permissionDenied
  | internal
  deriving DecidableEq

namespace Status

/-- All statuses, for looking one up by its name. -/
def all : List Status :=
  [.resourceExhausted, .aborted, .deadlineExceeded, .unavailable,
    .invalidArgument, .notFound, .permissionDenied, .internal]

/-- The name of a status. -/
def name : Status → String
  | .resourceExhausted => "ResourceExhausted"
  | .aborted => "Aborted"
  | .deadlineExceeded => "DeadlineExceeded"
  | .unavailable => "Unavailable"
  | .invalidArgument => "InvalidArgument"
  | .notFound => "NotFound"
  | .permissionDenied => "PermissionDenied"
  | .internal => "Internal"

/-- The status with the given name. -/
def ofName? (given : String) : Option Status :=
  all.find? fun status => status.name == given

/-- Whether a status may pass by itself. -/
def isContention : Status → Bool
  | .resourceExhausted => true
  | .aborted => true
  | .deadlineExceeded => true
  | .unavailable => true
  | _ => false

end Status

/-- A failure of the store. -/
inductive Error where
  | backend (status : Status) (message : String)
  | undecodable (fault : Json.Fault)
  | exhausted (diagnostic : String) (attempts : Nat) (last : Error)
  deriving DecidableEq

namespace Error

/-- Whether a failure is worth another attempt. -/
def isContention : Error → Bool
  | .backend status _ => status.isContention
  | _ => false

/-- The text of the failure. -/
def message : Error → String
  | .backend status message =>
      "datastore error (" ++ status.name ++ "): " ++ message
  | .undecodable fault =>
      "document could not be (de)serialised: " ++ fault.message
  | .exhausted diagnostic attempts _ =>
    "retries exhausted for storage of " ++ diagnostic ++ " after " ++
      toString attempts ++ " attempts"

end Error

end EventRelay.Store
