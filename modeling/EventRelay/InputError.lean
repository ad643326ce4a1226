/-!
# Refused input

Input from outside is refused for one of three causes: a rule about its
content, a text that is no identifier, or a name outside a closed set of
names.
-/

namespace EventRelay

/-- Why input from outside is refused. -/
inductive InputError where
  | invalid (reason : String)
  | notIdentifier (reason : String)
  | unknownName (kind value : String)
  deriving DecidableEq

namespace InputError

/-- The text of the error. -/
def message : InputError → String
  | .invalid reason => "validation failed: " ++ reason
  | .notIdentifier reason => "invalid identifier: " ++ reason
  | .unknownName kind value => "unknown " ++ kind ++ ": '" ++ value ++ "'"

end InputError

/-- Finds the member of a closed set that has the given name. -/
def findNamed
    {α : Type} (kind : String) (all : List α) (name : α → String)
    (given : String) :
    Except InputError α :=
  match all.find? fun value => name value == given with
  | some value => .ok value
  | none => .error (.unknownName kind given)

end EventRelay
