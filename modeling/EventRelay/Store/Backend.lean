import EventRelay.Retry.Loop
import EventRelay.Store.Documents
import EventRelay.Store.Error

/-!
# A store that can fail

A backend holds documents and meets a fate at every call: the next entry of
its write or read script says whether the call fails, and with what.  A call
that fails changes no document.  When a script has come to its end, calls
succeed.

Only the filing of a document is tried again, and only after contention.
-/

namespace EventRelay.Store

/-- Documents, and what the next calls will meet. -/
structure Backend where
  documents : Documents
  /-- The failures of coming writes; `none` lets a write succeed. -/
  writeScript : List (Option Error)
  /-- The failures of all other coming calls. -/
  readScript : List (Option Error)
  /-- How many writes have been tried. -/
  writes : Nat

/-- What a call on a backend answers, and the backend afterwards. -/
abbrev Answer (α : Type) := Except Error α × Backend

namespace Backend

/-- The store without documents, whose calls all succeed. -/
def empty : Backend := ⟨.empty, [], [], 0⟩

/-- Makes a write that puts a document in place. -/
def put (schema key : String) (document : Json) (backend : Backend) :
    Answer Unit :=
  let tried := { backend with
    writeScript := backend.writeScript.tail
    writes := backend.writes + 1 }
  match backend.writeScript.head?.join with
  | some error => (.error error, tried)
  | none =>
      (.ok (),
        { tried with documents := backend.documents.put schema key document })

/-- Makes a call that computes an answer from the documents. -/
def ask {α : Type} (answer : Documents → α) (backend : Backend) : Answer α :=
  let tried := { backend with readScript := backend.readScript.tail }
  match backend.readScript.head?.join with
  | some error => (.error error, tried)
  | none => (.ok (answer backend.documents), tried)

/-- Looks up the document under a key. -/
def find? (schema key : String) (backend : Backend) : Answer (Option Json) :=
  backend.ask fun documents => documents.find? schema key

/-- Lists the documents of a schema in key order. -/
def list (schema : String) (backend : Backend) : Answer (List Json) :=
  backend.ask fun documents => documents.list schema

/-- Lists the documents of a schema whose member has the given value. -/
def search (schema field : String) (value : Json) (backend : Backend) :
    Answer (List Json) :=
  backend.ask fun documents => documents.search schema field value

/-- Lists the schemas that have ever held a document. -/
def names (backend : Backend) : Answer (List String) :=
  backend.ask Documents.names

/-- Removes the document under a key; a failing call removes nothing. -/
def delete (schema key : String) (backend : Backend) : Answer Unit :=
  match backend.ask fun documents => documents.delete schema key with
  | (.ok documents, tried) => (.ok (), { tried with documents := documents })
  | (.error error, tried) => (.error error, tried)

/--
Puts a document in place, trying again after contention as often as the policy
allows.

The diagnostic name identifies the document in the error for too many
attempts.
-/
def putRetrying (policy : Retry.Policy) (schema key : String) (document : Json)
    (diagnostic : String) (backend : Backend) : Answer Unit :=
  let run :=
    policy.runWhile Error.isContention (put schema key document) backend
  let result :=
    match run.result with
    | .ok _ => .ok ()
    | .error (.exhausted attempts last) =>
        .error (.exhausted diagnostic attempts last)
    | .error (.notRetryable error) => .error error
  (result, run.state)

/-- Appends failures to the script of coming writes. -/
def failWrites (errors : List Error) (backend : Backend) : Backend :=
  { backend with writeScript := backend.writeScript ++ errors.map some }

/-- Appends failures to the script of all other coming calls. -/
def failReads (errors : List Error) (backend : Backend) : Backend :=
  { backend with readScript := backend.readScript ++ errors.map some }

end Backend

end EventRelay.Store
