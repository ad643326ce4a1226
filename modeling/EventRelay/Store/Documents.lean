import EventRelay.Json.Value

/-!
# Documents in schemas

Documents are filed under a key within a schema.  A schema lists its documents
in ascending key order, and it remains known after its last document is gone.
-/

namespace EventRelay.Store

/-- All documents of a store, by schema and key. -/
structure Documents where
  schemas : Dictionary (Dictionary Json)

namespace Documents

/-- No documents, in no schema. -/
def empty : Documents := ⟨[]⟩

/-- The documents of one schema; an unknown schema has none. -/
def inSchema (documents : Documents) (schema : String) : Dictionary Json :=
  (documents.schemas.find? schema).getD []

/-- Files a document, replacing the one under the same key. -/
def put (documents : Documents) (schema key : String) (document : Json) :
    Documents :=
  ⟨documents.schemas.insert schema
    ((documents.inSchema schema).insert key document)⟩

/-- The document that is filed under a key of a schema. -/
def find? (documents : Documents) (schema key : String) : Option Json :=
  (documents.inSchema schema).find? key

/-- The documents of a schema in ascending key order. -/
def list (documents : Documents) (schema : String) : List Json :=
  (documents.inSchema schema).values

/--
The documents of a schema whose member has the given value; a missing member
counts as null.
-/
def search (documents : Documents) (schema field : String) (value : Json) :
    List Json :=
  (documents.list schema).filter fun document =>
    ((document.member? field).getD .null).same value

/-- Removes the document under a key; its schema stays, be it empty. -/
def delete (documents : Documents) (schema key : String) : Documents :=
  match documents.schemas.find? schema with
  | some contents => ⟨documents.schemas.insert schema (contents.erase key)⟩
  | none => documents

/-- The names of the schemas that have ever held a document. -/
def names (documents : Documents) : List String :=
  documents.schemas.keys

/-- A document that has been filed is found. -/
@[simp]
theorem find?_put_self
    (documents : Documents) (schema key : String) (document : Json) :
    (documents.put schema key document).find? schema key = some document := by
  simp [find?, put, inSchema]

end Documents

end EventRelay.Store
