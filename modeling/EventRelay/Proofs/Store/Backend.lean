import EventRelay.Proofs.Dictionary
import EventRelay.Store.Backend

/-!
# What calls on a backend leave behind

Filing a document exchanges what lies under one key of one schema.  A call
that only asks leaves the documents as they were, whether it fails or not.
-/

namespace EventRelay

namespace Store

namespace Documents

@[simp]
theorem inSchema_put
    (documents : Documents) (schema key : String) (document : Json) :
    (documents.put schema key document).inSchema schema =
      (documents.inSchema schema).insert key document := by
  simp [put, inSchema]

/-- Filing in one schema leaves the others as they were. -/
theorem inSchema_put_of_ne
    (documents : Documents) {schema other : String} (different : other ≠ schema)
    (key : String) (document : Json) :
    (documents.put schema key document).inSchema other =
      documents.inSchema other := by
  unfold inSchema put
  rw [Dictionary.find?_insert_of_ne different]

/-- Filing under one key leaves the others as they were. -/
theorem find?_put_of_ne
    (documents : Documents) (schema : String) {key other : String}
    (different : other ≠ key) (document : Json) :
    (documents.put schema key document).find? schema other =
      documents.find? schema other := by
  unfold find?
  rw [inSchema_put, Dictionary.find?_insert_of_ne different]

/-- Filing leaves every other document of every schema as it was. -/
theorem find?_put_elsewhere
    (documents : Documents) {schema key other place : String}
    (elsewhere : (other, place) ≠ (schema, key)) (document : Json) :
    (documents.put schema key document).find? other place =
      documents.find? other place := by
  by_cases same : other = schema
  · subst same
    refine find?_put_of_ne _ _ ?_ _
    rintro rfl
    exact elsewhere rfl
  · unfold find?
    rw [inSchema_put_of_ne _ same]

end Documents

namespace Backend

variable {α : Type}

/-- No coming call fails. -/
structure Healthy (backend : Backend) : Prop where
  writes : ∀ fate ∈ backend.writeScript, fate = none
  reads : ∀ fate ∈ backend.readScript, fate = none

/--
How a call fares that should give a value and leave documents behind: it fails
and changes nothing, or it does as it should.  A healthy backend does not fail
and stays healthy.
-/
inductive Fares (backend : Backend) (value : α) (documents : Documents) :
    Answer α → Prop where
  | failed (error : Error) (after : Backend)
      (same : after.documents = backend.documents)
      (ailing : ¬backend.Healthy) :
      Fares backend value documents (.error error, after)
  | answered (after : Backend) (left : after.documents = documents)
      (healthy : backend.Healthy → after.Healthy) :
      Fares backend value documents (.ok value, after)

theorem eq_none_of_mem_tail {script : List (Option Error)}
    (healthy : ∀ fate ∈ script, fate = none) :
    ∀ fate ∈ script.tail, fate = none := by
  intro fate member
  exact healthy fate (List.mem_of_mem_tail member)

/-- A call that meets a failure is made on a backend that is not healthy. -/
theorem exists_failure {script : List (Option Error)} {error : Error}
    (met : script.head?.join = some error) : ¬∀ fate ∈ script, fate = none := by
  intro healthy
  cases script with
  | nil => cases met
  | cons fate later =>
      rw [healthy fate List.mem_cons_self] at met
      cases met

/-- A call that only asks answers from the documents. -/
theorem ask_fares (answer : Documents → α) (backend : Backend) :
    backend.Fares (answer backend.documents) backend.documents
      (backend.ask answer) := by
  unfold ask
  split
  · next met =>
      exact .failed _ _ rfl fun healthy => exists_failure met healthy.reads
  · exact .answered _ rfl fun healthy =>
      ⟨healthy.writes, eq_none_of_mem_tail healthy.reads⟩

end Backend

end Store

end EventRelay
