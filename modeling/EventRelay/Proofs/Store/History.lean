import EventRelay.Proofs.Store.Backend
import EventRelay.Proofs.Text.Bytes
import Mathlib.Data.List.Forall2
import Mathlib.Data.List.Induction

/-!
# A store and the calls made on it

What a store that never fails answers is told by the calls made on it since it
was empty.  Under a key lies the document that was filed there last, unless it
was deleted later; a schema lists what lies in it in the order of its keys'
bytes; and the schemas known are those in which something was ever filed.

The documents are kept in two levels of dictionaries.  Filing and deleting keep
both in order, and each changes what lies under one key of one schema.
-/

namespace EventRelay.Store

/-! ## Documents -/

namespace Documents

theorem inSchema_insert
    (documents : Documents) (schema : String) (contents : Dictionary Json)
    (other : String) :
    inSchema ⟨documents.schemas.insert schema contents⟩ other =
      if other = schema then contents else documents.inSchema other := by
  unfold inSchema
  split
  · next same =>
      rw [same, Dictionary.find?_insert_self]
      rfl
  · next different => rw [Dictionary.find?_insert_of_ne different]

/-- Deleting takes a document out of its schema. -/
theorem inSchema_delete (documents : Documents) (schema key other : String) :
    (documents.delete schema key).inSchema other =
      if other = schema then (documents.inSchema schema).erase key
      else documents.inSchema other := by
  unfold delete
  cases known : documents.schemas.find? schema with
  | some contents =>
      have same : documents.inSchema schema = contents := by
        unfold inSchema
        rw [known]
        rfl
      rw [same]
      exact inSchema_insert documents schema _ other
  | none =>
      have fresh : documents.inSchema schema = [] := by
        unfold inSchema
        rw [known]
        rfl
      dsimp only
      split
      · next same =>
          rw [same, fresh]
          rfl
      · rfl

/-- Deleting leaves every other document of every schema as it was. -/
theorem find?_delete_elsewhere
    (documents : Documents) (ordered : ∀ schema,
      (documents.inSchema schema).Ascending)
    {schema key other place : String}
    (elsewhere : (other, place) ≠ (schema, key)) :
    (documents.delete schema key).find? other place =
      documents.find? other place := by
  unfold find?
  rw [inSchema_delete]
  split
  · next same =>
      subst same
      have different : place ≠ key := by
        rintro rfl
        exact elsewhere rfl
      apply Option.ext
      intro document
      rw [((ordered other).erase key).find?_eq_some_iff,
        (ordered other).find?_eq_some_iff, (ordered other).mem_erase]
      exact and_iff_left different
  · rfl

theorem find?_delete_self
    (documents : Documents) (ordered : ∀ schema,
      (documents.inSchema schema).Ascending)
    (schema key : String) :
    (documents.delete schema key).find? schema key = none := by
  unfold find?
  rw [inSchema_delete, if_pos rfl]
  apply Option.eq_none_iff_forall_ne_some.mpr
  intro document found
  rw [((ordered schema).erase key).find?_eq_some_iff,
    (ordered schema).mem_erase] at found
  exact found.2 rfl

/-- Deleting what is not there changes nothing. -/
theorem delete_of_missing
    {documents : Documents} (ordered : documents.schemas.Ascending)
    {schema key : String} (missing : documents.find? schema key = none) :
    documents.delete schema key = documents := by
  unfold delete
  cases known : documents.schemas.find? schema with
  | some contents =>
      have absent : contents.find? key = none := by
        unfold find? inSchema at missing
        rw [known] at missing
        exact missing
      dsimp only
      rw [Dictionary.erase_of_find?_eq_none absent,
        ordered.insert_of_find? known]
  | none => rfl

theorem mem_names_iff
    {documents : Documents} (ordered : documents.schemas.Ascending)
    {schema : String} :
    schema ∈ documents.names ↔
      ∃ contents, documents.schemas.find? schema = some contents := by
  unfold names Dictionary.keys
  rw [List.mem_map]
  constructor
  · rintro ⟨⟨other, contents⟩, member, rfl⟩
    exact ⟨contents, ordered.find?_eq_some_iff.mpr member⟩
  · rintro ⟨contents, found⟩
    exact ⟨(schema, contents), Dictionary.mem_of_find? found, rfl⟩

/-- Filing makes its schema known. -/
theorem mem_names_put
    {documents : Documents} (ordered : documents.schemas.Ascending)
    {schema key other : String} {document : Json} :
    other ∈ (documents.put schema key document).names ↔
      other = schema ∨ other ∈ documents.names := by
  unfold put
  rw [mem_names_iff (ordered.insert schema _), mem_names_iff ordered]
  by_cases same : other = schema
  · subst same
    simp
  · simp [Dictionary.find?_insert_of_ne same, same]

/-- Deleting makes no schema known or unknown. -/
theorem mem_names_delete
    {documents : Documents} (ordered : documents.schemas.Ascending)
    {schema key other : String} :
    other ∈ (documents.delete schema key).names ↔
      other ∈ documents.names := by
  unfold delete
  cases known : documents.schemas.find? schema with
  | some contents =>
      dsimp only
      rw [mem_names_iff (ordered.insert schema _), mem_names_iff ordered]
      by_cases same : other = schema
      · subst same
        simp [known]
      · rw [Dictionary.find?_insert_of_ne same]
  | none => rfl

/-- Both levels of the documents are in order. -/
structure Ordered (documents : Documents) : Prop where
  schemas : documents.schemas.Ascending
  contents : ∀ schema, (documents.inSchema schema).Ascending

theorem ordered_empty : empty.Ordered :=
  ⟨Dictionary.ascending_nil, fun _ => Dictionary.ascending_nil⟩

variable {documents : Documents}

theorem Ordered.put (ordered : documents.Ordered) (schema key : String)
    (document : Json) :
    (documents.put schema key document).Ordered := by
  refine ⟨ordered.schemas.insert schema _, ?_⟩
  intro other
  unfold Documents.put
  rw [inSchema_insert]
  split
  · exact (ordered.contents schema).insert key document
  · exact ordered.contents other

theorem Ordered.delete (ordered : documents.Ordered) (schema key : String) :
    (documents.delete schema key).Ordered := by
  constructor
  · unfold Documents.delete
    split
    · exact ordered.schemas.insert schema _
    · exact ordered.schemas
  · intro other
    rw [inSchema_delete]
    split
    · exact (ordered.contents schema).erase key
    · exact ordered.contents other

end Documents

/-! ## Calls -/

namespace Backend

/-- A call of an operation of a store. -/
inductive Call where
  | put (schema key : String) (document : Json)
  | delete (schema key : String)
  | find (schema key : String)
  | list (schema : String)
  | search (schema field : String) (value : Json)
  | names

/-- What a call answers that does not fail. -/
inductive Reply where
  | done
  | found (document : Option Json)
  | listed (documents : List Json)
  | named (schemas : List String)

/-- Makes one call and answers what the store answered. -/
def perform (call : Call) (backend : Backend) : Answer Reply :=
  match call with
  | .put schema key document =>
    (backend.put schema key document).map (Except.map fun _ => .done) id
  | .delete schema key =>
    (backend.delete schema key).map (Except.map fun _ => .done) id
  | .find schema key =>
    (backend.find? schema key).map (Except.map .found) id
  | .list schema => (backend.list schema).map (Except.map .listed) id
  | .search schema field value =>
    (backend.search schema field value).map (Except.map .listed) id
  | .names => backend.names.map (Except.map .named) id

/-- The store that was empty before calls were made on it. -/
def after (calls : List Call) : Backend :=
  calls.foldl (fun backend call => (backend.perform call).2) .empty

/-- The schema and key under which a call files or deletes. -/
def Call.target? : Call → Option (String × String)
  | .put schema key _ => some (schema, key)
  | .delete schema key => some (schema, key)
  | _ => none

/-- The documents as a call leaves them. -/
def Call.change : Call → Documents → Documents
  | .put schema key document, documents => documents.put schema key document
  | .delete schema key, documents => documents.delete schema key
  | _, documents => documents

/-- What the documents have to answer to a call. -/
def Call.reply : Call → Documents → Reply
  | .put _ _ _, _ => .done
  | .delete _ _, _ => .done
  | .find schema key, documents => .found (documents.find? schema key)
  | .list schema, documents => .listed (documents.list schema)
  | .search schema field value, documents =>
      .listed (documents.search schema field value)
  | .names, documents => .named documents.names

/-- No failure is scripted. -/
def Quiet (backend : Backend) : Prop :=
  backend.writeScript = [] ∧ backend.readScript = []

/-- Where no failure is scripted every call does what it should. -/
theorem Quiet.perform {backend : Backend} (quiet : backend.Quiet)
    (call : Call) :
    (backend.perform call).1 = .ok (call.reply backend.documents) ∧
      (backend.perform call).2.documents = call.change backend.documents ∧
      (backend.perform call).2.Quiet := by
  obtain ⟨documents, writeScript, readScript, writes⟩ := backend
  obtain ⟨rfl, rfl⟩ := quiet
  cases call with
  | put schema key document => exact ⟨rfl, rfl, rfl, rfl⟩
  | delete schema key => exact ⟨rfl, rfl, rfl, rfl⟩
  | find schema key => exact ⟨rfl, rfl, rfl, rfl⟩
  | list schema => exact ⟨rfl, rfl, rfl, rfl⟩
  | search schema field value => exact ⟨rfl, rfl, rfl, rfl⟩
  | names => exact ⟨rfl, rfl, rfl, rfl⟩

theorem after_append_singleton (calls : List Call) (call : Call) :
    after (calls ++ [call]) = ((after calls).perform call).2 := by
  unfold after
  rw [List.foldl_append]
  rfl

/-! ## What the calls tell -/

/--
The last call that filed or deleted under a key of a schema filed the
document.
-/
def Filed (calls : List Call) (schema key : String) (document : Json) : Prop :=
  ∃ earlier later,
    calls = earlier ++ .put schema key document :: later ∧
      ∀ call ∈ later, call.target? ≠ some (schema, key)

/-- Nothing else is filed last, and only if it was not deleted since. -/
theorem filed_append_singleton
    {calls : List Call} {call : Call} {schema key : String} {document : Json} :
    Filed (calls ++ [call]) schema key document ↔
      call = .put schema key document ∨
        (call.target? ≠ some (schema, key) ∧
          Filed calls schema key document) := by
  constructor
  · rintro ⟨earlier, later, shape, quiet⟩
    rcases List.eq_nil_or_concat' later with rfl | ⟨others, last, rfl⟩
    · obtain ⟨-, same⟩ := List.append_inj' shape rfl
      cases same
      exact .inl rfl
    · have shape' : calls ++ [call] =
          (earlier ++ .put schema key document :: others) ++ [last] := by
        rw [shape]
        simp
      obtain ⟨rfl, same⟩ := List.append_inj' shape' rfl
      cases same
      refine .inr ⟨quiet call (by simp), earlier, others, rfl, ?_⟩
      intro other member
      exact quiet other (List.mem_append_left _ member)
  · rintro (rfl | ⟨other, earlier, later, rfl, quiet⟩)
    · exact ⟨calls, [], rfl, nofun⟩
    · refine ⟨earlier, later ++ [call], by simp, ?_⟩
      intro each member
      rcases List.mem_append.mp member with before | last
      · exact quiet each before
      · rw [List.mem_singleton.mp last]
        exact other

/-- A call of another target leaves what is filed. -/
theorem filed_append_elsewhere
    {calls : List Call} {call : Call} {schema key : String} {document : Json}
    (apart : call.target? ≠ some (schema, key)) :
    Filed (calls ++ [call]) schema key document ↔
      Filed calls schema key document := by
  rw [filed_append_singleton]
  constructor
  · rintro (rfl | ⟨-, filed⟩)
    · exact absurd rfl apart
    · exact filed
  · exact fun filed => .inr ⟨apart, filed⟩

/-- A call that puts nothing into a schema adds no such call. -/
theorem put_mem_append_iff
    {calls : List Call} {call : Call} {schema : String}
    (none : ∀ key document, call ≠ .put schema key document)
    {key : String} {document : Json} :
    .put schema key document ∈ calls ++ [call] ↔
      .put schema key document ∈ calls := by
  rw [List.mem_append, List.mem_singleton, or_iff_left]
  exact fun same => none key document same.symm

/-- The keys of texts ascend by their bytes. -/
def AscendingBytes (keys : List String) : Prop :=
  keys.Pairwise fun left right => Text.bytes left < Text.bytes right

/--
The documents that lie in a schema, each once and in the order of the bytes of
their keys.
-/
def Lists (calls : List Call) (schema : String) (documents : List Json) :
    Prop :=
  ∃ keys, AscendingBytes keys ∧
    (∀ key, key ∈ keys ↔ ∃ document, Filed calls schema key document) ∧
      List.Forall₂ (fun key document => Filed calls schema key document)
        keys documents

/--
Whether a member of a document has a value; one that is missing, or of what is
no object, counts as null.
-/
def hasMember (field : String) (value : Json) : Json → Bool
  | .object members => ((Dictionary.find? field members).getD .null).same value
  | _ => Json.null.same value

/-- What a call answers after other calls, told by these. -/
inductive Told (calls : List Call) : Call → Reply → Prop where
  | put (schema key : String) (document : Json) :
      Told calls (.put schema key document) .done
  | delete (schema key : String) : Told calls (.delete schema key) .done
  | found {schema key : String} {answer : Option Json}
      (filed : ∀ document,
        answer = some document ↔ Filed calls schema key document) :
      Told calls (.find schema key) (.found answer)
  | listed {schema : String} {documents : List Json}
      (lists : Lists calls schema documents) :
      Told calls (.list schema) (.listed documents)
  | searched {schema : String} {documents : List Json}
      (lists : Lists calls schema documents) (field : String) (value : Json) :
      Told calls (.search schema field value)
        (.listed (documents.filter (hasMember field value)))
  | named {schemas : List String} (ascending : AscendingBytes schemas)
      (known : ∀ schema,
        schema ∈ schemas ↔
          ∃ key document, .put schema key document ∈ calls) :
      Told calls .names (.named schemas)

/-- What is known of a store after calls. -/
structure Remembers (calls : List Call) (backend : Backend) : Prop where
  quiet : backend.Quiet
  ordered : backend.documents.Ordered
  filed : ∀ schema key document,
    backend.documents.find? schema key = some document ↔
      Filed calls schema key document
  known : ∀ schema,
    schema ∈ backend.documents.names ↔
      ∃ key document, .put schema key document ∈ calls

theorem remembers_nil : Remembers [] .empty := by
  refine ⟨⟨rfl, rfl⟩, Documents.ordered_empty, ?_, ?_⟩
  · intro schema key document
    constructor
    · intro never
      cases never
    · rintro ⟨earlier, later, shape, -⟩
      simp at shape
  · intro schema
    constructor
    · intro never
      cases never
    · rintro ⟨key, document, never⟩
      cases never

variable {calls : List Call} {backend : Backend}

/-- A call without a target neither is remembered nor changes anything. -/
theorem Remembers.idle
    (remembers : Remembers calls backend) {call : Call}
    (none : call.target? = none)
    (same : call.change backend.documents = backend.documents) :
    Remembers (calls ++ [call]) (backend.perform call).2 := by
  obtain ⟨-, changed, quiet⟩ := remembers.quiet.perform call
  rw [same] at changed
  refine ⟨quiet, changed ▸ remembers.ordered, ?_, ?_⟩
  · intro schema key document
    have apart : call.target? ≠ some (schema, key) := by
      rw [none]
      exact nofun
    rw [changed, remembers.filed, filed_append_elsewhere apart]
  · intro schema
    have silent : ∀ key document, call ≠ .put schema key document := by
      rintro key document rfl
      cases none
    simp only [changed, remembers.known, put_mem_append_iff silent]

theorem Remembers.put
    (remembers : Remembers calls backend) (schema key : String)
    (document : Json) :
    Remembers (calls ++ [.put schema key document])
      (backend.perform (.put schema key document)).2 := by
  obtain ⟨-, changed, quiet⟩ :=
    remembers.quiet.perform (.put schema key document)
  refine ⟨quiet, changed ▸ remembers.ordered.put schema key document, ?_, ?_⟩
  · intro other place content
    rw [changed, Call.change]
    by_cases here : (other, place) = (schema, key)
    · cases here
      rw [Documents.find?_put_self, filed_append_singleton]
      simp [Call.target?]
    · have apart : Call.target? (.put schema key document) ≠
          some (other, place) :=
        fun same => here (Option.some.inj same).symm
      rw [Documents.find?_put_elsewhere _ here, remembers.filed,
        filed_append_elsewhere apart]
  · intro other
    rw [changed, Call.change,
      Documents.mem_names_put remembers.ordered.schemas, remembers.known]
    constructor
    · rintro (rfl | ⟨place, content, member⟩)
      · exact ⟨key, document, by simp⟩
      · exact ⟨place, content, List.mem_append_left _ member⟩
    · rintro ⟨place, content, member⟩
      rcases List.mem_append.mp member with before | last
      · exact .inr ⟨place, content, before⟩
      · cases List.mem_singleton.mp last
        exact .inl rfl

theorem Remembers.delete
    (remembers : Remembers calls backend) (schema key : String) :
    Remembers (calls ++ [.delete schema key])
      (backend.perform (.delete schema key)).2 := by
  obtain ⟨-, changed, quiet⟩ := remembers.quiet.perform (.delete schema key)
  refine ⟨quiet, changed ▸ remembers.ordered.delete schema key, ?_, ?_⟩
  · intro other place content
    rw [changed, Call.change]
    by_cases here : (other, place) = (schema, key)
    · cases here
      rw [Documents.find?_delete_self _ remembers.ordered.contents,
        filed_append_singleton]
      simp [Call.target?]
    · have apart : Call.target? (.delete schema key) ≠ some (other, place) :=
        fun same => here (Option.some.inj same).symm
      rw [Documents.find?_delete_elsewhere _ remembers.ordered.contents here,
        remembers.filed, filed_append_elsewhere apart]
  · intro other
    have silent : ∀ place content,
        Call.delete schema key ≠ .put other place content := nofun
    rw [changed, Call.change,
      Documents.mem_names_delete remembers.ordered.schemas, remembers.known]
    simp only [put_mem_append_iff silent]

/-- One more call is remembered, whichever it is. -/
theorem Remembers.step (remembers : Remembers calls backend) (call : Call) :
    Remembers (calls ++ [call]) (backend.perform call).2 := by
  cases call with
  | put schema key document => exact remembers.put schema key document
  | delete schema key => exact remembers.delete schema key
  | find schema key => exact remembers.idle rfl rfl
  | list schema => exact remembers.idle rfl rfl
  | search schema field value => exact remembers.idle rfl rfl
  | names => exact remembers.idle rfl rfl

theorem remembers_after (calls : List Call) :
    Remembers calls (after calls) := by
  induction calls using List.reverseRecOn with
  | nil => exact remembers_nil
  | append_singleton calls call induction =>
      rw [after_append_singleton]
      exact induction.step call

/-! ## Answers -/

theorem ascendingBytes_keys {α : Type} {dictionary : Dictionary α}
    (ascending : dictionary.Ascending) : AscendingBytes dictionary.keys := by
  unfold AscendingBytes Dictionary.keys
  rw [List.pairwise_map]
  exact ascending.imp Text.lt_iff_bytes_lt.mp

theorem Remembers.lists (remembers : Remembers calls backend)
    (schema : String) :
    Lists calls schema (backend.documents.list schema) := by
  have ordered := remembers.ordered.contents schema
  have filed : ∀ key document,
      (key, document) ∈ backend.documents.inSchema schema ↔
        Filed calls schema key document := by
    intro key document
    rw [← remembers.filed, ← ordered.find?_eq_some_iff]
    rfl
  refine ⟨(backend.documents.inSchema schema).keys,
    ascendingBytes_keys ordered, ?_, ?_⟩
  · intro key
    unfold Dictionary.keys
    rw [List.mem_map]
    constructor
    · rintro ⟨⟨key, document⟩, member, rfl⟩
      exact ⟨document, (filed key document).mp member⟩
    · rintro ⟨document, held⟩
      exact ⟨(key, document), (filed key document).mpr held, rfl⟩
  · unfold Documents.list Dictionary.values Dictionary.keys
    rw [List.forall₂_map_left_iff, List.forall₂_map_right_iff,
      List.forall₂_same]
    intro entry member
    exact (filed entry.1 entry.2).mp member

theorem search_eq (documents : Documents) (schema field : String)
    (value : Json) :
    documents.search schema field value =
      (documents.list schema).filter (hasMember field value) := by
  unfold Documents.search
  refine List.filter_congr ?_
  intro document _
  cases document with
  | object members => rfl
  | _ => rfl

theorem Remembers.told (remembers : Remembers calls backend) (call : Call) :
    Told calls call (call.reply backend.documents) := by
  cases call with
  | put schema key document => exact .put schema key document
  | delete schema key => exact .delete schema key
  | find schema key => exact .found (remembers.filed schema key)
  | list schema => exact .listed (remembers.lists schema)
  | search schema field value =>
      rw [Call.reply, search_eq]
      exact .searched (remembers.lists schema) field value
  | names =>
      exact .named (ascendingBytes_keys remembers.ordered.schemas)
        remembers.known

/-- What a store does at a call that was made after others. -/
structure Follows (calls : List Call) (call : Call) : Prop where
  /-- It answers what the calls before tell. -/
  answers : ∃ reply,
    ((after calls).perform call).1 = .ok reply ∧ Told calls call reply
  /-- A call that only asks changes nothing … -/
  asks : call.target? = none →
    (after (calls ++ [call])).documents = (after calls).documents
  /-- … and one that files or deletes, only what lies in its own place. -/
  elsewhere : ∀ target, call.target? = some target →
    (∀ schema key, (schema, key) ≠ target →
      (after (calls ++ [call])).documents.find? schema key =
        (after calls).documents.find? schema key) ∧
    ∀ schema, schema ≠ target.1 →
      (after (calls ++ [call])).documents.inSchema schema =
        (after calls).documents.inSchema schema
  /-- Deleting what is not there changes nothing. -/
  missing : ∀ schema key,
    call = .delete schema key →
      (¬∃ document, Filed calls schema key document) →
        (after (calls ++ [call])).documents = (after calls).documents

/--
After every sequence of calls on a store that was empty, each further call is
answered as the calls before tell, and changes nothing but what it files or
deletes.
-/
theorem follows_calls (calls : List Call) (call : Call) :
    Follows calls call := by
  have remembers := remembers_after calls
  obtain ⟨answer, changed, -⟩ := remembers.quiet.perform call
  rw [← after_append_singleton] at changed
  constructor
  · exact ⟨call.reply (after calls).documents, answer, remembers.told call⟩
  · intro none
    rw [changed]
    cases call with
    | put schema key document => cases none
    | delete schema key => cases none
    | _ => rfl
  · rintro ⟨schema, key⟩ target
    rw [changed]
    cases call with
    | put schema key document =>
        cases target
        refine ⟨fun other place apart =>
          Documents.find?_put_elsewhere _ apart document, ?_⟩
        intro other different
        exact Documents.inSchema_put_of_ne _ different key document
    | delete schema key =>
        cases target
        refine ⟨fun other place apart =>
          Documents.find?_delete_elsewhere _ remembers.ordered.contents apart,
          ?_⟩
        intro other different
        rw [Call.change, Documents.inSchema_delete, if_neg different]
    | _ => cases target
  · rintro schema key rfl absent
    rw [changed]
    refine Documents.delete_of_missing remembers.ordered.schemas ?_
    apply Option.eq_none_iff_forall_ne_some.mpr
    intro document found
    exact absent ⟨document, (remembers.filed schema key document).mp found⟩

end Backend

end EventRelay.Store
