import EventRelay.Proofs.Backup.Record
import EventRelay.Proofs.Store.Attempts

/-!
# Archives that only their own records reach

An archive that starts without documents holds nothing but the documents of
records, each under the identifier of its own record.  `Holds` says so,
together with any property that all its records have.  A record that is
`Filed` stays filed: the only writes under its identifier stamp it, and a
stamp keeps the event.
-/

namespace EventRelay

open EventRelay.Json EventRelay.Store

namespace Archive

/--
All documents of the archive are records with a property, under their own
identifiers.
-/
structure Holds
    (archive : Archive) (property : BackupRecord → Prop)
    (documents : Documents) :
    Prop where
  ascending : (documents.inSchema archive.schema).Ascending
  record : ∀ entry ∈ documents.inSchema archive.schema, ∃ record : BackupRecord,
    entry = (record.messageId, BackupRecord.codec.toDocument record) ∧
      record.Storable ∧ property record

/-- The archive has a record of an event under its identifier. -/
def Filed (archive : Archive) (documents : Documents) (record : BackupRecord) :
    Prop :=
  ∃ present : BackupRecord,
    documents.find? archive.schema record.messageId =
        some (BackupRecord.codec.toDocument present) ∧
      present.Storable ∧ present.SameEvent record

variable {archive : Archive} {property : BackupRecord → Prop}
  {documents : Documents}

/-! ## Records and their documents -/

theorem holds_empty : archive.Holds property .empty := by
  refine ⟨Dictionary.ascending_nil, ?_⟩
  intro entry member
  cases member

theorem Holds.mono
    {other : BackupRecord → Prop} (holds : archive.Holds property documents)
    (weaker : ∀ record, property record → other record) :
    archive.Holds other documents := by
  refine ⟨holds.ascending, ?_⟩
  intro entry member
  obtain ⟨record, same, storable, held⟩ := holds.record entry member
  exact ⟨record, same, storable, weaker record held⟩

theorem Holds.put
    (holds : archive.Holds property documents) {record : BackupRecord}
    (storable : record.Storable) (held : property record) :
    archive.Holds property (documents.put archive.schema record.messageId
      (BackupRecord.codec.toDocument record)) := by
  constructor
  · rw [Documents.inSchema_put]
    exact holds.ascending.insert _ _
  · intro entry member
    rw [Documents.inSchema_put] at member
    rcases Dictionary.eq_or_mem_of_mem_insert member with rfl | earlier
    · exact ⟨record, rfl, storable, held⟩
    · exact holds.record entry earlier

/--
A document that is found is that of a record under the identifier that was
looked for.
-/
theorem Holds.of_find?
    (holds : archive.Holds property documents) {messageId : String}
    {document : Json}
    (found : documents.find? archive.schema messageId = some document) :
    ∃ record : BackupRecord,
      record.messageId = messageId ∧
        document = BackupRecord.codec.toDocument record ∧ record.Storable ∧
        property record := by
  obtain ⟨record, same, storable, held⟩ :=
    holds.record _ (Dictionary.mem_of_find? found)
  cases same
  exact ⟨record, rfl, rfl, storable, held⟩

theorem eq_of_toDocument
    {left right : BackupRecord} (leftStorable : left.Storable)
    (rightStorable : right.Storable)
    (same :
      BackupRecord.codec.toDocument left =
        BackupRecord.codec.toDocument right) :
    left = right := by
  have decoded := decode_toDocument leftStorable
  rw [same, decode_toDocument rightStorable] at decoded
  exact (Except.ok.inj decoded).symm

/-! ## Filed records -/

theorem filed_put {record : BackupRecord} (storable : record.Storable) :
    archive.Filed (documents.put archive.schema record.messageId
      (BackupRecord.codec.toDocument record)) record :=
  ⟨record, Documents.find?_put_self _ _ _ _, storable, rfl, rfl, rfl⟩

/--
A filed record stays filed when a record of the same event, or one under
another identifier, is written.
-/
theorem Filed.put
    {record : BackupRecord} (filed : archive.Filed documents record)
    {written : BackupRecord} (storable : written.Storable)
    (compatible :
      written.messageId = record.messageId → written.SameEvent record) :
    archive.Filed (documents.put archive.schema written.messageId
      (BackupRecord.codec.toDocument written)) record := by
  obtain ⟨present, found, presentStorable, same⟩ := filed
  by_cases own : written.messageId = record.messageId
  · refine ⟨written, ?_, storable, compatible own⟩
    rw [own]
    exact Documents.find?_put_self _ _ _ _
  · refine ⟨present, ?_, presentStorable, same⟩
    rw [Documents.find?_put_of_ne _ _ (Ne.symm own)]
    exact found

/--
What is found under the identifier of a filed record is a record of the same
event.
-/
theorem Filed.sameEvent
    {record found : BackupRecord} (filed : archive.Filed documents record)
    (storable : found.Storable)
    (here :
      documents.find? archive.schema record.messageId =
        some (BackupRecord.codec.toDocument found)) :
    found.SameEvent record := by
  obtain ⟨present, presentFound, presentStorable, same⟩ := filed
  rw [here] at presentFound
  rw [eq_of_toDocument storable presentStorable (Option.some.inj presentFound)]
  exact same

/-! ## Scanning -/

theorem unsent?_judge_eq_some {document : Json} {record : BackupRecord} :
    (judge document).unsent? = some record ↔
      decode document = .ok record ∧ record.isSent = false := by
  unfold judge
  cases decode document with
  | error error => simp [Finding.unsent?]
  | ok present =>
      constructor
      · intro waiting
        cases sent : present.isSent with
        | true => simp [sent, Finding.unsent?] at waiting
        | false =>
            obtain rfl : present = record := by
              simpa [sent, Finding.unsent?] using waiting
            exact ⟨rfl, sent⟩
      · rintro ⟨same, unsent⟩
        cases same
        simp [unsent, Finding.unsent?]

/-- A scan gives to be sent what a document decodes to and is not stamped. -/
theorem mem_unsent_iff {contents : List Json} {record : BackupRecord} :
    record ∈ (sortOut contents).unsent ↔
      record.isSent = false ∧
        ∃ document ∈ contents, decode document = .ok record := by
  unfold sortOut
  dsimp only
  rw [(List.mergeSort_perm _ _).mem_iff, List.filterMap_map,
    List.mem_filterMap]
  simp only [Function.comp_apply, unsent?_judge_eq_some]
  constructor
  · rintro ⟨document, listed, decoded, unsent⟩
    exact ⟨unsent, document, listed, decoded⟩
  · rintro ⟨unsent, document, listed, decoded⟩
    exact ⟨document, listed, decoded, unsent⟩

/-- The scan of a single record that is not stamped gives it to be sent. -/
theorem sortOut_single
    {record : BackupRecord} (storable : record.Storable)
    (unsent : record.isSent = false) {key : String}
    (only :
      documents.inSchema archive.schema =
        [(key, BackupRecord.codec.toDocument record)]) :
    sortOut (documents.list archive.schema) = ⟨[record], 0, []⟩ := by
  have judged :
      judge (BackupRecord.codec.toDocument record) = .unsent record := by
    unfold judge
    rw [decode_toDocument storable]
    dsimp only
    rw [unsent]
    rfl
  unfold Documents.list
  rw [only]
  unfold sortOut Dictionary.values
  rw [List.map_singleton, List.map_singleton, judged]
  simp [Finding.unsent?, Finding.isSent, Finding.undecodable?]

theorem Holds.find?_of_mem_unsent
    (holds : archive.Holds property documents) {record : BackupRecord}
    (member : record ∈ (sortOut (documents.list archive.schema)).unsent) :
    documents.find? archive.schema record.messageId =
        some (BackupRecord.codec.toDocument record) ∧
      record.Storable ∧ record.isSent = false := by
  obtain ⟨unsent, document, listed, decoded⟩ := mem_unsent_iff.mp member
  obtain ⟨entry, inSchema, rfl⟩ := List.mem_map.mp listed
  obtain ⟨present, rfl, storable, _⟩ := holds.record entry inSchema
  rw [decode_toDocument storable] at decoded
  cases decoded
  exact ⟨holds.ascending.find?_eq_some_iff.mpr inSchema, storable, unsent⟩

/-- The records that a scan gives to be sent are filed. -/
theorem Holds.filed_of_mem_unsent
    (holds : archive.Holds property documents) {record : BackupRecord}
    (member : record ∈ (sortOut (documents.list archive.schema)).unsent) :
    archive.Filed documents record := by
  obtain ⟨found, storable, _⟩ := holds.find?_of_mem_unsent member
  exact ⟨record, found, storable, rfl, rfl, rfl⟩

/--
What is judged to be waiting keeps the order of the keys, if all documents are
those of records under their identifiers.
-/
theorem sublist_waiting
    (entries : List (String × Json))
    (filed : ∀ entry ∈ entries, ∃ record : BackupRecord,
      entry = (record.messageId, BackupRecord.codec.toDocument record) ∧
        record.Storable) :
    ((((entries.map Prod.snd).map judge).filterMap Finding.unsent?).map
      BackupRecord.messageId).Sublist (entries.map Prod.fst) := by
  induction entries with
  | nil => exact List.Sublist.refl _
  | cons entry entries induction =>
      have others := induction fun entry member =>
        filed entry (List.mem_cons_of_mem _ member)
      obtain ⟨record, rfl, storable⟩ := filed entry List.mem_cons_self
      simp only [List.map_cons, List.filterMap_cons]
      cases found :
          (judge (BackupRecord.codec.toDocument record)).unsent? with
      | none => exact others.cons _
      | some waiting =>
          obtain ⟨decoded, _⟩ := unsent?_judge_eq_some.mp found
          rw [decode_toDocument storable] at decoded
          cases decoded
          exact others.cons_cons _

/-- A scan lists no identifier twice. -/
theorem Holds.nodup_unsent (holds : archive.Holds property documents) :
    ((sortOut (documents.list archive.schema)).unsent.map
      BackupRecord.messageId).Nodup := by
  have filed : ∀ entry ∈ documents.inSchema archive.schema,
      ∃ record : BackupRecord,
        entry = (record.messageId, BackupRecord.codec.toDocument record) ∧
          record.Storable := by
    intro entry member
    obtain ⟨record, same, storable, _⟩ := holds.record entry member
    exact ⟨record, same, storable⟩
  have distinct :
      ((documents.inSchema archive.schema).map Prod.fst).Nodup := by
    rw [List.Nodup, List.pairwise_map]
    refine holds.ascending.imp ?_
    intro left right less same
    exact String.lt_irrefl _ (same ▸ less)
  -- The scan sorts what waits by the time of its failure.
  exact ((List.mergeSort_perm _ _).map _).nodup_iff.mpr
    ((sublist_waiting _ filed).nodup distinct)

/-! ## Calls -/

variable (archive : Archive) (backend : Backend)

theorem write_fares (record : BackupRecord) :
    backend.Fares ()
      (backend.documents.put archive.schema record.messageId
        (BackupRecord.codec.toDocument record))
      (archive.write record backend) :=
  backend.putRetrying_fares _ _ _ _ _

theorem scan_fares :
    backend.Fares (sortOut (backend.documents.list archive.schema))
      backend.documents (archive.scan backend) := by
  have fares := Backend.ask_fares
    (fun documents => documents.list archive.schema) backend
  unfold scan Backend.list
  generalize (backend.ask fun documents => documents.list archive.schema) =
    answer at fares ⊢
  cases fares with
  | failed error after same ailing => exact .failed error after same ailing
  | answered after same healthy => exact .answered after same healthy

/--
How stamping the record under an identifier can go: it fails and changes
nothing, there is no document, or the stamped form of the record that is found
is filed under the identifier that the record itself tells.
-/
inductive Stamps (messageId : String) (sentAt : Timestamp) :
    Answer Bool → Prop where
  | failed (error : Store.Error) (after : Backend)
      (same : after.documents = backend.documents)
      (reason :
        backend.Healthy →
          after.Healthy ∧
            ∃ document,
              backend.documents.find? archive.schema messageId =
                  some document ∧
                decode document = .error error) :
      Stamps messageId sentAt (.error error, after)
  | absent (after : Backend) (same : after.documents = backend.documents)
      (missing : backend.documents.find? archive.schema messageId = none)
      (healthy : backend.Healthy → after.Healthy) :
      Stamps messageId sentAt (.ok false, after)
  | stamped (document : Json) (record : BackupRecord) (after : Backend)
      (found :
        backend.documents.find? archive.schema messageId = some document)
      (decoded : decode document = .ok record)
      (written :
        after.documents =
          backend.documents.put archive.schema record.messageId
            (BackupRecord.codec.toDocument (record.markSent sentAt)))
      (healthy : backend.Healthy → after.Healthy) :
      Stamps messageId sentAt (.ok true, after)

theorem stamps (messageId : String) (sentAt : Timestamp) :
    archive.Stamps backend messageId sentAt
      (archive.markSent messageId sentAt backend) := by
  have looked := Backend.ask_fares
    (fun documents => documents.find? archive.schema messageId) backend
  unfold markSent find Backend.find?
  generalize
    (backend.ask fun documents => documents.find? archive.schema messageId) =
      answer at looked ⊢
  cases looked with
  | failed error after same ailing =>
      exact .failed error after same fun healthy => absurd healthy ailing
  | answered asked same healthy =>
      cases found : backend.documents.find? archive.schema messageId with
      | none => exact .absent asked same found healthy
      | some document =>
          cases decoded : decode document with
          | error error =>
              simp only [decoded, Except.map]
              exact .failed error asked same fun sound =>
                ⟨healthy sound, document, found, decoded⟩
          | ok record =>
              have wrote := archive.write_fares asked (record.markSent sentAt)
              simp only [decoded, Except.map]
              generalize archive.write (record.markSent sentAt) asked =
                outcome at wrote ⊢
              cases wrote with
              | failed error after unchanged ailing =>
                  exact .failed error after (unchanged.trans same)
                    fun sound => absurd (healthy sound) ailing
              | answered after written stillHealthy =>
                  refine .stamped document record after found decoded ?_
                    fun sound => stillHealthy (healthy sound)
                  rw [written, same]
                  rfl

end Archive

end EventRelay
