import EventRelay.Proofs.Backup.Overlay

/-!
# What one stamp changes

A stamp looks for a record under one key and files the stamped form under the
identifier that the record tells.  For the records that an archive has filed
itself the two are the same, and the stamp changes its own document and no
other.  A document that came otherwise may tell another key: then its stamp
goes there, in place of whatever that key held, and the document itself stays
as it was.  A stamp that finds nothing or fails changes nothing at all.
-/

namespace EventRelay.Archive

open EventRelay.Json EventRelay.Store

/--
The document under a key is read as the stamped form of a record, and no other
document of any schema has changed.
-/
structure StampsOnly
    (archive : Archive) (key : String) (sentAt : Timestamp)
    (record : BackupRecord) (before after : Documents) : Prop where
  stamped : archive.ReadsAt after key (record.markSent sentAt)
  others : ∀ schema other,
    (schema, other) ≠ (archive.schema, key) →
      after.find? schema other = before.find? schema other

/--
The record has been stamped at the same time before and lies, just so, under
the identifier that it tells.
-/
structure StampedBefore
    (archive : Archive) (sentAt : Timestamp) (record : BackupRecord)
    (documents : Documents) : Prop where
  sentAt : record.sentAt = some sentAt.toMillis
  filed :
    documents.find? archive.schema record.messageId =
      some (BackupRecord.codec.toDocument record)

variable {archive : Archive} {documents : Documents} {messageId : String}
  {record : BackupRecord} {sentAt : Timestamp}

/-- A stamp is filed under the identifier that the record tells. -/
theorem stampsOnly_put (storable : record.Storable) (valid : sentAt.Valid) :
    archive.StampsOnly record.messageId sentAt record documents
      (documents.put archive.schema record.messageId
        (BackupRecord.codec.toDocument (record.markSent sentAt))) := by
  have filed := Documents.find?_put_self documents archive.schema
    record.messageId (BackupRecord.codec.toDocument (record.markSent sentAt))
  refine ⟨readsAt_markSent storable valid filed, ?_⟩
  intro schema other different
  exact Documents.find?_put_elsewhere _ different _

/--
A stamp goes to the key under which its record was found if that is the
identifier the record tells, or if there is nothing left to change.
-/
theorem stampsOnly_iff
    (valid : sentAt.Valid)
    (reads : archive.ReadsAt documents messageId record) :
    archive.StampsOnly messageId sentAt record documents
        (documents.put archive.schema record.messageId
          (BackupRecord.codec.toDocument (record.markSent sentAt))) ↔
      record.messageId = messageId ∨
        archive.StampedBefore sentAt record documents := by
  have written :
      archive.StampsOnly record.messageId sentAt record documents
        (documents.put archive.schema record.messageId
          (BackupRecord.codec.toDocument (record.markSent sentAt))) :=
    stampsOnly_put reads.storable valid
  generalize after_eq :
    documents.put archive.schema record.messageId
      (BackupRecord.codec.toDocument (record.markSent sentAt)) = after
    at written ⊢
  have here :
      after.find? archive.schema record.messageId =
        some (BackupRecord.codec.toDocument (record.markSent sentAt)) := by
    rw [← after_eq]
    exact Documents.find?_put_self _ _ _ _
  by_cases own : record.messageId = messageId
  · exact ⟨fun _ => .inl own, fun _ => own ▸ written⟩
  · have elsewhere :
        (archive.schema, messageId) ≠ (archive.schema, record.messageId) :=
      fun same => own (congrArg Prod.snd same).symm
    have stays :
        after.find? archive.schema messageId =
          documents.find? archive.schema messageId :=
      written.others _ _ elsewhere
    have kept : archive.ReadsAt after messageId record := by
      obtain ⟨document, found, decoded⟩ := reads
      exact ⟨document, stays.trans found, decoded⟩
    constructor
    · intro only
      have same : record = record.markSent sentAt := kept.unique only.stamped
      refine .inr ⟨congrArg BackupRecord.sentAt same, ?_⟩
      rw [← only.others _ _ elsewhere.symm, here, ← same]
    · rintro (named | before)
      · exact absurd named own
      · have same : record.markSent sentAt = record := by
          unfold BackupRecord.markSent
          rw [← before.sentAt]
        refine ⟨same ▸ kept, ?_⟩
        intro schema other _
        by_cases place : (schema, other) = (archive.schema, record.messageId)
        · obtain ⟨rfl, rfl⟩ := Prod.mk.inj place
          rw [here, before.filed, same]
        · exact written.others schema other place

/--
What a stamp answers tells what it has done.  If it says that there is a
record, the stamped form of the record under the identifier lies under the
identifier that this record tells and no other document has changed; it is the
document under the identifier asked for exactly if the two are the same or the
stamp had nothing to change.  If it says that there is none, or fails, nothing
has changed.
-/
theorem markSent_stampsOnly_iff
    (archive : Archive) (messageId : String) {sentAt : Timestamp}
    (valid : sentAt.Valid) (backend : Backend) :
    match archive.markSent messageId sentAt backend with
    | (.ok true, after) =>
        ∃ record,
          archive.ReadsAt backend.documents messageId record ∧
          archive.StampsOnly record.messageId sentAt record backend.documents
            after.documents ∧
          (archive.StampsOnly messageId sentAt record backend.documents
              after.documents ↔
            record.messageId = messageId ∨
              archive.StampedBefore sentAt record backend.documents)
    | (.ok false, after) =>
        backend.documents.find? archive.schema messageId = none ∧
          after.documents = backend.documents
    | (.error _, after) => after.documents = backend.documents := by
  have stamps := archive.stamps backend messageId sentAt
  generalize archive.markSent messageId sentAt backend = answer at stamps ⊢
  cases stamps with
  | failed error after same => exact same
  | absent after same missing => exact ⟨missing, same⟩
  | stamped document record after found decoded written =>
      have reads : archive.ReadsAt backend.documents messageId record :=
        ⟨document, found, decoded⟩
      refine ⟨record, reads, ?_, ?_⟩
      · rw [written]
        exact stampsOnly_put reads.storable valid
      · rw [written]
        exact stampsOnly_iff valid reads

/-! ## Two documents, one identifier -/

/-- A record that lies under another key than its identifier. -/
def stray : BackupRecord :=
  ⟨.newCase, 1, none, "second", "new case"⟩

/-- The record that lies under this identifier. -/
def settler : BackupRecord :=
  ⟨.caseUpdate, 2, none, "second", "case update"⟩

/-- The archive that keeps its records in the standard schema. -/
def standard : Archive :=
  ⟨.standard, standardSchema⟩

/-- A store whose two documents tell the same identifier. -/
def crossed : Backend :=
  { Backend.empty with
    documents :=
      (Documents.empty.put standardSchema "first"
        (BackupRecord.codec.toDocument stray)).put standardSchema "second"
        (BackupRecord.codec.toDocument settler) }

theorem markSent_crossed :
    ∃ after,
      standard.markSent "first" ⟨0, 0, 0⟩ crossed = (.ok true, after) ∧
        after.documents =
          crossed.documents.put standardSchema "second"
            (BackupRecord.codec.toDocument (stray.markSent ⟨0, 0, 0⟩)) :=
  ⟨_, rfl, rfl⟩

theorem storable_crossed : stray.Storable ∧ settler.Storable :=
  ⟨⟨⟨by decide, by decide⟩, nofun⟩, ⟨⟨by decide, by decide⟩, nofun⟩⟩

theorem reads_crossed :
    standard.ReadsAt crossed.documents "first" stray ∧
      standard.ReadsAt crossed.documents "second" settler :=
  ⟨⟨_, rfl, decode_toDocument storable_crossed.1⟩,
    ⟨_, rfl, decode_toDocument storable_crossed.2⟩⟩

/-- Stamping one key stamps the other. -/
theorem markSent_stampsOnly_iff_crossed :
    Timestamp.Valid ⟨0, 0, 0⟩ ∧
      ∃ after,
        standard.markSent "first" ⟨0, 0, 0⟩ crossed = (.ok true, after) ∧
          standard.StampsOnly "second" ⟨0, 0, 0⟩ stray crossed.documents
            after.documents ∧
          ¬standard.StampsOnly "first" ⟨0, 0, 0⟩ stray crossed.documents
            after.documents := by
  have valid : Timestamp.Valid ⟨0, 0, 0⟩ := by decide
  have stamps := markSent_stampsOnly_iff standard "first" valid crossed
  obtain ⟨after, answered, _⟩ := markSent_crossed
  rw [answered] at stamps
  obtain ⟨record, reads, only, own⟩ := stamps
  obtain rfl := reads_crossed.1.unique reads
  refine ⟨valid, after, answered, only, ?_⟩
  rw [own]
  rintro (same | before)
  · exact absurd same (by decide)
  · cases before.sentAt

/--
A stamp says that it has stamped the record under a key, but the document
there stays as it was, and another event is lost: its document is overwritten
with the stamped form of the first.
-/
theorem not_stampsOnly_crossed :
    ∃ after,
      standard.markSent "first" ⟨0, 0, 0⟩ crossed = (.ok true, after) ∧
        (¬∃ record,
          standard.ReadsAt crossed.documents "first" record ∧
            standard.StampsOnly "first" ⟨0, 0, 0⟩ record crossed.documents
              after.documents) ∧
        standard.ReadsAt after.documents "first" stray ∧
        standard.ReadsAt crossed.documents "second" settler ∧
        standard.ReadsAt after.documents "second"
          (stray.markSent ⟨0, 0, 0⟩) := by
  obtain ⟨after, answered, written⟩ := markSent_crossed
  obtain ⟨first, second⟩ := reads_crossed
  have valid : Timestamp.Valid ⟨0, 0, 0⟩ := by decide
  have stays : standard.ReadsAt after.documents "first" stray := by
    obtain ⟨document, found, decoded⟩ := first
    have other : "first" ≠ "second" := by decide
    refine ⟨document, ?_, decoded⟩
    rw [written]
    exact (Documents.find?_put_of_ne _ standardSchema other _).trans found
  refine ⟨after, answered, ?_, stays, second, ?_⟩
  · rintro ⟨record, reads, only⟩
    obtain rfl := first.unique reads
    have sent := congrArg BackupRecord.sentAt (stays.unique only.stamped)
    cases sent
  · rw [written]
    exact (stampsOnly_put storable_crossed.1 valid).stamped

end EventRelay.Archive
