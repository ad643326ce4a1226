import EventRelay.Proofs.Backup.Archive

/-!
# What stamping leaves behind

All that stamping writes is the stamped form of some record, under the
identifier that the record tells.  That need not be the key under which the
document of the record lies: an archive files its records under their
identifiers, but a document that came otherwise may tell another key.

`Overlay` says what any number of stamps makes of the documents of an archive,
whatever their shapes.
-/

namespace EventRelay

open EventRelay.Json EventRelay.Store

namespace Archive

/-- The document under a key is read as the record. -/
def ReadsAt
    (archive : Archive) (documents : Documents) (key : String)
    (record : BackupRecord) : Prop :=
  ∃ document,
    documents.find? archive.schema key = some document ∧
      decode document = .ok record

/-- The document under a key is read as a record that is stamped. -/
def StampedAt (archive : Archive) (documents : Documents) (key : String) :
    Prop :=
  ∃ record, archive.ReadsAt documents key record ∧ record.isSent = true

/-- The document under a key is read as a record with the identifier. -/
def NamedAt
    (archive : Archive) (documents : Documents) (key messageId : String) :
    Prop :=
  ∃ record,
    archive.ReadsAt documents key record ∧ record.messageId = messageId

/--
What stamping does to the documents of an archive: the one under a key stays,
or it gives way to the stamped form of a record that was there and tells this
key as its identifier.
-/
structure Overlay (archive : Archive) (before after : Documents) : Prop where
  ordered : (after.inSchema archive.schema).Ascending
  found : ∀ key,
    after.find? archive.schema key = before.find? archive.schema key ∨
      ∃ place record sentAt,
        archive.ReadsAt before place record ∧ record.messageId = key ∧
          sentAt.Valid ∧
          after.find? archive.schema key =
            some (BackupRecord.codec.toDocument (record.markSent sentAt))

variable {archive : Archive} {documents before after : Documents}
  {key : String} {record found : BackupRecord} {sentAt : Timestamp}

/-! ## Reading what is written -/

theorem ReadsAt.unique
    (left : archive.ReadsAt documents key record)
    (right : archive.ReadsAt documents key found) :
    record = found := by
  obtain ⟨document, here, decoded⟩ := left
  obtain ⟨other, there, read⟩ := right
  rw [here] at there
  cases there
  rw [decoded] at read
  exact Except.ok.inj read

theorem ReadsAt.not_stampedAt
    (reads : archive.ReadsAt documents key record)
    (unsent : record.isSent = false) :
    ¬archive.StampedAt documents key := by
  rintro ⟨found, there, sent⟩
  rw [← reads.unique there, unsent] at sent
  cases sent

theorem ReadsAt.storable (reads : archive.ReadsAt documents key record) :
    record.Storable := by
  obtain ⟨_, _, decoded⟩ := reads
  exact storable_of_decode decoded

/-- A stamped form that is filed is read again. -/
theorem readsAt_markSent
    (storable : record.Storable) (valid : sentAt.Valid)
    (here :
      documents.find? archive.schema key =
        some (BackupRecord.codec.toDocument (record.markSent sentAt))) :
    archive.ReadsAt documents key (record.markSent sentAt) :=
  ⟨_, here, decode_toDocument (storable.markSent valid)⟩

/--
What a scan gives to be sent is what the documents under some keys are read as
and is not stamped.
-/
theorem mem_unsent_iff_readsAt
    (ordered : (documents.inSchema archive.schema).Ascending) :
    record ∈ (sortOut (documents.list archive.schema)).unsent ↔
      record.isSent = false ∧ ∃ key, archive.ReadsAt documents key record := by
  rw [mem_unsent_iff]
  apply and_congr_right
  intro _
  constructor
  · rintro ⟨document, listed, decoded⟩
    obtain ⟨⟨key, content⟩, inSchema, rfl⟩ := List.mem_map.mp listed
    exact ⟨key, content, ordered.find?_eq_some_iff.mpr inSchema, decoded⟩
  · rintro ⟨key, document, here, decoded⟩
    exact ⟨document,
      List.mem_map.mpr ⟨_, ordered.find?_eq_some_iff.mp here, rfl⟩, decoded⟩

/-! ## Stamping -/

theorem Overlay.refl (ordered : (before.inSchema archive.schema).Ascending) :
    archive.Overlay before before :=
  ⟨ordered, fun _ => .inl rfl⟩

/--
What is read under a key was read there before, or it is the stamped form of a
record that tells the key.
-/
theorem Overlay.readsAt
    (overlay : archive.Overlay before after)
    (reads : archive.ReadsAt after key found) :
    archive.ReadsAt before key found ∨
      ∃ place record sentAt,
        archive.ReadsAt before place record ∧ record.messageId = key ∧
          found = record.markSent sentAt := by
  rcases overlay.found key with
    same | ⟨place, record, sentAt, source, own, valid, stamped⟩
  · obtain ⟨document, here, decoded⟩ := reads
    exact .inl ⟨document, same ▸ here, decoded⟩
  · exact .inr ⟨place, record, sentAt, source, own,
      reads.unique (readsAt_markSent source.storable valid stamped)⟩

/-- A record that was filed under its own identifier has one that tells it. -/
theorem Overlay.own
    (overlay : archive.Overlay before after)
    (reads : archive.ReadsAt before record.messageId record) :
    archive.NamedAt after record.messageId record.messageId := by
  rcases overlay.found record.messageId with
    same | ⟨place, other, sentAt, source, own, valid, stamped⟩
  · obtain ⟨document, here, decoded⟩ := reads
    exact ⟨record, ⟨document, same.trans here, decoded⟩, rfl⟩
  · exact ⟨_, readsAt_markSent source.storable valid stamped, own⟩

/-- Filing the stamped form of a record that is read somewhere is stamping. -/
theorem Overlay.put
    (overlay : archive.Overlay before after) (valid : sentAt.Valid)
    (reads : archive.ReadsAt after key found) :
    archive.Overlay before
      (after.put archive.schema found.messageId
        (BackupRecord.codec.toDocument (found.markSent sentAt))) := by
  constructor
  · rw [Documents.inSchema_put]
    exact overlay.ordered.insert _ _
  · intro other
    by_cases here : other = found.messageId
    · subst here
      refine .inr ?_
      rw [Documents.find?_put_self]
      rcases overlay.readsAt reads with
        original | ⟨place, record, earlier, source, own, rfl⟩
      · exact ⟨key, found, sentAt, original, rfl, valid, rfl⟩
      · exact ⟨place, record, sentAt, source, rfl, valid, rfl⟩
    · rw [Documents.find?_put_of_ne _ _ here]
      exact overlay.found other

theorem stampedAt_put (storable : found.Storable) (valid : sentAt.Valid) :
    archive.StampedAt
      (documents.put archive.schema found.messageId
        (BackupRecord.codec.toDocument (found.markSent sentAt)))
      found.messageId :=
  ⟨_, readsAt_markSent storable valid (Documents.find?_put_self _ _ _ _), rfl⟩

/-- A key that is stamped stays so. -/
theorem StampedAt.put
    (stamped : archive.StampedAt documents key) (storable : found.Storable)
    (valid : sentAt.Valid) :
    archive.StampedAt
      (documents.put archive.schema found.messageId
        (BackupRecord.codec.toDocument (found.markSent sentAt)))
      key := by
  by_cases here : key = found.messageId
  · subst here
    exact stampedAt_put storable valid
  · obtain ⟨record, ⟨document, present, decoded⟩, sent⟩ := stamped
    refine ⟨record, ⟨document, ?_, decoded⟩, sent⟩
    rw [Documents.find?_put_of_ne _ _ here]
    exact present

/-- A key that no other document tells is stamped only by its own. -/
theorem Overlay.readsAt_of_unnamed
    (overlay : archive.Overlay before after)
    (reads : archive.ReadsAt before key record)
    (misplaced : key ≠ record.messageId)
    (unnamed : ∀ other, other ≠ key → ¬archive.NamedAt before other key) :
    archive.ReadsAt after key record := by
  rcases overlay.found key with
    same | ⟨place, named, sentAt, source, own, _, _⟩
  · obtain ⟨document, here, decoded⟩ := reads
    exact ⟨document, same.trans here, decoded⟩
  · by_cases here : place = key
    · subst here
      obtain rfl := reads.unique source
      exact absurd own.symm misplaced
    · exact absurd ⟨named, source, own⟩ (unnamed place here)

end Archive

end EventRelay
