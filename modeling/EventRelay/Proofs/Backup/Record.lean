import EventRelay.Backup.Archive
import EventRelay.Proofs.Dictionary
import EventRelay.Proofs.Json.Given
import EventRelay.Proofs.Timestamp

/-!
# Backup records as documents

A record whose moments fit 64 bits is read back from the document that is made
of it.  The records that an archive makes are of this kind, and so is every
record that was read from a document.  Stamping a record changes nothing of
the event it keeps.
-/

namespace EventRelay

open EventRelay.Json EventRelay.Store

namespace BackupRecord

/-- Whether a moment in milliseconds fits a signed whole number of 64 bits. -/
def Fits (millis : Int) : Prop :=
  -0x8000000000000000 ≤ millis ∧ millis < 0x8000000000000000

/-- The moments of the record fit. -/
structure Storable (record : BackupRecord) : Prop where
  failed : Fits record.failedAt
  sent : ∀ millis, record.sentAt = some millis → Fits millis

/-- Whether two records keep the same event under the same identifier. -/
structure SameEvent (left right : BackupRecord) : Prop where
  messageId : left.messageId = right.messageId
  type : left.type = right.type
  envelopeText : left.envelopeText = right.envelopeText

theorem SameEvent.trans
    {left middle right : BackupRecord} (first : left.SameEvent middle)
    (second : middle.SameEvent right) :
    left.SameEvent right :=
  ⟨first.messageId.trans second.messageId, first.type.trans second.type,
    first.envelopeText.trans second.envelopeText⟩

theorem storable_ofFailedSend
    (type : EventType) (envelope : Envelope) {failedAt : Timestamp}
    (valid : failedAt.Valid) :
    (ofFailedSend type envelope failedAt).Storable :=
  ⟨valid.toMillis_range, fun _ unsent => nomatch unsent⟩

theorem Storable.markSent
    {record : BackupRecord} (storable : record.Storable) {sentAt : Timestamp}
    (valid : sentAt.Valid) :
    (record.markSent sentAt).Storable := by
  refine ⟨storable.failed, ?_⟩
  intro millis stamped
  cases stamped
  exact valid.toMillis_range

@[simp]
theorem messageId_markSent (record : BackupRecord) (sentAt : Timestamp) :
    (record.markSent sentAt).messageId = record.messageId :=
  rfl

@[simp]
theorem isSent_markSent (record : BackupRecord) (sentAt : Timestamp) :
    (record.markSent sentAt).isSent = true :=
  rfl

theorem sameEvent_markSent (record : BackupRecord) (sentAt : Timestamp) :
    (record.markSent sentAt).SameEvent record :=
  ⟨rfl, rfl, rfl⟩

end BackupRecord

/-! ## Reading a record back -/

theorem EventType.ofDocument_name (type : EventType) :
    EventType.codec.ofDocument (.text type.name) = .ok type := by
  cases type <;> rfl

namespace BackupRecord

theorem toDocument_eq (record : BackupRecord) :
    codec.toDocument record =
      .object [("envelopeJson", .text record.envelopeText),
        ("eventType", .text record.type.name),
        ("messageFailureTimeMillis", .number (.integer record.failedAt)),
        ("messageId", .text record.messageId),
        ("messageSentTimeMillis",
          record.sentAt.elim .null
            fun millis => .number (.integer millis))] := by
  obtain ⟨type, failedAt, sentAt, messageId, envelopeText⟩ := record
  have written :
      codec.toDocument ⟨type, failedAt, sentAt, messageId, envelopeText⟩ =
        .object (Dictionary.ofEntries [("eventType", .text type.name),
          ("messageFailureTimeMillis", .number (.integer failedAt)),
          ("messageSentTimeMillis", Codec.integer.optional.toDocument sentAt),
          ("messageId", .text messageId),
          ("envelopeJson", .text envelopeText)]) :=
    rfl
  have sent : Codec.integer.optional.toDocument sentAt =
      sentAt.elim .null fun millis => .number (.integer millis) := by
    cases sentAt with
    | none => rfl
    | some millis => rfl
  rw [written, sent]
  simp (disch := decide) only [Dictionary.ofEntries, List.foldl_cons,
    List.foldl_nil, Dictionary.insert_nil, Dictionary.insert_cons_of_lt,
    Dictionary.insert_cons_of_gt]

/-- The fields of a backup record, as its codec lists them. -/
private def fields :
    Fields (EventType × Int × Option Int × String × String × Unit)
      (Option EventType × Option Int × Option (Option Int) × Option String ×
        Option String × Unit) :=
  .cons (.required "eventType" EventType.codec) <|
  .cons (.required "messageFailureTimeMillis" .integer) <|
  .cons (.optional "messageSentTimeMillis" .integer) <|
  .cons (.required "messageId" .text) <|
  .cons (.required "envelopeJson" .text) .nil

theorem ofDocument_toDocument
    {record : BackupRecord} (storable : record.Storable) :
    codec.ofDocument (codec.toDocument record) = .ok record := by
  obtain ⟨type, failedAt, sentAt, messageId, envelopeText⟩ := record
  have failed :
      Codec.integer.ofDocument (.number (.integer failedAt)) = .ok failedAt :=
    if_pos storable.failed
  have sent : Codec.integer.optional.ofDocument
      (sentAt.elim .null fun millis => .number (.integer millis)) =
        .ok sentAt := by
    cases sentAt with
    | none => rfl
    | some millis =>
        have fits :
            Codec.integer.ofDocument (.number (.integer millis)) = .ok millis :=
          if_pos (storable.sent millis rfl)
        simp [Codec.optional, fits, Except.map]
  have named := EventType.ofDocument_name type
  rw [toDocument_eq]
  have taken : fields.takeMembers
      [("envelopeJson", .text envelopeText), ("eventType", .text type.name),
        ("messageFailureTimeMillis", .number (.integer failedAt)),
        ("messageId", .text messageId),
        ("messageSentTimeMillis",
          sentAt.elim .null fun millis => .number (.integer millis))]
      (none, none, none, none, none, ()) =
        .ok (some type, some failedAt, some sentAt, some messageId,
          some envelopeText, ()) := by
    simp [fields, Fields.takeMembers, Fields.slot, Slot.map, Field.required,
      Field.optional, named, failed, sent, Codec.text]
    rfl
  have read (members : List (String × Json)) : codec.ofDocument
      (.object members) =
      ((fields.takeMembers members (none, none, none, none, none, ()) >>=
        fields.finish) >>= fun values =>
          .ok ⟨values.1, values.2.1, values.2.2.1, values.2.2.2.1,
              values.2.2.2.2.1⟩) :=
            rfl
  rw [read, taken]
  rfl

/-- The moments of a record that was read from a document fit. -/
theorem storable_of_ofDocument
    {document : Json} {record : BackupRecord}
    (read : codec.ofDocument document = .ok record) :
    record.Storable := by
  have shown :
      (Codec.record "EventBackupData" fields).ofDocument document >>=
          (fun values =>
            .ok ⟨values.1, values.2.1, values.2.2.1, values.2.2.2.1,
              values.2.2.2.2.1⟩) =
        .ok record :=
    read
  obtain ⟨values, taken, same⟩ := bind_eq_ok.mp shown
  obtain ⟨_, failed, sent, _, _, _⟩ := Codec.hold_of_ofDocument taken
  cases same
  constructor
  · rcases failed with given | never
    · exact Codec.integer_range given
    · cases never
  · intro millis stamped
    rcases sent with given | absent
    · rw [show values.2.2.1 = some millis from stamped] at given
      exact Codec.integer_range (Codec.gives_of_optional given)
    · rw [show values.2.2.1 = some millis from stamped] at absent
      cases absent

end BackupRecord

/-- A record is read back from the document that is made of it. -/
theorem Archive.decode_toDocument
    {record : BackupRecord} (storable : record.Storable) :
    Archive.decode (BackupRecord.codec.toDocument record) = .ok record := by
  unfold Archive.decode
  rw [BackupRecord.ofDocument_toDocument storable]

theorem Archive.storable_of_decode
    {document : Json} {record : BackupRecord}
    (decoded : Archive.decode document = .ok record) :
    record.Storable := by
  unfold Archive.decode at decoded
  split at decoded
  · next read =>
      cases decoded
      exact BackupRecord.storable_of_ofDocument read
  · cases decoded

end EventRelay
