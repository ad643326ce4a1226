import EventRelay.Event.Envelope

/-!
# Backup records

A backup record keeps an event that could not be sent: its type, the text of
its envelope, and when it failed.  The only later change is the stamp that it
has been sent after all.
-/

namespace EventRelay

open EventRelay.Json

/-- An event that could not be sent. -/
structure BackupRecord where
  type : EventType
  /-- When sending failed, in milliseconds since 1 January 1970. -/
  failedAt : Int
  /-- When it was sent after all, in the same unit. -/
  sentAt : Option Int
  messageId : String
  envelopeText : String
  deriving DecidableEq

namespace BackupRecord

/-- The record of an envelope whose sending failed. -/
def ofFailedSend
    (type : EventType) (envelope : Envelope) (failedAt : Timestamp) :
    BackupRecord :=
  ⟨type, failedAt.toMillis, none, envelope.header.messageId.toText,
    envelope.encode⟩

/-- Whether the event has been sent after all. -/
def isSent (record : BackupRecord) : Bool :=
  record.sentAt.isSome

/-- Stamps the record; the moment is kept in milliseconds. -/
def markSent (record : BackupRecord) (sentAt : Timestamp) : BackupRecord :=
  { record with sentAt := some sentAt.toMillis }

/-- The codec of backup records; only the time of sending may be missing. -/
def codec : Codec BackupRecord :=
  (Codec.record "EventBackupData"
    (.cons (.required "eventType" EventType.codec) <|
     .cons (.required "messageFailureTimeMillis" .integer) <|
     .cons (.optional "messageSentTimeMillis" .integer) <|
     .cons (.required "messageId" .text) <|
     .cons (.required "envelopeJson" .text) .nil)).imap
    (fun (type, failedAt, sentAt, messageId, envelopeText, _) =>
      ⟨type, failedAt, sentAt, messageId, envelopeText⟩)
    (fun record =>
      (record.type, record.failedAt, record.sentAt, record.messageId,
        record.envelopeText, ()))

end BackupRecord

end EventRelay
