import EventRelay.Backup.Record
import EventRelay.Store.Backend

/-!
# The archive of backup records

An archive keeps backup records as documents of one schema, each under the
identifier of its message.  Records are never removed; sending an event after
all only stamps its record.

A scan reads every document by itself: a document that is no record is
reported and does not hide the others.  Records that wait to be sent come
oldest failure first, and those that failed at the same time stay in key
order.
-/

namespace EventRelay

open EventRelay.Store

/-- Where and how backup records are kept. -/
structure Archive where
  policy : Retry.Policy
  schema : String

/-- A document of the archive that is no backup record. -/
structure Undecodable where
  /-- The identifier that the document gives as a text, if it gives one. -/
  messageId : Option String
  error : Store.Error

/-- The documents of an archive, sorted out. -/
structure Scan where
  /-- Records that wait to be sent, oldest failure first. -/
  unsent : List BackupRecord
  /-- How many records have been sent. -/
  sent : Nat
  undecodable : List Undecodable

namespace Archive

/-- The schema that records are kept in unless another is chosen. -/
def standardSchema : String := "event-backup"

/-- Reads a document as a backup record. -/
def decode (document : Json) : Except Store.Error BackupRecord :=
  match BackupRecord.codec.ofDocument document with
  | .ok record => .ok record
  | .error fault => .error (.undecodable fault)

/-- Files a record under the identifier of its message. -/
def write (archive : Archive) (record : BackupRecord) (backend : Backend) :
    Answer Unit :=
  backend.putRetrying archive.policy archive.schema record.messageId
    (BackupRecord.codec.toDocument record) record.messageId

/-- Keeps an event whose sending failed. -/
def persist
    (archive : Archive) (type : EventType) (envelope : Envelope)
    (failedAt : Timestamp) (backend : Backend) :
    Answer Unit :=
  archive.write (.ofFailedSend type envelope failedAt) backend

/-- Looks up the record that is kept under an identifier. -/
def find (archive : Archive) (messageId : String) (backend : Backend) :
    Answer (Option BackupRecord) :=
  match backend.find? archive.schema messageId with
  | (.ok none, backend) => (.ok none, backend)
  | (.ok (some document), backend) => ((decode document).map some, backend)
  | (.error error, backend) => (.error error, backend)

/--
Lists all records in key order; one document that is no record fails the
whole.
-/
def findAll (archive : Archive) (backend : Backend) :
    Answer (List BackupRecord) :=
  match backend.list archive.schema with
  | (.ok documents, backend) => (documents.mapM decode, backend)
  | (.error error, backend) => (.error error, backend)

/-- What a document is to a scan. -/
inductive Finding where
  | unsent (record : BackupRecord)
  | sent (record : BackupRecord)
  | undecodable (entry : Undecodable)

/-- Judges a document by itself; one that is no record keeps its identifier. -/
def judge (document : Json) : Finding :=
  match decode document with
  | .ok record => if record.isSent then .sent record else .unsent record
  | .error error =>
      .undecodable ⟨(document.member? "messageId").bind Json.asText?, error⟩

/-- The record of a finding that waits to be sent. -/
def Finding.unsent? : Finding → Option BackupRecord
  | .unsent record => some record
  | _ => none

/-- Whether a finding is a record that has been sent. -/
def Finding.isSent : Finding → Bool
  | .sent _ => true
  | _ => false

/-- The entry of a finding that is no record. -/
def Finding.undecodable? : Finding → Option Undecodable
  | .undecodable entry => some entry
  | _ => none

/-- Sorts out documents that are listed in key order. -/
def sortOut (documents : List Json) : Scan :=
  let findings := documents.map judge
  { unsent := (findings.filterMap Finding.unsent?).mergeSort fun left right =>
      decide (left.failedAt ≤ right.failedAt)
    sent := findings.countP Finding.isSent
    undecodable := findings.filterMap Finding.undecodable? }

/-- Reads every document of the archive and sorts them out. -/
def scan (archive : Archive) (backend : Backend) : Answer Scan :=
  match backend.list archive.schema with
  | (.ok documents, backend) => (.ok (sortOut documents), backend)
  | (.error error, backend) => (.error error, backend)

/-- Lists the records that wait to be sent, oldest failure first. -/
def findUnsent (archive : Archive) (backend : Backend) :
    Answer (List BackupRecord) :=
  match archive.scan backend with
  | (.ok scan, backend) => (.ok scan.unsent, backend)
  | (.error error, backend) => (.error error, backend)

/--
Stamps the record under an identifier as sent; answers whether there is one.

The stamped record is filed under the identifier that it holds itself.
-/
def markSent
    (archive : Archive) (messageId : String) (sentAt : Timestamp)
    (backend : Backend) :
    Answer Bool :=
  match archive.find messageId backend with
  | (.ok none, backend) => (.ok false, backend)
  | (.ok (some record), backend) =>
    match archive.write (record.markSent sentAt) backend with
    | (.ok _, backend) => (.ok true, backend)
    | (.error error, backend) => (.error error, backend)
  | (.error error, backend) => (.error error, backend)

end Archive

end EventRelay
