import EventRelay.Proofs.Backup.Waiting
import Mathlib.Data.List.Forall2

/-!
# A scan parts the documents of a schema

A schema may hold any documents under any keys.  A scan puts every one of them
in one place: what waits is the unstamped records, sorted by the time of their
failure and then by key, what is stamped is counted, and what is no record is
reported in the order of the keys.  Listing all records fails where a scan
would report a document, and otherwise gives the same records in the order of
the keys.
-/

namespace EventRelay.Archive

open EventRelay.Json EventRelay.Store

/-! ## The places of documents -/

/-- The record of an entry that is read as one, with the key of the entry. -/
def recordEntry? (entry : String × Json) : Option (String × BackupRecord) :=
  (decode entry.2).toOption.map (Prod.mk entry.1)

/-- The records among documents, each with its key, in the order of the keys. -/
def records (contents : Dictionary Json) : List (String × BackupRecord) :=
  contents.filterMap recordEntry?

/-- The documents that are read as no record. -/
def undecodables (contents : Dictionary Json) : List Json :=
  contents.values.filter isUndecodable

/--
The entry tells why the document is no record.  It gives an identifier exactly
if the document is an object that has a text as its identifier.
-/
structure Reports (document : Json) (entry : Undecodable) : Prop where
  error : decode document = .error entry.error
  messageId : ∀ text, entry.messageId = some text ↔
    ∃ members : Dictionary Json, document = .object members ∧
      members.find? "messageId" = some (.text text)

/--
Every document is in one place of the scan.  The records that wait come by time
and then by key, all else in the ascending order of the keys.
-/
structure Parts (contents : Dictionary Json) (scan : Scan) : Prop where
  ascending : (records contents).Pairwise fun left right => left.1 < right.1
  unsent : ∃ waiting : List (String × BackupRecord),
    scan.unsent = waiting.map Prod.snd ∧
      waiting.Perm ((records contents).filter fun entry => !entry.2.isSent) ∧
      waiting.Pairwise Precedes
  sent : scan.sent = (records contents).countP fun entry => entry.2.isSent
  undecodable :
    List.Forall₂ Reports (undecodables contents) scan.undecodable
  total :
    scan.unsent.length + scan.sent + scan.undecodable.length = contents.length

variable {archive : Archive} {documents : Documents}
  {contents : Dictionary Json}

theorem ascending_records (ordered : contents.Ascending) :
    (records contents).Pairwise fun left right => left.1 < right.1 := by
  refine ordered.filterMap _ ?_
  intro left right less first here second there
  obtain ⟨_, _, rfl⟩ := Option.map_eq_some_iff.mp here
  obtain ⟨_, _, rfl⟩ := Option.map_eq_some_iff.mp there
  exact less

/-- What waits is the records without a stamp. -/
theorem filterMap_waitingEntry? (contents : Dictionary Json) :
    contents.filterMap waitingEntry? =
      (records contents).filter fun entry => !entry.2.isSent := by
  unfold records
  rw [List.filter_filterMap]
  apply congrArg (fun found => List.filterMap found contents)
  funext entry
  unfold waitingEntry? recordEntry? judge
  cases decode entry.2 with
  | error error => rfl
  | ok record =>
      cases sent : record.isSent <;>
        simp [sent, Finding.unsent?, Except.toOption, Option.filter]

theorem countP_isStamped (contents : Dictionary Json) :
    contents.values.countP isStamped =
      (records contents).countP fun entry => entry.2.isSent := by
  unfold records Dictionary.values
  rw [List.countP_map, List.countP_filterMap]
  apply congrArg (fun kind => List.countP kind contents)
  funext entry
  unfold recordEntry?
  rw [Function.comp_apply, isStamped]
  cases decode entry.2 <;> rfl

theorem isUndecodable_of_error
    {document : Json} {error : Store.Error}
    (undecoded : decode document = .error error) :
    isUndecodable document = true := by
  rw [isUndecodable, undecoded]
  rfl

theorem isUndecodable_of_ok
    {document : Json} {record : BackupRecord}
    (decoded : decode document = .ok record) :
    ¬isUndecodable document = true := by
  rw [isUndecodable, decoded]
  exact Bool.false_ne_true

/-- A document that is no record is reported. -/
theorem reports_of_error
    {document : Json} {error : Store.Error}
    (undecoded : decode document = .error error) :
    Reports document
      ⟨(document.member? "messageId").bind Json.asText?, error⟩ where
  error := undecoded
  messageId text := by
    constructor
    · intro given
      obtain ⟨value, found, same⟩ := Option.bind_eq_some_iff.mp given
      cases document with
      | object members =>
          cases value with
          | text value =>
              cases same
              exact ⟨members, rfl, found⟩
          | _ => cases same
      | _ => cases found
    · rintro ⟨members, rfl, found⟩
      exact Option.bind_eq_some_iff.mpr ⟨.text text, found, rfl⟩

theorem forall₂_reports (documents : List Json) :
    List.Forall₂ Reports (documents.filter isUndecodable)
      ((documents.map judge).filterMap Finding.undecodable?) := by
  induction documents with
  | nil => exact .nil
  | cons document documents induction =>
      cases decoded : decode document with
      | error error =>
          have judged :
              (judge document).undecodable? =
                some ⟨(document.member? "messageId").bind Json.asText?,
                  error⟩ := by
            rw [judge, decoded]
            rfl
          rw [List.filter_cons_of_pos (isUndecodable_of_error decoded),
            List.map_cons, List.filterMap_cons_some judged]
          exact .cons (reports_of_error decoded) induction
      | ok record =>
          have judged : (judge document).undecodable? = none := by
            rw [judge, decoded]
            cases sent : record.isSent <;>
              simp [sent, Finding.undecodable?]
          rw [List.filter_cons_of_neg (isUndecodable_of_ok decoded),
            List.map_cons, List.filterMap_cons_none judged]
          exact induction

theorem parts_sortOut
    (ordered : (documents.inSchema archive.schema).Ascending) :
    Parts (documents.inSchema archive.schema)
      (sortOut (documents.list archive.schema)) := by
  obtain ⟨sent, unsent, undecodable⟩ :=
    sortOut_counts (documents.list archive.schema)
  constructor
  · exact ascending_records ordered
  · refine ⟨archive.waiting documents, (archive.map_waiting documents).symm,
      ?_, pairwise_waiting ordered⟩
    rw [← filterMap_waitingEntry?]
    exact List.mergeSort_perm _ _
  · exact sent.trans (countP_isStamped _)
  · exact forall₂_reports _
  · have listed : (documents.list archive.schema).length =
        (documents.inSchema archive.schema).length := List.length_map _
    have stamped : (documents.list archive.schema).length =
        (documents.list archive.schema).countP isStamped +
          (documents.list archive.schema).countP fun document =>
            !isStamped document := by
      simpa using List.length_eq_countP_add_countP isStamped
    rw [countP_not_isStamped] at stamped
    omega

theorem Parts.undecodable_eq_nil_iff {scan : Scan}
    (parts : Parts contents scan) :
    scan.undecodable = [] ↔ undecodables contents = [] := by
  rw [← List.length_eq_zero_iff, ← List.length_eq_zero_iff,
    parts.undecodable.length_eq]

/-! ## Listing all records -/

theorem map_records (contents : Dictionary Json) :
    (records contents).map Prod.snd =
      contents.values.filterMap fun document =>
        (decode document).toOption := by
  unfold records Dictionary.values
  rw [List.map_filterMap, List.filterMap_map]
  apply congrArg (fun found => List.filterMap found contents)
  funext entry
  unfold recordEntry?
  rw [Option.map_map]
  exact Option.map_id_apply

/-- All documents are read, or one of them is no record and none is given. -/
theorem mapM_decode_eq_ok
    {documents : List Json} {found : List BackupRecord} :
    documents.mapM decode = .ok found ↔
      documents.filter isUndecodable = [] ∧
        found = documents.filterMap fun document =>
          (decode document).toOption := by
  induction documents generalizing found with
  | nil =>
      constructor
      · intro read
        cases read
        exact ⟨rfl, rfl⟩
      · rintro ⟨-, rfl⟩
        rfl
  | cons document documents induction =>
      rw [List.mapM_cons]
      cases decoded : decode document with
      | error error =>
          rw [List.filter_cons_of_pos (isUndecodable_of_error decoded)]
          constructor
          · intro read
            cases read
          · rintro ⟨never, -⟩
            cases never
      | ok record =>
          have first :
              (document :: documents).filterMap
                  (fun document => (decode document).toOption) =
                record :: documents.filterMap
                  fun document => (decode document).toOption := by
            rw [List.filterMap_cons, decoded]
            rfl
          rw [List.filter_cons_of_neg (isUndecodable_of_ok decoded), first,
            Json.ok_bind, Json.bind_eq_ok]
          constructor
          · rintro ⟨others, read, same⟩
            cases same
            obtain ⟨readable, rfl⟩ := induction.mp read
            exact ⟨readable, rfl⟩
          · rintro ⟨readable, rfl⟩
            exact ⟨_, induction.mpr ⟨readable, rfl⟩, rfl⟩

/--
A scan parts the documents of the schema, whatever they are.  The records that
wait are those that the scan gives, and all records are given, in the order of
their keys, exactly if the scan reports no document.
-/
theorem scan_parts
    {backend : Backend} (readable : backend.readScript.head?.join = none)
    (ordered : (backend.documents.inSchema archive.schema).Ascending) :
    ∃ scan after,
      archive.scan backend = (.ok scan, after) ∧
      Parts (backend.documents.inSchema archive.schema) scan ∧
      archive.findUnsent backend = (.ok scan.unsent, after) ∧
      ∀ found, (archive.findAll backend).1 = .ok found ↔
        scan.undecodable = [] ∧
          found = (records (backend.documents.inSchema archive.schema)).map
            Prod.snd := by
  have parts := @parts_sortOut archive _ ordered
  let after := { backend with readScript := backend.readScript.tail }
  have listed : backend.list archive.schema =
      (.ok (backend.documents.list archive.schema), after) := by
    unfold Backend.list Backend.ask
    rw [readable]
  have scanned : archive.scan backend =
      (.ok (sortOut (backend.documents.list archive.schema)), after) := by
    unfold scan
    rw [listed]
  refine ⟨_, after, scanned, parts, ?_, ?_⟩
  · unfold findUnsent
    rw [scanned]
  · intro found
    unfold findAll
    rw [listed, map_records, parts.undecodable_eq_nil_iff]
    exact mapM_decode_eq_ok

/--
A schema with two records of one time, which lie against the order of their
identifiers, a document of none and an object that names an event.
-/
def strewn : Backend :=
  let file (key : String) (document : Json) (documents : Documents) :=
    documents.put standardSchema key document
  { Backend.empty with
    documents :=
      file "3" (BackupRecord.codec.toDocument ⟨.refusal, 7, none, "a", ""⟩) <|
      file "1" (BackupRecord.codec.toDocument ⟨.refusal, 7, none, "b", ""⟩) <|
      file "2" (.object [("messageId", .text "c")]) <|
      file "4" .null .empty }

theorem scan_parts_strewn :
    strewn.readScript.head?.join = none ∧
      (strewn.documents.inSchema standardSchema).Ascending ∧
      ∃ scan after,
        Archive.scan ⟨.standard, standardSchema⟩ strewn = (.ok scan, after) ∧
          scan.unsent.map BackupRecord.messageId = ["b", "a"] ∧
          scan.undecodable.map Undecodable.messageId = [some "c", none] ∧
          ∀ found,
            (Archive.findAll ⟨.standard, standardSchema⟩ strewn).1 ≠
              .ok found := by
  have readable : strewn.readScript.head?.join = none := rfl
  have ordered : (strewn.documents.inSchema standardSchema).Ascending := by
    unfold strewn
    dsimp only
    simp only [Documents.inSchema_put]
    exact (((Dictionary.ascending_nil.insert _ _).insert _ _).insert _ _).insert
      _ _
  obtain ⟨scan, after, scanned, parts, -, all⟩ :=
    @scan_parts ⟨.standard, standardSchema⟩ strewn readable ordered
  have same : scan = (sortOut (strewn.documents.list standardSchema)) := by
    cases scanned
    rfl
  refine ⟨readable, ordered, scan, after, scanned, ?_, ?_, ?_⟩
  · have listed :
        ((strewn.documents.list standardSchema).map judge).filterMap
            Finding.unsent? =
          [⟨.refusal, 7, none, "b", ""⟩, ⟨.refusal, 7, none, "a", ""⟩] := rfl
    rw [same, sortOut]
    dsimp only
    rw [listed, List.mergeSort_of_pairwise (by decide)]
    rfl
  · rw [same]
    rfl
  · intro found given
    have unreported := ((all found).mp given).1
    rw [same] at unreported
    cases unreported

end EventRelay.Archive
