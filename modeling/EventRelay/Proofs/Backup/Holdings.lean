import EventRelay.Proofs.Backup.Archive

/-!
# An archive as a map of records

To its callers an archive is a finite map from the identifiers of messages to
backup records.  `Holdings.answer` says for each operation what it answers on
such a map and what it makes of it.

The documents of an archive represent a map when they are, key by key, what
its records are written as.  Every operation over documents that represent a
map either fails, and then changes no document, or answers as on the map and
leaves documents that represent what the map has become.  So the documents of
a schema that starts empty represent a map at every point of every run,
whatever calls fail on the way.
-/

namespace EventRelay

open EventRelay.Json EventRelay.Store

/-- Backup records by the identifiers of their messages. -/
abbrev Holdings := Dictionary BackupRecord

namespace Archive

/-- A call of an operation of an archive. -/
inductive Call where
  | persist (type : EventType) (envelope : Envelope) (failedAt : Timestamp)
  | markSent (messageId : String) (sentAt : Timestamp)
  | find (messageId : String)
  | findAll
  | findUnsent
  | scan

/-- What a call answers that does not fail. -/
inductive Reply where
  | done
  | stamped (present : Bool)
  | found (record : Option BackupRecord)
  | listed (records : List BackupRecord)
  | scanned (scan : Scan)

/-- The moments that a call gives are moments. -/
def Call.Timed : Call → Prop
  | .persist _ _ failedAt => failedAt.Valid
  | .markSent _ sentAt => sentAt.Valid
  | _ => True

/-- Makes one call on the store of the archive. -/
def perform (archive : Archive) (call : Call) (backend : Backend) :
    Answer Reply :=
  match call with
  | .persist type envelope failedAt =>
    (archive.persist type envelope failedAt backend).map
      (Except.map fun _ => .done) id
  | .markSent messageId sentAt =>
    (archive.markSent messageId sentAt backend).map (Except.map .stamped) id
  | .find messageId =>
    (archive.find messageId backend).map (Except.map .found) id
  | .findAll => (archive.findAll backend).map (Except.map .listed) id
  | .findUnsent => (archive.findUnsent backend).map (Except.map .listed) id
  | .scan => (archive.scan backend).map (Except.map .scanned) id

/-- Makes calls one after the other and lists what they answer. -/
def performAll (archive : Archive) :
    List Call → Backend → List (Except Store.Error Reply) × Backend
  | [], backend => ([], backend)
  | call :: calls, backend =>
    let (outcome, backend) := archive.perform call backend
    let (outcomes, backend) := archive.performAll calls backend
    (outcome :: outcomes, backend)

end Archive

namespace Holdings

/--
The records that wait to be sent, oldest failure first, and in the order of
their identifiers when they failed at the same time.
-/
def unsent (holdings : Holdings) : List BackupRecord :=
  (holdings.values.filter fun record => !record.isSent).mergeSort
    fun left right => decide (left.failedAt ≤ right.failedAt)

/-- What a call answers on a map, and the map afterwards. -/
def answer (holdings : Holdings) : Archive.Call → Archive.Reply × Holdings
  | .persist type envelope failedAt =>
    (.done,
      holdings.insert envelope.header.messageId.toText
        (.ofFailedSend type envelope failedAt))
  | .markSent messageId sentAt =>
    match holdings.find? messageId with
    | some record =>
        (.stamped true, holdings.insert messageId (record.markSent sentAt))
    | none => (.stamped false, holdings)
  | .find messageId => (.found (holdings.find? messageId), holdings)
  | .findAll => (.listed holdings.values, holdings)
  | .findUnsent => (.listed holdings.unsent, holdings)
  | .scan =>
    (.scanned
        ⟨holdings.unsent, holdings.values.countP BackupRecord.isSent, []⟩,
      holdings)

/--
The calls have answered so and have made one map of another: those that failed
nothing, and the others what they do on a map.
-/
inductive Explains :
    Holdings → List Archive.Call → List (Except Store.Error Archive.Reply) →
      Holdings → Prop where
  | none (holdings : Holdings) : Explains holdings [] [] holdings
  | failed {holdings last : Holdings} {calls : List Archive.Call}
      {outcomes : List (Except Store.Error Archive.Reply)}
      (call : Archive.Call) (error : Store.Error)
      (later : Explains holdings calls outcomes last) :
      Explains holdings (call :: calls) (.error error :: outcomes) last
  | answered {holdings last : Holdings} {calls : List Archive.Call}
      {outcomes : List (Except Store.Error Archive.Reply)}
      (call : Archive.Call)
      (later : Explains (holdings.answer call).2 calls outcomes last) :
      Explains holdings (call :: calls)
        (.ok (holdings.answer call).1 :: outcomes) last

end Holdings

namespace Archive

/--
The documents of the archive are the records of a map, each written under its
own identifier and read back as it was.
-/
structure Represents
    (archive : Archive) (documents : Documents) (holdings : Holdings) :
    Prop where
  written :
    documents.inSchema archive.schema =
      holdings.mapValues BackupRecord.codec.toDocument
  ascending : holdings.Ascending
  own : ∀ entry ∈ holdings, entry.1 = entry.2.messageId
  decoded : ∀ entry ∈ holdings,
    decode (BackupRecord.codec.toDocument entry.2) = .ok entry.2

variable {archive : Archive} {documents : Documents} {holdings : Holdings}

/-! ## What is represented -/

theorem represents_nil
    (fresh : documents.inSchema archive.schema = []) :
    archive.Represents documents [] := by
  constructor
  · exact fresh
  · exact Dictionary.ascending_nil
  · intro entry member
    cases member
  · intro entry member
    cases member

theorem Represents.put
    (represents : archive.Represents documents holdings)
    {record : BackupRecord} (storable : record.Storable) :
    archive.Represents
      (documents.put archive.schema record.messageId
        (BackupRecord.codec.toDocument record))
      (holdings.insert record.messageId record) := by
  constructor
  · rw [Documents.inSchema_put, represents.written,
      Dictionary.mapValues_insert]
  · exact represents.ascending.insert _ _
  · intro entry member
    rcases Dictionary.eq_or_mem_of_mem_insert member with rfl | earlier
    · rfl
    · exact represents.own entry earlier
  · intro entry member
    rcases Dictionary.eq_or_mem_of_mem_insert member with rfl | earlier
    · exact decode_toDocument storable
    · exact represents.decoded entry earlier

theorem Represents.find?_eq
    (represents : archive.Represents documents holdings) (messageId : String) :
    documents.find? archive.schema messageId =
      (holdings.find? messageId).map BackupRecord.codec.toDocument := by
  unfold Documents.find?
  rw [represents.written, Dictionary.find?_mapValues]

theorem Represents.list_eq
    (represents : archive.Represents documents holdings) :
    documents.list archive.schema =
      holdings.values.map BackupRecord.codec.toDocument := by
  unfold Documents.list
  rw [represents.written, Dictionary.values_mapValues]

theorem Represents.decode_of_mem_values
    (represents : archive.Represents documents holdings)
    {record : BackupRecord} (member : record ∈ holdings.values) :
    decode (BackupRecord.codec.toDocument record) = .ok record := by
  obtain ⟨entry, listed, rfl⟩ := List.mem_map.mp member
  exact represents.decoded entry listed

/-- What is found is a record with the identifier, and it is read back. -/
theorem Represents.of_find?
    (represents : archive.Represents documents holdings) {messageId : String}
    {record : BackupRecord}
    (found : holdings.find? messageId = some record) :
    record.messageId = messageId ∧
      decode (BackupRecord.codec.toDocument record) = .ok record := by
  have member := Dictionary.mem_of_find? found
  constructor
  · exact (represents.own (messageId, record) member).symm
  · exact represents.decoded (messageId, record) member

/-! ## Reading all documents -/

theorem mapM_decode
    {records : List BackupRecord}
    (decoded : ∀ record ∈ records,
      decode (BackupRecord.codec.toDocument record) = .ok record) :
    (records.map BackupRecord.codec.toDocument).mapM decode = .ok records := by
  induction records with
  | nil => rfl
  | cons record records induction =>
      have others := induction fun other member =>
        decoded other (List.mem_cons_of_mem _ member)
      rw [List.map_cons, List.mapM_cons, decoded record List.mem_cons_self,
        others]
      rfl

/-- What a record is to a scan. -/
def finding (record : BackupRecord) : Finding :=
  if record.isSent then .sent record else .unsent record

theorem sortOut_toDocument
    {records : List BackupRecord}
    (decoded : ∀ record ∈ records,
      decode (BackupRecord.codec.toDocument record) = .ok record) :
    sortOut (records.map BackupRecord.codec.toDocument) =
      ⟨(records.filter fun record => !record.isSent).mergeSort
          fun left right => decide (left.failedAt ≤ right.failedAt),
        records.countP BackupRecord.isSent, []⟩ := by
  have judged :
      (records.map BackupRecord.codec.toDocument).map judge =
        records.map finding := by
    rw [List.map_map]
    apply List.map_congr_left
    intro record member
    unfold Function.comp judge
    rw [decoded record member]
    rfl
  have waiting : ∀ record,
      (finding record).unsent? = Option.guard (fun r => !r.isSent) record := by
    intro record
    cases sent : record.isSent <;>
      simp [finding, Finding.unsent?, Option.guard, sent]
  have sent : ∀ record, (finding record).isSent = record.isSent := by
    intro record
    cases sent : record.isSent <;> simp [finding, Finding.isSent, sent]
  have sound : ∀ record, (finding record).undecodable? = none := by
    intro record
    cases sent : record.isSent <;> simp [finding, Finding.undecodable?, sent]
  unfold sortOut
  dsimp only
  rw [judged, List.filterMap_map, List.filterMap_map, List.countP_map]
  simp only [Function.comp_def, waiting, sent, sound]
  simp [List.filterMap_eq_filter]

/-! ## One call -/

/--
How a call goes over documents that represent a map: it fails and changes no
document, or it answers as on the map and leaves what represents the map
afterwards.  The other schemas stay as they were.
-/
inductive Accounts
    (archive : Archive) (before : Documents) (holdings : Holdings)
    (call : Call) :
    Answer Reply → Prop where
  | failed (error : Store.Error) (after : Backend)
      (same : after.documents = before) :
      Accounts archive before holdings call (.error error, after)
  | answered (after : Backend)
      (represents :
        archive.Represents after.documents (holdings.answer call).2)
      (apart : ∀ schema, schema ≠ archive.schema →
        after.documents.inSchema schema = before.inSchema schema) :
      Accounts archive before holdings call
        (.ok (holdings.answer call).1, after)

variable {backend : Backend}

/-- A call that answers from the documents and changes none of them. -/
theorem Represents.accounts_of_same
    (represents : archive.Represents backend.documents holdings) {call : Call}
    {reply : Reply} {after : Backend}
    (answers : holdings.answer call = (reply, holdings))
    (same : after.documents = backend.documents) :
    archive.Accounts backend.documents holdings call (.ok reply, after) := by
  have reached :
      archive.Represents after.documents (holdings.answer call).2 := by
    rw [answers, same]
    exact represents
  have accounts :
      archive.Accounts backend.documents holdings call
        (.ok (holdings.answer call).1, after) :=
    .answered after reached fun schema _ => by rw [same]
  rw [answers] at accounts
  exact accounts

/-- A call that files one record. -/
theorem Represents.accounts_of_put
    (represents : archive.Represents backend.documents holdings) {call : Call}
    {reply : Reply} {record : BackupRecord} {after : Backend}
    (answers :
      holdings.answer call = (reply, holdings.insert record.messageId record))
    (storable : record.Storable)
    (written :
      after.documents =
        backend.documents.put archive.schema record.messageId
          (BackupRecord.codec.toDocument record)) :
    archive.Accounts backend.documents holdings call (.ok reply, after) := by
  have reached :
      archive.Represents after.documents (holdings.answer call).2 := by
    rw [answers, written]
    exact represents.put storable
  have accounts :
      archive.Accounts backend.documents holdings call
        (.ok (holdings.answer call).1, after) := by
    refine .answered after reached ?_
    intro schema different
    rw [written, Documents.inSchema_put_of_ne _ different]
  rw [answers] at accounts
  exact accounts

theorem Represents.accounts_persist
    (represents : archive.Represents backend.documents holdings)
    (type : EventType) (envelope : Envelope) {failedAt : Timestamp}
    (valid : failedAt.Valid) :
    archive.Accounts backend.documents holdings
      (.persist type envelope failedAt)
      (archive.perform (.persist type envelope failedAt) backend) := by
  have storable := BackupRecord.storable_ofFailedSend type envelope valid
  have answers :
      holdings.answer (.persist type envelope failedAt) =
        (.done,
          holdings.insert
            (BackupRecord.ofFailedSend type envelope failedAt).messageId
            (.ofFailedSend type envelope failedAt)) :=
    rfl
  unfold perform persist
  dsimp only
  generalize BackupRecord.ofFailedSend type envelope failedAt = record
    at storable answers ⊢
  have wrote := archive.write_fares backend record
  generalize archive.write record backend = answer at wrote ⊢
  cases wrote with
  | failed error after same _ => exact .failed error after same
  | answered after written _ =>
      exact represents.accounts_of_put answers storable written

theorem Represents.accounts_markSent
    (represents : archive.Represents backend.documents holdings)
    (messageId : String) {sentAt : Timestamp} (valid : sentAt.Valid) :
    archive.Accounts backend.documents holdings (.markSent messageId sentAt)
      (archive.perform (.markSent messageId sentAt) backend) := by
  have stamped := archive.stamps backend messageId sentAt
  unfold perform
  dsimp only
  generalize archive.markSent messageId sentAt backend = answer at stamped ⊢
  cases stamped with
  | failed error after same _ => exact .failed error after same
  | absent after same missing _ =>
      rw [represents.find?_eq, Option.map_eq_none_iff] at missing
      apply represents.accounts_of_same _ same
      simp only [Holdings.answer, missing]
  | stamped document record after found decoded written _ =>
      rw [represents.find?_eq, Option.map_eq_some_iff] at found
      obtain ⟨present, found, rfl⟩ := found
      obtain ⟨own, read⟩ := represents.of_find? found
      rw [read] at decoded
      cases decoded
      have storable := (storable_of_decode read).markSent valid
      refine represents.accounts_of_put ?_ storable written
      simp only [Holdings.answer, found, BackupRecord.messageId_markSent, own]

theorem Represents.accounts_find
    (represents : archive.Represents backend.documents holdings)
    (messageId : String) :
    archive.Accounts backend.documents holdings (.find messageId)
      (archive.perform (.find messageId) backend) := by
  have asked := Backend.ask_fares
    (fun documents => documents.find? archive.schema messageId) backend
  unfold perform find Backend.find?
  dsimp only
  generalize
    (backend.ask fun documents => documents.find? archive.schema messageId) =
      answer at asked ⊢
  cases asked with
  | failed error after same _ => exact .failed error after same
  | answered after same _ =>
      rw [represents.find?_eq]
      cases found : holdings.find? messageId with
      | none =>
          apply represents.accounts_of_same _ same
          simp only [Holdings.answer, found]
      | some record =>
          simp only [Option.map_some, (represents.of_find? found).2]
          apply represents.accounts_of_same _ same
          simp only [Holdings.answer, found]

theorem Represents.accounts_findAll
    (represents : archive.Represents backend.documents holdings) :
    archive.Accounts backend.documents holdings .findAll
      (archive.perform .findAll backend) := by
  have asked := Backend.ask_fares
    (fun documents => documents.list archive.schema) backend
  unfold perform findAll Backend.list
  dsimp only
  generalize (backend.ask fun documents => documents.list archive.schema) =
    answer at asked ⊢
  cases asked with
  | failed error after same _ => exact .failed error after same
  | answered after same _ =>
      rw [represents.list_eq]
      dsimp only
      rw [mapM_decode fun record => represents.decode_of_mem_values]
      exact represents.accounts_of_same rfl same

/-- A scan of documents that represent a map sorts out its records. -/
theorem Represents.sortOut_eq
    (represents : archive.Represents documents holdings) :
    sortOut (documents.list archive.schema) =
      ⟨holdings.unsent, holdings.values.countP BackupRecord.isSent, []⟩ := by
  rw [represents.list_eq,
    sortOut_toDocument fun record => represents.decode_of_mem_values]
  rfl

theorem Represents.accounts_findUnsent
    (represents : archive.Represents backend.documents holdings) :
    archive.Accounts backend.documents holdings .findUnsent
      (archive.perform .findUnsent backend) := by
  have scanned := archive.scan_fares backend
  unfold perform findUnsent
  dsimp only
  generalize archive.scan backend = answer at scanned ⊢
  cases scanned with
  | failed error after same _ => exact .failed error after same
  | answered after same _ =>
      rw [represents.sortOut_eq]
      exact represents.accounts_of_same rfl same

theorem Represents.accounts_scan
    (represents : archive.Represents backend.documents holdings) :
    archive.Accounts backend.documents holdings .scan
      (archive.perform .scan backend) := by
  have scanned := archive.scan_fares backend
  unfold perform
  dsimp only
  generalize archive.scan backend = answer at scanned ⊢
  cases scanned with
  | failed error after same _ => exact .failed error after same
  | answered after same _ =>
      rw [represents.sortOut_eq]
      exact represents.accounts_of_same rfl same

/-- Every call goes as on the map that the documents represent. -/
theorem Represents.accounts
    (represents : archive.Represents backend.documents holdings) {call : Call}
    (timed : call.Timed) :
    archive.Accounts backend.documents holdings call
      (archive.perform call backend) := by
  cases call with
  | persist type envelope failedAt =>
      exact represents.accounts_persist type envelope timed
  | markSent messageId sentAt =>
      exact represents.accounts_markSent messageId timed
  | find messageId => exact represents.accounts_find messageId
  | findAll => exact represents.accounts_findAll
  | findUnsent => exact represents.accounts_findUnsent
  | scan => exact represents.accounts_scan

/-! ## Runs -/

/-- No call removes a record. -/
theorem find?_answer_isSome
    (holdings : Holdings) (call : Call) {messageId : String}
    (present : (holdings.find? messageId).isSome) :
    ((holdings.answer call).2.find? messageId).isSome := by
  have filed : ∀ other record,
      ((holdings.insert other record).find? messageId).isSome := by
    intro other record
    by_cases same : messageId = other
    · rw [same, Dictionary.find?_insert_self]
      rfl
    · rw [Dictionary.find?_insert_of_ne same]
      exact present
  cases call with
  | persist type envelope failedAt => exact filed _ _
  | markSent other sentAt =>
      unfold Holdings.answer
      dsimp only
      cases holdings.find? other with
      | none => exact present
      | some record => exact filed _ _
  | find _ => exact present
  | findAll => exact present
  | findUnsent => exact present
  | scan => exact present

theorem find?_isSome_of_explains
    {last : Holdings} {calls : List Call}
    {outcomes : List (Except Store.Error Reply)}
    (explains : holdings.Explains calls outcomes last) {messageId : String}
    (present : (holdings.find? messageId).isSome) :
    (last.find? messageId).isSome := by
  induction explains with
  | none => exact present
  | failed _ _ _ induction => exact induction present
  | answered call _ induction =>
      exact induction (find?_answer_isSome _ call present)

/-- A run over documents that represent a map is a run on the map. -/
theorem Represents.performAll
    {calls : List Call}
    (represents : archive.Represents backend.documents holdings)
    (timed : ∀ call ∈ calls, call.Timed) :
    ∃ last,
      holdings.Explains calls (archive.performAll calls backend).1 last ∧
        archive.Represents (archive.performAll calls backend).2.documents
          last ∧
        ∀ schema, schema ≠ archive.schema →
          (archive.performAll calls backend).2.documents.inSchema schema =
            backend.documents.inSchema schema := by
  induction calls generalizing backend holdings with
  | nil => exact ⟨holdings, .none holdings, represents, fun _ _ => rfl⟩
  | cons call calls induction =>
      have later : ∀ other ∈ calls, other.Timed := fun other member =>
        timed other (List.mem_cons_of_mem _ member)
      have accounts := represents.accounts (timed call List.mem_cons_self)
      unfold Archive.performAll
      generalize archive.perform call backend = answer at accounts ⊢
      cases accounts with
      | failed error after same =>
          rw [← same] at represents
          obtain ⟨last, explains, reached, apart⟩ := induction represents later
          refine ⟨last, .failed call error explains, reached, ?_⟩
          intro schema different
          exact (apart schema different).trans (by rw [same])
      | answered after represents untouched =>
          obtain ⟨last, explains, reached, apart⟩ := induction represents later
          refine ⟨last, .answered call explains, reached, ?_⟩
          intro schema different
          exact (apart schema different).trans (untouched schema different)

/--
An archive whose schema starts empty is a map of records at every point of
every run, whatever calls of the store fail.  Between two points the map
changes as the calls tell that did not fail, no record is lost, and no other
schema changes.
-/
theorem run_refines_map
    (archive : Archive) {backend : Backend}
    (fresh : backend.documents.inSchema archive.schema = [])
    (first second : List Call) (timed : ∀ call ∈ first ++ second, call.Timed) :
    ∃ holdings last,
      Holdings.Explains [] first (archive.performAll first backend).1
          holdings ∧
        archive.Represents (archive.performAll first backend).2.documents
          holdings ∧
        holdings.Explains second
          (archive.performAll second
            (archive.performAll first backend).2).1 last ∧
        archive.Represents
          (archive.performAll second
            (archive.performAll first backend).2).2.documents last ∧
        (∀ messageId, (holdings.find? messageId).isSome →
          (last.find? messageId).isSome) ∧
        ∀ schema, schema ≠ archive.schema →
          (archive.performAll second
              (archive.performAll first backend).2).2.documents.inSchema
                schema =
            backend.documents.inSchema schema := by
  have earlier : ∀ call ∈ first, call.Timed := fun call member =>
    timed call (List.mem_append_left _ member)
  have later : ∀ call ∈ second, call.Timed := fun call member =>
    timed call (List.mem_append_right _ member)
  obtain ⟨holdings, explains, represents, apart⟩ :=
    (represents_nil fresh).performAll earlier
  obtain ⟨last, continues, reached, untouched⟩ := represents.performAll later
  refine ⟨holdings, last, explains, represents, continues, reached, ?_, ?_⟩
  · intro messageId present
    exact find?_isSome_of_explains continues present
  · intro schema different
    exact (untouched schema different).trans (apart schema different)

/-- The envelope of a new case about which nothing is known. -/
def blankEnvelope : Envelope :=
  ⟨⟨.newCase, .sampleLoader, .rm, ⟨0, 0, 0⟩, .timeOrdered 0 0,
      .timeOrdered 0 0, none⟩,
    ⟨.newCase, (⟨"", none, [], []⟩ : NewCase)⟩⟩

/--
A store with a document in another schema; its second write and its second
read fail for good.
-/
def strained : Backend :=
  ⟨⟨[("other", [("key", .null)])]⟩,
    [none, some (.backend .internal "")], [none, some (.backend .internal "")],
    0⟩

/-- The blank case is kept, and stamping it fails. -/
def filing : List Call :=
  [.persist .newCase blankEnvelope ⟨0, 0, 0⟩,
    .markSent blankEnvelope.header.messageId.toText ⟨0, 1, 0⟩]

/-- The blank case is looked for in vain, and stamped after all. -/
def stamping : List Call :=
  [.find blankEnvelope.header.messageId.toText,
    .markSent blankEnvelope.header.messageId.toText ⟨0, 2, 0⟩,
    .scan]

/-- The failures on the way leave a map behind at the end. -/
theorem run_refines_map_strained :
    strained.documents.inSchema standardSchema = [] ∧
      (∀ call ∈ filing ++ stamping, call.Timed) ∧
      ∃ last,
        Archive.Represents ⟨.standard, standardSchema⟩
          (performAll ⟨.standard, standardSchema⟩ stamping
            (performAll ⟨.standard, standardSchema⟩ filing
              strained).2).2.documents
          last := by
  have fresh : strained.documents.inSchema standardSchema = [] := rfl
  have timed : ∀ call ∈ filing ++ stamping, call.Timed := by
    simp only [filing, stamping, List.mem_cons, List.not_mem_nil, or_false,
      forall_eq_or_imp, forall_eq, Call.Timed, List.cons_append,
      List.nil_append]
    decide
  refine ⟨fresh, timed, ?_⟩
  obtain ⟨_, last, _, _, _, represents, _, _⟩ :=
    run_refines_map ⟨.standard, standardSchema⟩ fresh filing stamping timed
  exact ⟨last, represents⟩

end Archive

end EventRelay
