import EventRelay.Proofs.Event.Defaults
import EventRelay.Proofs.Event.Envelope

/-!
# Tolerance of payloads and their envelopes

A payload is read by the members that its kind knows.  Their order and members
of other names make no difference, and one that is left out only resets its
field, as it is in the records inside the payload.  Around the payload nothing
but the user may be left out: an envelope without a header or a payload, a
header without one of its other fields, and a section without its payload are
not read.
-/

namespace EventRelay

open EventRelay.Json

/-! ## Records inside payloads -/

/-- The records that stand inside payloads. -/
inductive Part where
  | address
  | contact
  | caseReference
  deriving DecidableEq

namespace Part

/-- The keys of the objects of a part. -/
def keys : Part → List String
  | .address => Address.keys
  | .contact => Contact.keys
  | .caseReference => CaseReference.keys

/-- The keys of the objects of a part whose values may be null. -/
def nullable : Part → List String
  | .address => Address.keys
  | .contact => Contact.keys
  | .caseReference => []

end Part

namespace CollectionCase

/-- The case without the value of a key in the record at a place. -/
def resetWithin (place key : String) (value : CollectionCase) :
    CollectionCase :=
  match place with
  | "address" => { value with address := value.address.map (Address.reset key) }
  | "contact" => { value with contact := value.contact.map (Contact.reset key) }
  | _ => value

theorem tolerant_address :
    codec.TolerantWithin "address" Address.keys Address.keys Address.keys
      (resetWithin "address") := by
  have holds : codec.Holds "address" Address.codec.optional
      CollectionCase.address
      fun address value => { value with address := address } :=
    shape.holds (by rfl) (by rfl) (fun _ => rfl) fun _ _ => rfl
  exact holds.tolerantWithin Address.codec_tolerant.optional (fun _ => rfl)
    fun _ _ => rfl

theorem tolerant_contact :
    codec.TolerantWithin "contact" Contact.keys Contact.keys Contact.keys
      (resetWithin "contact") := by
  have holds : codec.Holds "contact" Contact.codec.optional
      CollectionCase.contact
      fun contact value => { value with contact := contact } :=
    shape.holds (by rfl) (by rfl) (fun _ => rfl) fun _ _ => rfl
  exact holds.tolerantWithin Contact.codec_tolerant.optional (fun _ => rfl)
    fun _ _ => rfl

end CollectionCase

namespace FulfilmentRequest

/-- The request without the value of a key in the record at a place. -/
def resetWithin (place key : String) (request : FulfilmentRequest) :
    FulfilmentRequest :=
  match place with
  | "contact" =>
      { request with contact := request.contact.map (Contact.reset key) }
  | _ => request

theorem tolerant_contact :
    codec.TolerantWithin "contact" Contact.keys Contact.keys Contact.keys
      (resetWithin "contact") := by
  have holds : codec.Holds "contact" Contact.codec.optional
      FulfilmentRequest.contact
      fun contact request => { request with contact := contact } :=
    shape.holds (by rfl) (by rfl) (fun _ => rfl) fun _ _ => rfl
  exact holds.tolerantWithin Contact.codec_tolerant.optional (fun _ => rfl)
    fun _ _ => rfl

end FulfilmentRequest

namespace Refusal

/-- The refusal without the value of a key in the record at a place. -/
def resetWithin (place key : String) (refusal : Refusal) : Refusal :=
  match place with
  | "collectionCase" =>
      { refusal with
        collectionCase := CaseReference.reset key refusal.collectionCase }
  | "contact" =>
      { refusal with contact := refusal.contact.map (Contact.reset key) }
  | "address" =>
      { refusal with address := refusal.address.map (Address.reset key) }
  | _ => refusal

theorem tolerant_case :
    codec.TolerantWithin "collectionCase" CaseReference.keys CaseReference.keys
      [] (resetWithin "collectionCase") := by
  have holds : codec.Holds "collectionCase" CaseReference.codec
      Refusal.collectionCase
      fun reference refusal => { refusal with collectionCase := reference } :=
    shape.holds (by rfl) (by rfl) (fun _ => rfl) fun _ _ => rfl
  exact holds.tolerantWithin CaseReference.codec_tolerant (fun _ => rfl)
    fun _ _ => rfl

theorem tolerant_contact :
    codec.TolerantWithin "contact" Contact.keys Contact.keys Contact.keys
      (resetWithin "contact") := by
  have holds : codec.Holds "contact" Contact.codec.optional Refusal.contact
      fun contact refusal => { refusal with contact := contact } :=
    shape.holds (by rfl) (by rfl) (fun _ => rfl) fun _ _ => rfl
  exact holds.tolerantWithin Contact.codec_tolerant.optional (fun _ => rfl)
    fun _ _ => rfl

theorem tolerant_address :
    codec.TolerantWithin "address" Address.keys Address.keys Address.keys
      (resetWithin "address") := by
  have holds : codec.Holds "address" Address.codec.optional Refusal.address
      fun address refusal => { refusal with address := address } :=
    shape.holds (by rfl) (by rfl) (fun _ => rfl) fun _ _ => rfl
  exact holds.tolerantWithin Address.codec_tolerant.optional (fun _ => rfl)
    fun _ _ => rfl

end Refusal

/-! ## Payloads by their kinds -/

namespace PayloadKind

/-- The keys of the payloads of a kind. -/
def keys : PayloadKind → List String
  | .collectionCase => CollectionCase.keys
  | .accessCode => AccessCode.keys
  | .fulfilmentRequest => FulfilmentRequest.keys
  | .refusal => Refusal.keys
  | .launch => Launch.keys
  | .authentication => Authentication.keys
  | .survey => Survey.keys
  | .exercise => Exercise.keys
  | .newCase => NewCase.keys

/-- The keys of the payloads of a kind whose values may be null. -/
def nullable : PayloadKind → List String
  | .collectionCase => CollectionCase.nullable
  | .accessCode => AccessCode.nullable
  | .fulfilmentRequest => FulfilmentRequest.nullable
  | .refusal => Refusal.nullable
  | .launch => Launch.nullable
  | .authentication => Authentication.nullable
  | .survey => Survey.nullable
  | .exercise => Exercise.nullable
  | .newCase => NewCase.nullable

/-- The content of a payload without the value of a key. -/
def reset (key : String) : (kind : PayloadKind) → kind.Content → kind.Content
  | .collectionCase => CollectionCase.reset key
  | .accessCode => AccessCode.reset key
  | .fulfilmentRequest => FulfilmentRequest.reset key
  | .refusal => Refusal.reset key
  | .launch => Launch.reset key
  | .authentication => Authentication.reset key
  | .survey => Survey.reset key
  | .exercise => Exercise.reset key
  | .newCase => NewCase.reset key

/-- The records in the payloads of a kind, and the keys of their members. -/
def parts : PayloadKind → List (String × Part)
  | .collectionCase => [("address", .address), ("contact", .contact)]
  | .fulfilmentRequest => [("contact", .contact)]
  | .refusal =>
    [("collectionCase", .caseReference), ("contact", .contact),
      ("address", .address)]
  | _ => []

/-- The content of a payload without the value of a key in a record of it. -/
def resetWithin (place key : String) :
    (kind : PayloadKind) → kind.Content → kind.Content
  | .collectionCase => CollectionCase.resetWithin place key
  | .fulfilmentRequest => FulfilmentRequest.resetWithin place key
  | .refusal => Refusal.resetWithin place key
  | _ => id

theorem codec_tolerant (kind : PayloadKind) :
    kind.codec.Tolerant kind.keys kind.keys kind.nullable
      fun key => kind.reset key :=
  match kind with
  | .collectionCase => CollectionCase.codec_tolerant
  | .accessCode => AccessCode.codec_tolerant
  | .fulfilmentRequest => FulfilmentRequest.codec_tolerant
  | .refusal => Refusal.codec_tolerant
  | .launch => Launch.codec_tolerant
  | .authentication => Authentication.codec_tolerant
  | .survey => Survey.codec_tolerant
  | .exercise => Exercise.codec_tolerant
  | .newCase => NewCase.codec_tolerant

theorem codec_tolerantWithin
    {kind : PayloadKind} {place : String} {part : Part}
    (listed : (place, part) ∈ kind.parts) :
    kind.codec.TolerantWithin place part.keys part.keys part.nullable
      fun key => kind.resetWithin place key := by
  cases kind with
  | collectionCase =>
      fin_cases listed
      · exact CollectionCase.tolerant_address
      · exact CollectionCase.tolerant_contact
  | fulfilmentRequest =>
      fin_cases listed
      exact FulfilmentRequest.tolerant_contact
  | refusal =>
      fin_cases listed
      · exact Refusal.tolerant_case
      · exact Refusal.tolerant_contact
      · exact Refusal.tolerant_address
  | _ => cases listed

end PayloadKind

namespace Payload

/-- The payload without the value of a key. -/
def reset (key : String) (payload : Payload) : Payload :=
  ⟨payload.kind, payload.kind.reset key payload.content⟩

/-- The payload without the value of a key in a record of it. -/
def resetWithin (place key : String) (payload : Payload) : Payload :=
  ⟨payload.kind, payload.kind.resetWithin place key payload.content⟩

end Payload

/-! ## Around the payload -/

namespace Header

/-- The keys of a header. -/
def keys : List String :=
  ["type", "source", "channel", "dateTime", "messageId", "correlationId",
    "originatingUser"]

/-- The keys that every header has. -/
def demanded : List String :=
  ["type", "source", "channel", "dateTime", "messageId", "correlationId"]

/-- The header without the value of a key that may be left out. -/
def reset (key : String) (header : Header) : Header :=
  match key with
  | "originatingUser" => { header with user := none }
  | _ => header

/-- The codec of a header is made from its list of fields. -/
def shape : codec.Shape :=
  .ofRecord (by decide)
    ⟨Codec.name_local _ _, Codec.name_local _ _, Codec.name_local _ _,
      Timestamp.codec_local, Identifier.codec_local, Identifier.codec_local,
      Codec.optional_local Codec.text_local, trivial⟩

theorem codec_tolerant :
    codec.Tolerant keys ["originatingUser"] ["originatingUser"] reset := by
  apply shape.tolerant
  · intro key listed
    fin_cases listed
    exact ⟨_, _, rfl, rfl, fun _ => rfl⟩
  · intro key listed
    fin_cases listed
    exact ⟨_, _, _, _, _, rfl⟩

theorem codec_demands : codec.Demands demanded := by
  apply shape.demands
  intro key listed
  fin_cases listed <;> exact ⟨_, rfl, rfl⟩

end Header

namespace PayloadKind

/-- The codec of a section is made from its one field. -/
def sectionShape (kind : PayloadKind) : kind.sectionCodec.Shape :=
  .ofRecord (section_keys kind) ⟨kind.codec_tolerant.own, trivial⟩

theorem sectionCodec_demands (kind : PayloadKind) :
    kind.sectionCodec.Demands [kind.sectionKey] := by
  apply kind.sectionShape.demands
  intro key listed
  obtain rfl := List.mem_singleton.mp listed
  exact ⟨_, if_pos rfl, rfl⟩

/-- The codec of an envelope is made from its header and its section. -/
def envelopeShape (kind : PayloadKind) : kind.envelopeCodec.Shape :=
  .ofRecord envelope_keys
    ⟨Header.shape.isLocal, kind.sectionShape.isLocal, trivial⟩

theorem envelopeCodec_demands (kind : PayloadKind) :
    kind.envelopeCodec.Demands ["header", "payload"] := by
  apply kind.envelopeShape.demands
  intro key listed
  fin_cases listed <;> exact ⟨_, rfl, rfl⟩

theorem holds_header (kind : PayloadKind) :
    kind.envelopeCodec.Holds "header" Header.codec Prod.fst
      fun header result => (header, result.2) :=
  kind.envelopeShape.holds (by rfl) (by rfl) (fun _ => rfl) fun _ _ => rfl

theorem holds_payload (kind : PayloadKind) :
    kind.envelopeCodec.Holds "payload" kind.sectionCodec Prod.snd
      fun content result => (result.1, content) :=
  kind.envelopeShape.holds (by rfl) (by rfl) (fun _ => rfl) fun _ _ => rfl

end PayloadKind

/-- The envelope without the value of a key of its header. -/
def Envelope.resetHeader (key : String) (envelope : Envelope) : Envelope :=
  { envelope with header := envelope.header.reset key }

/-! ## Tolerance -/

/--
A payload of a kind, and every record inside it, is read by the members that it
knows.  In the envelope around it nothing but the user may be left out.
-/
structure PayloadKind.ByMembers (kind : PayloadKind) : Prop where
  /-- The payload itself; every member may be left out. -/
  payload :
    ReadsAlike (Payload.decode kind) none kind.keys kind.keys kind.nullable
      Payload.reset
  /-- Addresses, contacts and references to cases inside the payload. -/
  parts :
    ∀ place part, (place, part) ∈ kind.parts →
      ReadsAlike (Payload.decode kind) (some place) part.keys part.keys
        part.nullable (Payload.resetWithin place)
  envelope : Requires (Envelope.decode kind) none ["header", "payload"]
  header : Requires (Envelope.decode kind) (some "header") Header.demanded
  payloadSection :
    Requires (Envelope.decode kind) (some "payload") [kind.sectionKey]
  /-- The header of an envelope; only its user may be left out. -/
  user :
    ReadsAlike (Envelope.decode kind) (some "header") Header.keys
      ["originatingUser"] ["originatingUser"] Envelope.resetHeader

/-- Every kind of payload is read by its members. -/
theorem PayloadKind.decode_by_members (kind : PayloadKind) :
    kind.ByMembers := by
  constructor
  case payload =>
    exact kind.codec_tolerant.readsAlike fun _ _ => rfl
  case parts =>
    intro place part listed
    exact (codec_tolerantWithin listed).readsAlike kind.codec_tolerant.own
      fun _ _ => rfl
  case user =>
    have within := kind.holds_header.tolerantWithin Header.codec_tolerant
      (fun _ => rfl) (fun _ _ => rfl)
    exact within.readsAlike kind.envelopeShape.isLocal fun _ _ => rfl
  case envelope =>
    exact kind.envelopeCodec_demands.requires kind.envelopeShape.isLocal
  case header =>
    exact kind.holds_header.requires kind.envelopeShape.isLocal
      Header.codec_demands
  case payloadSection =>
    exact kind.holds_payload.requires kind.envelopeShape.isLocal
      kind.sectionCodec_demands

/-- The members of a launch. -/
def launchMembers : List (String × Json) :=
  [("caseId", .text "a"), ("questionnaireId", .text "b")]

/-- What the members of a launch are read as. -/
def launchPayload : Payload :=
  ⟨.launch, (⟨"b", some "a", none⟩ : Launch)⟩

/-- A launch turned round behind a strange member, and one without a case. -/
theorem PayloadKind.decode_by_members_launch :
    Payload.decode .launch
        (String.ofList
          (print (.object (("seen", .null) :: launchMembers.reverse)))) =
      .ok launchPayload ∧
    Payload.decode .launch
        (String.ofList (print (.object [("questionnaireId", .text "b")]))) =
      .ok (launchPayload.reset "caseId") := by
  have decoded : Payload.decode .launch
      (String.ofList (print (.object launchMembers))) = .ok launchPayload :=
    rfl
  have readsAlike := (PayloadKind.decode_by_members .launch).payload
  have spells := spells_print launchMembers
  constructor
  · have strange : ∀ member ∈ [Member.bare "seen" printNull],
        member.Unknown PayloadKind.launch.keys := by
      intro member listed
      obtain rfl := List.mem_singleton.mp listed
      exact ⟨"seen", Member.bare_name? _ _, by decide⟩
    refine readsAlike.rearranged (.whole spells (spells_print _)) ?_ strange
      decoded
    have turned := (List.reverse_perm launchMembers).cons ("seen", Json.null)
    have behind := turned.trans (List.perm_append_singleton _ _).symm
    simpa [print] using behind.map fun member =>
      Member.bare member.1 member.2.print
  · have others : without "caseId" (launchMembers.map fun member =>
        Member.bare member.1 member.2.print) =
          [("questionnaireId", Json.text "b")].map fun member =>
            Member.bare member.1 member.2.print := by
      simp [launchMembers, without, Member.bare_name?]
    refine readsAlike.removed (by decide) (.whole spells ?_) decoded
    rw [others]
    exact spells_print _

end EventRelay
