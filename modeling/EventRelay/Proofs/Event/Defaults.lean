import EventRelay.Event.Envelope
import EventRelay.Proofs.Json.Tolerance

/-!
# Payloads with members left out

For every record of a payload, here are the keys that it knows, those of them
whose values may be null, and what becomes of the record when the member of a
key is left out.  Each codec reads its objects accordingly, and so do the three
payloads that hold an address, a contact or a reference to a case.
-/

namespace EventRelay

open EventRelay.Json

theorem Timestamp.codec_local : Timestamp.codec.Local :=
  Codec.parsed_local _ _ _

theorem Identifier.codec_local : Identifier.codec.Local :=
  Codec.parsed_local _ _ _

private theorem optional_text_local : Codec.text.optional.Local :=
  Codec.optional_local Codec.text_local

private theorem optional_document_local : Codec.document.optional.Local :=
  Codec.optional_local Codec.document_local

/-! ## Addresses, contacts and references to cases -/

namespace Address

/-- The keys of an address; the value of each may be null. -/
def keys : List String :=
  ["addressLine1", "addressLine2", "addressLine3", "townName", "postcode",
    "region", "uprn"]

/-- The address without the value of a key. -/
def reset (key : String) (address : Address) : Address :=
  match key with
  | "addressLine1" => { address with line1 := none }
  | "addressLine2" => { address with line2 := none }
  | "addressLine3" => { address with line3 := none }
  | "townName" => { address with town := none }
  | "postcode" => { address with postcode := none }
  | "region" => { address with region := none }
  | "uprn" => { address with propertyReference := none }
  | _ => address

/-- The codec of an address is made from its list of fields. -/
def shape : codec.Shape :=
  .ofRecord (by decide)
    ⟨optional_text_local, optional_text_local, optional_text_local,
      optional_text_local, optional_text_local, optional_text_local,
      optional_text_local, trivial⟩

theorem codec_tolerant : codec.Tolerant keys keys keys reset := by
  apply shape.tolerant
  · intro key listed
    fin_cases listed <;> exact ⟨_, _, rfl, rfl, fun _ => rfl⟩
  · intro key listed
    fin_cases listed <;> exact ⟨_, _, _, _, _, rfl⟩

end Address

namespace Contact

/-- The keys of a contact; the value of each may be null. -/
def keys : List String :=
  ["title", "forename", "surname", "telNo"]

/-- The contact without the value of a key. -/
def reset (key : String) (contact : Contact) : Contact :=
  match key with
  | "title" => { contact with title := none }
  | "forename" => { contact with forename := none }
  | "surname" => { contact with surname := none }
  | "telNo" => { contact with telephone := none }
  | _ => contact

/-- The codec of a contact is made from its list of fields. -/
def shape : codec.Shape :=
  .ofRecord (by decide)
    ⟨optional_text_local, optional_text_local, optional_text_local,
      optional_text_local, trivial⟩

theorem codec_tolerant : codec.Tolerant keys keys keys reset := by
  apply shape.tolerant
  · intro key listed
    fin_cases listed <;> exact ⟨_, _, rfl, rfl, fun _ => rfl⟩
  · intro key listed
    fin_cases listed <;> exact ⟨_, _, _, _, _, rfl⟩

end Contact

namespace CaseReference

/-- The keys of a reference to a case. -/
def keys : List String :=
  ["id"]

/-- The reference without the value of a key. -/
def reset (key : String) (reference : CaseReference) : CaseReference :=
  match key with
  | "id" => { reference with id := "" }
  | _ => reference

/-- The codec of a reference to a case is made from its list of fields. -/
def shape : codec.Shape :=
  .ofRecord (by decide)
    ⟨Codec.text_local, trivial⟩

theorem codec_tolerant : codec.Tolerant keys keys [] reset := by
  apply shape.tolerant
  · intro key listed
    fin_cases listed
    exact ⟨_, _, rfl, rfl, fun _ => rfl⟩
  · intro key never
    cases never

end CaseReference

/-! ## Payloads -/

namespace CollectionCase

/-- The keys of a case that has changed. -/
def keys : List String :=
  ["caseId", "caseRef", "caseType", "survey", "collectionExerciseId", "address",
    "contact", "handDelivery", "invalid", "refusalReceived"]

/-- The keys whose values may be null. -/
def nullable : List String :=
  ["caseRef", "caseType", "survey", "collectionExerciseId", "address",
    "contact", "refusalReceived"]

/-- The case without the value of a key. -/
def reset (key : String) (value : CollectionCase) : CollectionCase :=
  match key with
  | "caseId" => { value with id := "" }
  | "caseRef" => { value with reference := none }
  | "caseType" => { value with caseType := none }
  | "survey" => { value with survey := none }
  | "collectionExerciseId" => { value with collectionExercise := none }
  | "address" => { value with address := none }
  | "contact" => { value with contact := none }
  | "handDelivery" => { value with handDelivery := false }
  | "invalid" => { value with invalid := false }
  | "refusalReceived" => { value with refusalReceived := none }
  | _ => value

/-- The codec of a changed case is made from its list of fields. -/
def shape : codec.Shape :=
  .ofRecord (by decide)
    ⟨Codec.text_local, optional_text_local, optional_text_local,
      optional_text_local, optional_text_local,
      Codec.optional_local Address.shape.isLocal,
      Codec.optional_local Contact.shape.isLocal, Codec.flag_local,
      Codec.flag_local, optional_text_local, trivial⟩

theorem codec_tolerant : codec.Tolerant keys keys nullable reset := by
  apply shape.tolerant
  · intro key listed
    fin_cases listed <;> exact ⟨_, _, rfl, rfl, fun _ => rfl⟩
  · intro key listed
    fin_cases listed <;> exact ⟨_, _, _, _, _, rfl⟩

end CollectionCase

namespace AccessCode

/-- The keys of an access code. -/
def keys : List String :=
  ["uacHash", "active", "questionnaireId", "caseId", "formType"]

/-- The keys whose values may be null. -/
def nullable : List String :=
  ["questionnaireId", "caseId", "formType"]

/-- The access code without the value of a key. -/
def reset (key : String) (code : AccessCode) : AccessCode :=
  match key with
  | "uacHash" => { code with hash := "" }
  | "active" => { code with active := false }
  | "questionnaireId" => { code with questionnaire := none }
  | "caseId" => { code with caseId := none }
  | "formType" => { code with formType := none }
  | _ => code

/-- The codec of an access code is made from its list of fields. -/
def shape : codec.Shape :=
  .ofRecord (by decide)
    ⟨Codec.text_local, Codec.flag_local, optional_text_local,
      optional_text_local, optional_text_local, trivial⟩

theorem codec_tolerant : codec.Tolerant keys keys nullable reset := by
  apply shape.tolerant
  · intro key listed
    fin_cases listed <;> exact ⟨_, _, rfl, rfl, fun _ => rfl⟩
  · intro key listed
    fin_cases listed <;> exact ⟨_, _, _, _, _, rfl⟩

end AccessCode

namespace FulfilmentRequest

/-- The keys of a request for material. -/
def keys : List String :=
  ["caseId", "fulfilmentCode", "individualCaseId", "contact"]

/-- The keys whose values may be null. -/
def nullable : List String :=
  ["individualCaseId", "contact"]

/-- The request without the value of a key. -/
def reset (key : String) (request : FulfilmentRequest) : FulfilmentRequest :=
  match key with
  | "caseId" => { request with caseId := "" }
  | "fulfilmentCode" => { request with code := "" }
  | "individualCaseId" => { request with individualCase := none }
  | "contact" => { request with contact := none }
  | _ => request

/-- The codec of a request is made from its list of fields. -/
def shape : codec.Shape :=
  .ofRecord (by decide)
    ⟨Codec.text_local, Codec.text_local, optional_text_local,
      Codec.optional_local Contact.shape.isLocal, trivial⟩

theorem codec_tolerant : codec.Tolerant keys keys nullable reset := by
  apply shape.tolerant
  · intro key listed
    fin_cases listed <;> exact ⟨_, _, rfl, rfl, fun _ => rfl⟩
  · intro key listed
    fin_cases listed <;> exact ⟨_, _, _, _, _, rfl⟩

end FulfilmentRequest

namespace Refusal

/-- The keys of a refusal. -/
def keys : List String :=
  ["type", "agentId", "callId", "isHouseholder", "collectionCase", "contact",
    "address"]

/-- The keys whose values may be null. -/
def nullable : List String :=
  ["type", "agentId", "callId", "contact", "address"]

/-- The refusal without the value of a key. -/
def reset (key : String) (refusal : Refusal) : Refusal :=
  match key with
  | "type" => { refusal with refusalType := none }
  | "agentId" => { refusal with agent := none }
  | "callId" => { refusal with call := none }
  | "isHouseholder" => { refusal with isHouseholder := false }
  | "collectionCase" => { refusal with collectionCase := ⟨""⟩ }
  | "contact" => { refusal with contact := none }
  | "address" => { refusal with address := none }
  | _ => refusal

/-- The codec of a refusal is made from its list of fields. -/
def shape : codec.Shape :=
  .ofRecord (by decide)
    ⟨optional_text_local, optional_text_local, optional_text_local,
      Codec.flag_local, CaseReference.shape.isLocal,
      Codec.optional_local Contact.shape.isLocal,
      Codec.optional_local Address.shape.isLocal, trivial⟩

theorem codec_tolerant : codec.Tolerant keys keys nullable reset := by
  apply shape.tolerant
  · intro key listed
    fin_cases listed <;> exact ⟨_, _, rfl, rfl, fun _ => rfl⟩
  · intro key listed
    fin_cases listed <;> exact ⟨_, _, _, _, _, rfl⟩

end Refusal

namespace Launch

/-- The keys of a launch. -/
def keys : List String :=
  ["questionnaireId", "caseId", "agentId"]

/-- The keys whose values may be null. -/
def nullable : List String :=
  ["caseId", "agentId"]

/-- The launch without the value of a key. -/
def reset (key : String) (launch : Launch) : Launch :=
  match key with
  | "questionnaireId" => { launch with questionnaire := "" }
  | "caseId" => { launch with caseId := none }
  | "agentId" => { launch with agent := none }
  | _ => launch

/-- The codec of a launch is made from its list of fields. -/
def shape : codec.Shape :=
  .ofRecord (by decide)
    ⟨Codec.text_local, optional_text_local, optional_text_local, trivial⟩

theorem codec_tolerant : codec.Tolerant keys keys nullable reset := by
  apply shape.tolerant
  · intro key listed
    fin_cases listed <;> exact ⟨_, _, rfl, rfl, fun _ => rfl⟩
  · intro key listed
    fin_cases listed <;> exact ⟨_, _, _, _, _, rfl⟩

end Launch

namespace Authentication

/-- The keys of an authentication. -/
def keys : List String :=
  ["questionnaireId", "caseId"]

/-- The keys whose values may be null. -/
def nullable : List String :=
  ["caseId"]

/-- The authentication without the value of a key. -/
def reset (key : String) (authentication : Authentication) : Authentication :=
  match key with
  | "questionnaireId" => { authentication with questionnaire := "" }
  | "caseId" => { authentication with caseId := none }
  | _ => authentication

/-- The codec of an authentication is made from its list of fields. -/
def shape : codec.Shape :=
  .ofRecord (by decide)
    ⟨Codec.text_local, optional_text_local, trivial⟩

theorem codec_tolerant : codec.Tolerant keys keys nullable reset := by
  apply shape.tolerant
  · intro key listed
    fin_cases listed <;> exact ⟨_, _, rfl, rfl, fun _ => rfl⟩
  · intro key listed
    fin_cases listed
    exact ⟨_, _, _, _, _, rfl⟩

end Authentication

namespace Survey

/-- The keys of a survey. -/
def keys : List String :=
  ["surveyId", "name", "sampleDefinitionUrl", "sampleDefinition", "metadata"]

/-- The keys whose values may be null. -/
def nullable : List String :=
  ["name", "sampleDefinitionUrl", "sampleDefinition", "metadata"]

/-- The survey without the value of a key. -/
def reset (key : String) (survey : Survey) : Survey :=
  match key with
  | "surveyId" => { survey with id := "" }
  | "name" => { survey with name := none }
  | "sampleDefinitionUrl" => { survey with sampleDefinitionUrl := none }
  | "sampleDefinition" => { survey with sampleDefinition := none }
  | "metadata" => { survey with metadata := none }
  | _ => survey

/-- The codec of a survey is made from its list of fields. -/
def shape : codec.Shape :=
  .ofRecord (by decide)
    ⟨Codec.text_local, optional_text_local, optional_text_local,
      optional_document_local, optional_document_local, trivial⟩

theorem codec_tolerant : codec.Tolerant keys keys nullable reset := by
  apply shape.tolerant
  · intro key listed
    fin_cases listed <;> exact ⟨_, _, rfl, rfl, fun _ => rfl⟩
  · intro key listed
    fin_cases listed <;> exact ⟨_, _, _, _, _, rfl⟩

end Survey

namespace Exercise

/-- The keys of a collection exercise. -/
def keys : List String :=
  ["collectionExerciseId", "surveyId", "name", "reference", "startDate",
    "endDate", "metadata"]

/-- The keys whose values may be null. -/
def nullable : List String :=
  ["surveyId", "name", "reference", "startDate", "endDate", "metadata"]

/-- The exercise without the value of a key. -/
def reset (key : String) (exercise : Exercise) : Exercise :=
  match key with
  | "collectionExerciseId" => { exercise with id := "" }
  | "surveyId" => { exercise with survey := none }
  | "name" => { exercise with name := none }
  | "reference" => { exercise with reference := none }
  | "startDate" => { exercise with start := none }
  | "endDate" => { exercise with finish := none }
  | "metadata" => { exercise with metadata := none }
  | _ => exercise

/-- The codec of a collection exercise is made from its list of fields. -/
def shape : codec.Shape :=
  .ofRecord (by decide)
    ⟨Codec.text_local, optional_text_local, optional_text_local,
      optional_text_local, Codec.optional_local Timestamp.codec_local,
      Codec.optional_local Timestamp.codec_local, optional_document_local,
      trivial⟩

theorem codec_tolerant : codec.Tolerant keys keys nullable reset := by
  apply shape.tolerant
  · intro key listed
    fin_cases listed <;> exact ⟨_, _, rfl, rfl, fun _ => rfl⟩
  · intro key listed
    fin_cases listed <;> exact ⟨_, _, _, _, _, rfl⟩

end Exercise

namespace NewCase

/-- The keys of a new case. -/
def keys : List String :=
  ["caseId", "collectionExerciseId", "sample", "sampleSensitive"]

/-- The keys whose values may be null. -/
def nullable : List String :=
  ["collectionExerciseId"]

/-- The new case without the value of a key. -/
def reset (key : String) (newCase : NewCase) : NewCase :=
  match key with
  | "caseId" => { newCase with caseId := "" }
  | "collectionExerciseId" => { newCase with collectionExercise := none }
  | "sample" => { newCase with sample := [] }
  | "sampleSensitive" => { newCase with sensitiveSample := [] }
  | _ => newCase

/-- The codec of a new case is made from its list of fields. -/
def shape : codec.Shape :=
  .ofRecord (by decide)
    ⟨Codec.text_local, optional_text_local, Codec.dictionary_local,
      Codec.dictionary_local, trivial⟩

theorem codec_tolerant : codec.Tolerant keys keys nullable reset := by
  apply shape.tolerant
  · intro key listed
    fin_cases listed <;> exact ⟨_, _, rfl, rfl, fun _ => rfl⟩
  · intro key listed
    fin_cases listed
    exact ⟨_, _, _, _, _, rfl⟩

end NewCase

end EventRelay
