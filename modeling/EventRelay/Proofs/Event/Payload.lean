import EventRelay.Event.Payload
import EventRelay.Proofs.Json.Record
import EventRelay.Proofs.Timestamp.Text

/-!
# Payloads last

Whatever payload is read from a text, its own text is accepted where its
nesting is allowed, and gives it back.  Records last by their fields, so each
codec is checked against the list of its fields.

Payloads that are made otherwise last too, except that an open document that
is null is written as a missing one is, and comes back as none.  `settled`
does this beforehand.
-/

namespace EventRelay

open EventRelay.Json

/-! ## Moments -/

theorem Timestamp.codec_lasts
    {timestamp : Timestamp} (valid : timestamp.Valid) :
    Timestamp.codec.Lasts timestamp := by
  apply Codec.parsed_lasts
  rw [Timestamp.parse?_toText valid]

theorem Timestamp.codec_lasting (levels : Nat) :
    Timestamp.codec.Lasting levels := by
  apply Codec.parsed_lasting
  intro raw timestamp read
  cases parsed : Timestamp.parse? raw with
  | none =>
      rw [parsed] at read
      cases read
  | some value =>
      rw [parsed] at read
      cases read
      rw [Timestamp.parse?_toText (Timestamp.valid_of_parse? parsed)]

theorem Timestamp.optional_lasts
    {value : Option Timestamp} (valid : ∀ timestamp ∈ value, timestamp.Valid) :
    Timestamp.codec.optional.Lasts value := by
  cases value with
  | none => exact Codec.optional_none_lasts Timestamp.codec
  | some timestamp =>
      exact Codec.optional_some_lasts
        (Timestamp.codec_lasts (valid timestamp rfl))
        (Codec.parsed_shown timestamp)

/-! ## Open documents -/

/-- An open document as it comes back: null stands for none. -/
def settledDocument : Option Json → Option Json
  | some .null => none
  | document => document

theorem settledDocument_lasts
    {value : Option Json} (sound : ∀ document ∈ value, document.Sound) :
    Codec.document.optional.Lasts (settledDocument value) := by
  cases value with
  | none => exact Codec.optional_none_lasts Codec.document
  | some document =>
      have own := sound document rfl
      by_cases null : document = .null
      · rw [null]
        exact Codec.optional_none_lasts Codec.document
      · have kept : settledDocument (some document) = some document := by
          unfold settledDocument
          split
          · next same => exact absurd (Option.some.inj same) null
          · rfl
        rw [kept]
        exact Codec.optional_some_lasts (Codec.document_lasts own)
          (Codec.document_shown own null)

/-! ## Fields of payloads -/

section Fields

variable (key : String) {levels : Nat}

/-- A text that may be missing. -/
private theorem text_field : (Field.optional key .text).Total levels :=
  Field.optional_total key (Codec.text_total levels)

/-- A text that is empty when it is left out. -/
private theorem plain_field : (Field.defaulting key .text "").Total levels :=
  Field.defaulting_total key (Codec.text_total levels) ""

private theorem text_lasts (value : Option String) :
    (Field.optional key .text).Lasts value :=
  (Field.optional_total key (Codec.text_total 0)).lasts value

private theorem plain_lasts (value : String) :
    (Field.defaulting key .text "").Lasts value :=
  (Field.defaulting_total key (Codec.text_total 0) "").lasts value

/-- A flag that is not set when it is left out. -/
private theorem flag_field :
    (Field.defaulting key .flag false).Total levels :=
  Field.defaulting_total key (Codec.flag_total levels) false

private theorem document_field :
    (Field.optional key .document).Lasting levels :=
  Field.optional_lasting key (Codec.document_lasting levels)

private theorem timestamp_field :
    (Field.optional key Timestamp.codec).Lasting levels :=
  Field.optional_lasting key (Timestamp.codec_lasting levels)

/-- A dictionary that is empty when it is left out. -/
private theorem dictionary_field :
    (Field.defaulting key .dictionary []).Lasting 1 :=
  Field.defaulting_lasting key (Codec.dictionary_lasting (Nat.le_refl 1))
    (Codec.dictionary_lasts Dictionary.ascending_nil) (Nat.le_refl 1)

end Fields

/-! ## Payloads of texts and flags -/

theorem Address.codec_total : Address.codec.Total 1 := by
  apply Codec.imap_total fun _ => rfl
  apply Codec.record_total (by decide)
  exact ⟨text_field _, text_field _, text_field _, text_field _, text_field _,
    text_field _, text_field _, trivial⟩

theorem Contact.codec_total : Contact.codec.Total 1 := by
  apply Codec.imap_total fun _ => rfl
  apply Codec.record_total (by decide)
  exact ⟨text_field _, text_field _, text_field _, text_field _, trivial⟩

theorem CaseReference.codec_total : CaseReference.codec.Total 1 := by
  apply Codec.imap_total fun _ => rfl
  apply Codec.record_total (by decide)
  exact ⟨plain_field _, trivial⟩

theorem CollectionCase.codec_total : CollectionCase.codec.Total 2 := by
  apply Codec.imap_total fun _ => rfl
  apply Codec.record_total (by decide)
  exact ⟨plain_field _, text_field _, text_field _, text_field _, text_field _,
    Field.optional_total _ Address.codec_total,
    Field.optional_total _ Contact.codec_total,
    flag_field _, flag_field _, text_field _, trivial⟩

theorem AccessCode.codec_total : AccessCode.codec.Total 2 := by
  apply Codec.imap_total fun _ => rfl
  apply Codec.record_total (by decide)
  exact ⟨plain_field _, flag_field _, text_field _, text_field _, text_field _,
    trivial⟩

theorem FulfilmentRequest.codec_total : FulfilmentRequest.codec.Total 2 := by
  apply Codec.imap_total fun _ => rfl
  apply Codec.record_total (by decide)
  exact ⟨plain_field _, plain_field _, text_field _,
    Field.optional_total _ Contact.codec_total, trivial⟩

theorem Refusal.codec_total : Refusal.codec.Total 2 := by
  apply Codec.imap_total fun _ => rfl
  apply Codec.record_total (by decide)
  exact ⟨text_field _, text_field _, text_field _, flag_field _,
    Field.defaulting_total _ CaseReference.codec_total ⟨""⟩,
    Field.optional_total _ Contact.codec_total,
    Field.optional_total _ Address.codec_total, trivial⟩

theorem Launch.codec_total : Launch.codec.Total 2 := by
  apply Codec.imap_total fun _ => rfl
  apply Codec.record_total (by decide)
  exact ⟨plain_field _, text_field _, text_field _, trivial⟩

theorem Authentication.codec_total : Authentication.codec.Total 2 := by
  apply Codec.imap_total fun _ => rfl
  apply Codec.record_total (by decide)
  exact ⟨plain_field _, text_field _, trivial⟩

/-! ## Payloads that were read -/

theorem Survey.codec_lasting : Survey.codec.Lasting 2 := by
  apply Codec.imap_lasting fun _ => rfl
  apply Codec.record_lasting (by decide)
  exact ⟨(plain_field _).lasting, (text_field _).lasting,
    (text_field _).lasting, document_field _, document_field _, trivial⟩

theorem Exercise.codec_lasting : Exercise.codec.Lasting 2 := by
  apply Codec.imap_lasting fun _ => rfl
  apply Codec.record_lasting (by decide)
  exact ⟨(plain_field _).lasting, (text_field _).lasting,
    (text_field _).lasting, (text_field _).lasting, timestamp_field _,
    timestamp_field _, document_field _, trivial⟩

theorem NewCase.codec_lasting : NewCase.codec.Lasting 2 := by
  apply Codec.imap_lasting fun _ => rfl
  apply Codec.record_lasting (by decide)
  exact ⟨(plain_field _).lasting, (text_field _).lasting, dictionary_field _,
    dictionary_field _, trivial⟩

/-- Every payload that was read lasts, whatever its kind. -/
theorem PayloadKind.codec_lasting (kind : PayloadKind) :
    kind.codec.Lasting 2 := by
  cases kind with
  | collectionCase => exact CollectionCase.codec_total.lasting
  | accessCode => exact AccessCode.codec_total.lasting
  | fulfilmentRequest => exact FulfilmentRequest.codec_total.lasting
  | refusal => exact Refusal.codec_total.lasting
  | launch => exact Launch.codec_total.lasting
  | authentication => exact Authentication.codec_total.lasting
  | survey => exact Survey.codec_lasting
  | exercise => exact Exercise.codec_lasting
  | newCase => exact NewCase.codec_lasting

/-! ## Payloads that were made -/

/-- The open documents of a survey can be given by texts. -/
structure Survey.Proper (survey : Survey) : Prop where
  sampleDefinition : ∀ document ∈ survey.sampleDefinition, document.Sound
  metadata : ∀ document ∈ survey.metadata, document.Sound

/--
The days of an exercise are on the calendar, and its open document can be
given by a text.
-/
structure Exercise.Proper (exercise : Exercise) : Prop where
  start : ∀ timestamp ∈ exercise.start, timestamp.Valid
  finish : ∀ timestamp ∈ exercise.finish, timestamp.Valid
  metadata : ∀ document ∈ exercise.metadata, document.Sound

/-- The dictionaries of a new case are in order. -/
structure NewCase.Proper (newCase : NewCase) : Prop where
  sample : newCase.sample.Ascending
  sensitiveSample : newCase.sensitiveSample.Ascending

/-- The survey with none for a document that is null. -/
def Survey.settled (survey : Survey) : Survey :=
  { survey with
    sampleDefinition := settledDocument survey.sampleDefinition
    metadata := settledDocument survey.metadata }

/-- The exercise with none for a document that is null. -/
def Exercise.settled (exercise : Exercise) : Exercise :=
  { exercise with metadata := settledDocument exercise.metadata }

theorem Survey.write_settled (survey : Survey) :
    Survey.codec.write survey.settled = Survey.codec.write survey ∧
      Survey.codec.toDocument survey.settled =
        Survey.codec.toDocument survey := by
  obtain ⟨id, name, url, sampleDefinition, metadata⟩ := survey
  unfold Survey.settled settledDocument
  dsimp only
  split <;> split <;> exact ⟨rfl, rfl⟩

theorem Exercise.write_settled (exercise : Exercise) :
    Exercise.codec.write exercise.settled = Exercise.codec.write exercise ∧
      Exercise.codec.toDocument exercise.settled =
        Exercise.codec.toDocument exercise := by
  obtain ⟨id, survey, name, reference, start, finish, metadata⟩ := exercise
  unfold Exercise.settled settledDocument
  dsimp only
  split <;> exact ⟨rfl, rfl⟩

/-- All numbers of a survey are in its open documents. -/
theorem Survey.steady
    {survey : Survey}
    (sampleDefinition : ∀ document ∈ survey.sampleDefinition, document.Steady)
    (metadata : ∀ document ∈ survey.metadata, document.Steady) :
    (Survey.codec.toDocument survey).Steady := by
  apply Codec.steady_record "SurveyUpdate"
  refine List.forall_mem_cons.mpr ⟨.text _, ?_⟩
  refine List.forall_mem_cons.mpr ⟨Codec.steady_optional fun _ _ => .text _, ?_⟩
  refine List.forall_mem_cons.mpr ⟨Codec.steady_optional fun _ _ => .text _, ?_⟩
  refine List.forall_mem_cons.mpr ⟨Codec.steady_optional sampleDefinition, ?_⟩
  exact List.forall_mem_singleton.mpr (Codec.steady_optional metadata)

theorem Survey.codec_lasts {survey : Survey} (proper : survey.Proper) :
    Survey.codec.Lasts survey.settled := by
  apply Codec.imap_lasts rfl
  apply Codec.record_lasts (by decide)
  exact ⟨plain_lasts _ _, text_lasts _ _, text_lasts _ _,
    ⟨settledDocument_lasts proper.sampleDefinition, nofun⟩,
    ⟨settledDocument_lasts proper.metadata, nofun⟩, trivial⟩

theorem Exercise.codec_lasts {exercise : Exercise} (proper : exercise.Proper) :
    Exercise.codec.Lasts exercise.settled := by
  apply Codec.imap_lasts rfl
  apply Codec.record_lasts (by decide)
  exact ⟨plain_lasts _ _, text_lasts _ _, text_lasts _ _, text_lasts _ _,
    ⟨Timestamp.optional_lasts proper.start, nofun⟩,
    ⟨Timestamp.optional_lasts proper.finish, nofun⟩,
    ⟨settledDocument_lasts proper.metadata, nofun⟩, trivial⟩

theorem NewCase.codec_lasts {newCase : NewCase} (proper : newCase.Proper) :
    NewCase.codec.Lasts newCase := by
  apply Codec.imap_lasts rfl
  apply Codec.record_lasts (by decide)
  exact ⟨plain_lasts _ _, text_lasts _ _,
    ⟨Codec.dictionary_lasts proper.sample, nofun⟩,
    ⟨Codec.dictionary_lasts proper.sensitiveSample, nofun⟩, trivial⟩

namespace PayloadKind

/-- What holds of every content that a program can make. -/
def Proper : (kind : PayloadKind) → kind.Content → Prop
  | .survey => Survey.Proper
  | .exercise => Exercise.Proper
  | .newCase => NewCase.Proper
  | _ => fun _ => True

/-- The content with none for an open document that is null. -/
def settled : (kind : PayloadKind) → kind.Content → kind.Content
  | .survey => Survey.settled
  | .exercise => Exercise.settled
  | .collectionCase => id
  | .accessCode => id
  | .fulfilmentRequest => id
  | .refusal => id
  | .launch => id
  | .authentication => id
  | .newCase => id

/-- A content and its settled form are written in the same way. -/
theorem write_settled (kind : PayloadKind) (content : kind.Content) :
    kind.codec.write (kind.settled content) = kind.codec.write content ∧
      kind.codec.toDocument (kind.settled content) =
        kind.codec.toDocument content := by
  cases kind with
  | survey => exact Survey.write_settled content
  | exercise => exact Exercise.write_settled content
  | _ => exact ⟨rfl, rfl⟩

/-- Every proper content lasts once it is settled. -/
theorem codec_lasts
    {kind : PayloadKind} {content : kind.Content}
    (proper : kind.Proper content) :
    kind.codec.Lasts (kind.settled content) := by
  cases kind with
  | collectionCase => exact CollectionCase.codec_total.lasts content
  | accessCode => exact AccessCode.codec_total.lasts content
  | fulfilmentRequest => exact FulfilmentRequest.codec_total.lasts content
  | refusal => exact Refusal.codec_total.lasts content
  | launch => exact Launch.codec_total.lasts content
  | authentication => exact Authentication.codec_total.lasts content
  | survey => exact Survey.codec_lasts proper
  | exercise => exact Exercise.codec_lasts proper
  | newCase => exact NewCase.codec_lasts proper

end PayloadKind

end EventRelay
