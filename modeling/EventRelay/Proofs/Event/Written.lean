import EventRelay.Proofs.Event.Envelope
import EventRelay.Proofs.Json.Printed

/-!
# Texts of events

Every record of an event is written as the text of a document: the headers, the
payloads of all kinds, their sections and whole envelopes.
-/

namespace EventRelay

open EventRelay.Json

private theorem text_printed : (Codec.text.optional).Printed :=
  Codec.text_printed.optional

theorem Timestamp.codec_printed : Timestamp.codec.Printed :=
  Codec.parsed_printed _ _ _

theorem Identifier.codec_printed : Identifier.codec.Printed :=
  Codec.parsed_printed _ _ _

theorem Address.codec_printed : Address.codec.Printed := by
  apply Codec.Printed.imap
  apply Codec.record_printed (by decide)
  exact ⟨text_printed, text_printed, text_printed, text_printed, text_printed,
    text_printed, text_printed, trivial⟩

theorem Contact.codec_printed : Contact.codec.Printed := by
  apply Codec.Printed.imap
  apply Codec.record_printed (by decide)
  exact ⟨text_printed, text_printed, text_printed, text_printed, trivial⟩

theorem CaseReference.codec_printed : CaseReference.codec.Printed := by
  apply Codec.Printed.imap
  apply Codec.record_printed (by decide)
  exact ⟨Codec.text_printed, trivial⟩

theorem CollectionCase.codec_printed : CollectionCase.codec.Printed := by
  apply Codec.Printed.imap
  apply Codec.record_printed (by decide)
  exact ⟨Codec.text_printed, text_printed, text_printed, text_printed,
    text_printed, Address.codec_printed.optional,
    Contact.codec_printed.optional, Codec.flag_printed, Codec.flag_printed,
    text_printed, trivial⟩

theorem AccessCode.codec_printed : AccessCode.codec.Printed := by
  apply Codec.Printed.imap
  apply Codec.record_printed (by decide)
  exact ⟨Codec.text_printed, Codec.flag_printed, text_printed, text_printed,
    text_printed, trivial⟩

theorem FulfilmentRequest.codec_printed : FulfilmentRequest.codec.Printed := by
  apply Codec.Printed.imap
  apply Codec.record_printed (by decide)
  exact ⟨Codec.text_printed, Codec.text_printed, text_printed,
    Contact.codec_printed.optional, trivial⟩

theorem Refusal.codec_printed : Refusal.codec.Printed := by
  apply Codec.Printed.imap
  apply Codec.record_printed (by decide)
  exact ⟨text_printed, text_printed, text_printed, Codec.flag_printed,
    CaseReference.codec_printed, Contact.codec_printed.optional,
    Address.codec_printed.optional, trivial⟩

theorem Launch.codec_printed : Launch.codec.Printed := by
  apply Codec.Printed.imap
  apply Codec.record_printed (by decide)
  exact ⟨Codec.text_printed, text_printed, text_printed, trivial⟩

theorem Authentication.codec_printed : Authentication.codec.Printed := by
  apply Codec.Printed.imap
  apply Codec.record_printed (by decide)
  exact ⟨Codec.text_printed, text_printed, trivial⟩

theorem Survey.codec_printed : Survey.codec.Printed := by
  apply Codec.Printed.imap
  apply Codec.record_printed (by decide)
  exact ⟨Codec.text_printed, text_printed, text_printed,
    Codec.document_printed.optional, Codec.document_printed.optional, trivial⟩

theorem Exercise.codec_printed : Exercise.codec.Printed := by
  apply Codec.Printed.imap
  apply Codec.record_printed (by decide)
  exact ⟨Codec.text_printed, text_printed, text_printed, text_printed,
    Timestamp.codec_printed.optional, Timestamp.codec_printed.optional,
    Codec.document_printed.optional, trivial⟩

theorem NewCase.codec_printed : NewCase.codec.Printed := by
  apply Codec.Printed.imap
  apply Codec.record_printed (by decide)
  exact ⟨Codec.text_printed, text_printed, Codec.dictionary_printed,
    Codec.dictionary_printed, trivial⟩

theorem Header.codec_printed : Header.codec.Printed := by
  apply Codec.Printed.imap
  apply Codec.record_printed (by decide)
  exact ⟨Codec.name_printed _ _, Codec.name_printed _ _,
    Codec.name_printed _ _, Timestamp.codec_printed,
    Identifier.codec_printed, Identifier.codec_printed, text_printed, trivial⟩

namespace PayloadKind

theorem codec_printed (kind : PayloadKind) : kind.codec.Printed := by
  cases kind with
  | collectionCase => exact CollectionCase.codec_printed
  | accessCode => exact AccessCode.codec_printed
  | fulfilmentRequest => exact FulfilmentRequest.codec_printed
  | refusal => exact Refusal.codec_printed
  | launch => exact Launch.codec_printed
  | authentication => exact Authentication.codec_printed
  | survey => exact Survey.codec_printed
  | exercise => exact Exercise.codec_printed
  | newCase => exact NewCase.codec_printed

theorem sectionCodec_printed (kind : PayloadKind) :
    kind.sectionCodec.Printed := by
  apply Codec.Printed.imap
  refine Codec.record_printed ?_ ?_ _
  · exact section_keys kind
  · exact ⟨kind.codec_printed, trivial⟩

theorem envelopeCodec_printed (kind : PayloadKind) :
    kind.envelopeCodec.Printed := by
  apply Codec.Printed.imap
  refine Codec.record_printed ?_ ?_ _
  · exact envelope_keys
  · exact ⟨Header.codec_printed, kind.sectionCodec_printed, trivial⟩

end PayloadKind

end EventRelay
