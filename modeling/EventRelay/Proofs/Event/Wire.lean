import EventRelay.Proofs.Backup.Record
import EventRelay.Proofs.Event.Envelope

/-!
# Values that cross the wire

Payloads, headers, envelopes and backup records are what other programs send
and read.  Their readers accept more texts than their writers make: members in
any order, members that they do not know or that are missing, arrays in place
of objects, identifiers and times in many spellings.  Once a value has been
read, none of this is left.  Its own text is read as the same value again, as
long as its numbers are read back, so writing what was read changes a text at
most once.
-/

namespace EventRelay

open EventRelay.Json

theorem Json.Codec.Lasting.mono
    {α : Type} {codec : Codec α} {fewer more : Nat}
    (lasting : codec.Lasting fewer) (weaker : fewer ≤ more) :
    codec.Lasting more := by
  refine ⟨lasting.lasts, ?_, lasting.shown⟩
  intro depth value yields
  have fits := lasting.fits yields
  omega

theorem BackupRecord.codec_lasting : BackupRecord.codec.Lasting 1 := by
  apply Codec.imap_lasting fun _ => rfl
  apply Codec.record_lasting (by decide)
  exact ⟨Field.required_lasting _ (EventType.codec_total 0).lasting,
    Field.required_lasting _ (Codec.integer_lasting 0),
    Field.optional_lasting _ (Codec.integer_lasting 0),
    Field.required_lasting _ (Codec.text_total 0).lasting,
    Field.required_lasting _ (Codec.text_total 0).lasting, trivial⟩

/-- What is sent between programs. -/
inductive WireType where
  | payload (kind : PayloadKind)
  | header
  | envelope (kind : PayloadKind)
  | record
  deriving DecidableEq

namespace WireType

/-- The values that a wire type stands for. -/
def Value : WireType → Type
  | .payload kind => kind.Content
  | .header => Header
  | .envelope kind => Header × kind.Content
  | .record => BackupRecord

/-- The codec by which the values of a wire type are read and written. -/
def codec : (wire : WireType) → Codec wire.Value
  | .payload kind => kind.codec
  | .header => Header.codec
  | .envelope kind => kind.envelopeCodec
  | .record => BackupRecord.codec

/-- Whatever is read of a wire type lasts. -/
theorem codec_lasting (wire : WireType) : wire.codec.Lasting 4 := by
  cases wire with
  | payload kind => exact kind.codec_lasting.mono (by decide)
  | header => exact Header.codec_lasting.mono (by decide)
  | envelope kind => exact kind.envelopeCodec_lasting
  | record => exact BackupRecord.codec_lasting.mono (by decide)

/-- Writes again what is read from a text. -/
def rewrite (wire : WireType) (text : String) : Except Fault String :=
  (wire.codec.decode text).map wire.codec.encode

/--
A value that was read from any text is read again from its own text, if its
numbers are read back from theirs.  Writing what is read a second time changes
nothing.
-/
theorem decode_encode_of_decode
    (wire : WireType) {text : String} {value : wire.Value}
    (decoded : wire.codec.decode text = .ok value)
    (steady : (wire.codec.toDocument value).Steady) :
    wire.codec.decode (wire.codec.encode value) = .ok value ∧
      wire.rewrite text = .ok (wire.codec.encode value) ∧
      wire.rewrite (wire.codec.encode value) =
        .ok (wire.codec.encode value) := by
  have yields := Codec.yields_of_decode decoded
  have fits : (wire.codec.toDocument value).nesting ≤ nestingLimit :=
    wire.codec_lasting.fits yields
  obtain ⟨again, accepted, same⟩ :=
    Codec.decode_encode (wire.codec_lasting.lasts yields)
  rw [if_pos fits, same steady] at accepted
  refine ⟨accepted, ?_, ?_⟩
  · unfold rewrite
    rw [decoded]
    rfl
  · unfold rewrite
    rw [accepted]
    rfl

/-! ## A survey in an unusual spelling -/

/-- A survey with an unknown member, in no order, with a broken number. -/
def unusualText : List Char :=
  ['\x7b', '"', 'x', '"', ':', '[', ']', ',', '"', 'm', 'e', 't', 'a', 'd',
    'a', 't', 'a', '"', ':', '1', '5', 'e', '-', '1', ',', '"', 's', 'u', 'r',
    'v', 'e', 'y', 'I', 'd', '"', ':', '"', '\\', 'u', '0', '0', '6', '1', '"',
    '\x7d']

/-- The number one and a half. -/
def oneAndHalf : Json.Number :=
  .float ⟨false, Number.stepsPerOne + Number.stepsPerOne / 2⟩

theorem oneAndHalf_readsBack : oneAndHalf.ReadsBack := by
  have read :
      (readNumber oneAndHalf.print).toOption = some (oneAndHalf, []) := by
    decide +kernel
  unfold Number.ReadsBack
  cases parsed : readNumber oneAndHalf.print with
  | error fault =>
      rw [parsed] at read
      cases read
  | ok result =>
      rw [parsed] at read
      exact congrArg Except.ok (Option.some.inj read)

/-- A survey whose open document is a number with a fraction. -/
def unusualSurvey : Survey :=
  ⟨"a", none, none, none, some (.number oneAndHalf)⟩

/-- The number of a document that is one. -/
private def numberOf? : Json → Option Json.Number
  | .number amount => some amount
  | _ => none

private theorem eq_of_numberOf?
    {document : Option Json} {amount : Json.Number}
    (held : document.bind numberOf? = some amount) :
    document = some (.number amount) := by
  obtain ⟨present, rfl, number⟩ := Option.bind_eq_some_iff.mp held
  cases present with
  | number other =>
      cases number
      rfl
  | _ => cases number

theorem unusualText_decoded :
    Survey.codec.decode (String.ofList unusualText) = .ok unusualSurvey := by
  have read : (Survey.codec.read nestingLimit unusualText).toOption.map
      (fun result =>
        ((result.2, result.1.id),
          (result.1.name, result.1.sampleDefinitionUrl),
          result.1.sampleDefinition.isNone,
          result.1.metadata.bind numberOf?)) =
        some (([], "a"), (none, none), true, some oneAndHalf) := by
    decide +kernel
  cases parsed : Survey.codec.read nestingLimit unusualText with
  | error fault =>
      rw [parsed] at read
      cases read
  | ok result =>
      rw [parsed] at read
      obtain ⟨⟨id, name, url, sampleDefinition, metadata⟩, rest⟩ := result
      have fields := Option.some.inj read
      simp only [Prod.mk.injEq] at fields
      obtain ⟨⟨rfl, rfl⟩, ⟨rfl, rfl⟩, missing, number⟩ := fields
      obtain rfl := Option.isNone_iff_eq_none.mp missing
      obtain rfl := eq_of_numberOf? number
      unfold Codec.decode
      rw [String.toList_ofList, parsed]
      rfl

/--
The survey is written in the usual way, and then again in the same way.
-/
theorem decode_encode_of_decode_unusual :
    Survey.codec.decode (String.ofList unusualText) = .ok unusualSurvey ∧
      (Survey.codec.toDocument unusualSurvey).Steady ∧
      Survey.codec.decode (Survey.codec.encode unusualSurvey) =
        .ok unusualSurvey := by
  have steady : (Survey.codec.toDocument unusualSurvey).Steady := by
    refine Survey.steady nofun ?_
    rintro _ ⟨⟩
    exact .number oneAndHalf_readsBack
  exact ⟨unusualText_decoded, steady,
    (decode_encode_of_decode (.payload .survey) unusualText_decoded steady).1⟩

end WireType

end EventRelay
