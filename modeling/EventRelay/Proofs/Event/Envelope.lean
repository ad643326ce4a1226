import EventRelay.Event.Builders
import EventRelay.Proofs.Event.Payload
import EventRelay.Proofs.Identifier

/-!
# Envelopes read again

An envelope holds its payload inside a section, and the section inside the
whole, so its text opens two objects more than the text of the payload.  The
text of an envelope gives a draft again exactly when they may still be opened.

A payload that was made may hold an open document that is null.  It is written
as if there were none and read as none, so the draft that comes back holds the
settled payload, and its section has the same text.
-/

namespace EventRelay

open EventRelay.Json

variable {α : Type}

namespace Json.Codec

/--
The text of a value that lasts is accepted as a whole where its nesting is
allowed.
-/
theorem decode_encode
    {codec : Codec α} {value : α} (lasts : codec.Lasts value) :
    ∃ again,
      codec.decode (codec.encode value) =
          (if (codec.toDocument value).nesting ≤ nestingLimit then .ok again
            else .error .malformed) ∧
        ((codec.toDocument value).Steady → again = value) := by
  obtain ⟨again, ⟨_, reads⟩, same⟩ := lasts
  refine ⟨again, ?_, same⟩
  have read := reads nestingLimit [] ends_nil
  rw [List.append_nil] at read
  unfold decode encode
  rw [String.toList_ofList, read]
  split
  · rfl
  · rfl

/-- A text that is accepted as a whole is read from its front. -/
theorem yields_of_decode
    {codec : Codec α} {text : String} {value : α}
    (decoded : codec.decode text = .ok value) :
    codec.Yields nestingLimit value := by
  obtain ⟨⟨front, rest⟩, read, whole⟩ := bind_eq_ok.mp decoded
  dsimp only at whole
  split at whole
  · cases whole
    exact ⟨text.toList, rest, read⟩
  · cases whole

end Json.Codec

/-! ## Headers -/

theorem Identifier.codec_total (levels : Nat) :
    Identifier.codec.Total levels := by
  apply Codec.parsed_total
  intro identifier
  rw [Identifier.parse_toText]

theorem EventType.codec_total (levels : Nat) : EventType.codec.Total levels :=
  Codec.name_total EventType.mem_all (by decide) levels

theorem Source.codec_total (levels : Nat) : Source.codec.Total levels :=
  Codec.name_total Source.mem_all (by decide) levels

theorem Channel.codec_total (levels : Nat) : Channel.codec.Total levels :=
  Codec.name_total Channel.mem_all (by decide) levels

/-- A header lasts when its time is one that a clock shows. -/
theorem Header.codec_lasts {header : Header} (valid : header.time.Valid) :
    Header.codec.Lasts header := by
  have user := Field.optionalOmitted_total "originatingUser"
    (Codec.text_total 0)
  apply Codec.imap_lasts rfl
  apply Codec.record_lasts (by decide)
  exact ⟨Field.required_lasts _ ((EventType.codec_total 0).lasts _),
    Field.required_lasts _ ((Source.codec_total 0).lasts _),
    Field.required_lasts _ ((Channel.codec_total 0).lasts _),
    Field.required_lasts _ (Timestamp.codec_lasts valid),
    Field.required_lasts _ ((Identifier.codec_total 0).lasts _),
    Field.required_lasts _ ((Identifier.codec_total 0).lasts _),
    user.lasts _, trivial⟩

theorem Header.codec_lasting : Header.codec.Lasting 3 := by
  have user := Field.optionalOmitted_total "originatingUser"
    (Codec.text_total 2)
  apply Codec.imap_lasting fun _ => rfl
  apply Codec.record_lasting (by decide)
  exact ⟨Field.required_lasting _ (EventType.codec_total 2).lasting,
    Field.required_lasting _ (Source.codec_total 2).lasting,
    Field.required_lasting _ (Channel.codec_total 2).lasting,
    Field.required_lasting _ (Timestamp.codec_lasting 2),
    Field.required_lasting _ (Identifier.codec_total 2).lasting,
    Field.required_lasting _ (Identifier.codec_total 2).lasting,
    user.lasting, trivial⟩

/-- A header is one flat object without numbers. -/
theorem Header.flat (header : Header) :
    (Header.codec.toDocument header).nesting = 1 ∧
      (Header.codec.toDocument header).Steady := by
  obtain ⟨type, source, channel, time, messageId, correlationId, user⟩ := header
  constructor
  · refine (Codec.nesting_record "Header" (by decide) _).trans ?_
    cases user with
    | none => rfl
    | some name => rfl
  · apply Codec.steady_record "Header"
    cases user with
    | none =>
        repeat refine List.forall_mem_cons.mpr ⟨.text _, ?_⟩
        exact fun _ never => nomatch never
    | some name =>
        repeat refine List.forall_mem_cons.mpr ⟨.text _, ?_⟩
        exact fun _ never => nomatch never

/-! ## Envelopes -/

namespace PayloadKind

theorem section_keys (kind : PayloadKind) : [kind.sectionKey].Nodup :=
  List.nodup_cons.mpr ⟨List.not_mem_nil, List.nodup_nil⟩

theorem envelope_keys : ["header", "payload"].Nodup := by
  decide

variable {kind : PayloadKind} {content : kind.Content}

theorem sectionCodec_lasts (lasts : kind.codec.Lasts content) :
    kind.sectionCodec.Lasts content := by
  apply Codec.imap_lasts rfl
  refine Codec.record_lasts ?_ ?_
  · exact section_keys kind
  · exact ⟨Field.required_lasts _ lasts, trivial⟩

theorem sectionCodec_lasting (kind : PayloadKind) :
    kind.sectionCodec.Lasting 3 := by
  apply Codec.imap_lasting fun _ => rfl
  refine Codec.record_lasting ?_ ?_
  · exact section_keys kind
  · exact ⟨Field.required_lasting _ kind.codec_lasting, trivial⟩

theorem write_section (kind : PayloadKind) (content : kind.Content) :
    kind.sectionCodec.write content =
      '\x7b' ::
        (printMember kind.sectionKey (kind.codec.write content) ++
          ['\x7d']) :=
  rfl

theorem write_section_settled (kind : PayloadKind) (content : kind.Content) :
    kind.sectionCodec.write (kind.settled content) =
      kind.sectionCodec.write content := by
  rw [write_section, write_section, (kind.write_settled content).1]

theorem nesting_section (kind : PayloadKind) (content : kind.Content) :
    (kind.sectionCodec.toDocument content).nesting =
      (kind.codec.toDocument content).nesting + 1 := by
  refine (Codec.nesting_record kind.sectionTitle ?_ _).trans ?_
  · exact section_keys kind
  · exact congrArg (· + 1) (Nat.max_zero _)

theorem envelopeCodec_lasts
    {header : Header} (valid : header.time.Valid)
    (lasts : kind.codec.Lasts content) :
    kind.envelopeCodec.Lasts (header, content) := by
  apply Codec.imap_lasts rfl
  refine Codec.record_lasts ?_ ?_
  · exact envelope_keys
  · exact ⟨Field.required_lasts _ (Header.codec_lasts valid),
      Field.required_lasts _ (sectionCodec_lasts lasts), trivial⟩

theorem envelopeCodec_lasting (kind : PayloadKind) :
    kind.envelopeCodec.Lasting 4 := by
  apply Codec.imap_lasting fun _ => rfl
  refine Codec.record_lasting ?_ ?_
  · exact envelope_keys
  · exact ⟨Field.required_lasting _ Header.codec_lasting,
      Field.required_lasting _ kind.sectionCodec_lasting, trivial⟩

/-- An envelope opens two objects around its payload. -/
theorem nesting_envelope
    (kind : PayloadKind) (header : Header) (content : kind.Content) :
    (kind.envelopeCodec.toDocument (header, content)).nesting =
      (kind.codec.toDocument content).nesting + 2 := by
  refine (Codec.nesting_record "Envelope" ?_ _).trans ?_
  · exact envelope_keys
  · show max (Header.codec.toDocument header).nesting
      (max (kind.sectionCodec.toDocument content).nesting 0) + 1 = _
    rw [(Header.flat header).1, nesting_section]
    omega

/-- All numbers of an envelope are in its payload. -/
theorem steady_envelope
    (header : Header) (steady : (kind.codec.toDocument content).Steady) :
    (kind.envelopeCodec.toDocument (header, content)).Steady := by
  have inside : (kind.sectionCodec.toDocument content).Steady := by
    apply Codec.steady_record kind.sectionTitle
    exact List.forall_mem_singleton.mpr steady
  apply Codec.steady_record "Envelope"
  refine List.forall_mem_cons.mpr ⟨(Header.flat header).2, ?_⟩
  exact List.forall_mem_singleton.mpr inside

end PayloadKind

/--
The number of arrays and objects open at the deepest place of the text of a
payload.
-/
def Payload.nesting (payload : Payload) : Nat :=
  (payload.kind.codec.toDocument payload.content).nesting

theorem Payload.lasts_of_decode
    {kind : PayloadKind} {text : String} {payload : Payload}
    (decoded : Payload.decode kind text = .ok payload) :
    ∃ content, payload = ⟨kind, content⟩ ∧ kind.codec.Lasts content := by
  obtain ⟨content, read, same⟩ := map_eq_ok.mp decoded
  exact ⟨content, same.symm,
    kind.codec_lasting.lasts (Codec.yields_of_decode read)⟩

/-- What is read as the envelope of a kind has a payload of the kind. -/
theorem Envelope.kind_of_decode
    {kind : PayloadKind} {text : String} {envelope : Envelope}
    (decoded : decode kind text = .ok envelope) :
    envelope.payload.kind = kind := by
  obtain ⟨_, _, same⟩ := map_eq_ok.mp decoded
  exact same ▸ rfl

/--
The text of an envelope gives its draft again exactly when two more objects
may be opened around its payload.
-/
theorem Envelope.recover_encode
    {type : EventType} {header : Header} {content : type.payloadKind.Content}
    (valid : header.time.Valid) (lasts : type.payloadKind.codec.Lasts content) :
    ∃ draft : Draft,
      draft.payload.kind = type.payloadKind ∧
        BuilderTable.standard.recover type
            (Envelope.encode ⟨header, ⟨type.payloadKind, content⟩⟩) =
          (if (Payload.mk type.payloadKind content).nesting + 2 ≤ nestingLimit
            then .ok draft else .error (.malformed type .malformed)) ∧
        ((type.payloadKind.codec.toDocument content).Steady →
          draft = Envelope.toDraft ⟨header, ⟨type.payloadKind, content⟩⟩) := by
  have envelopeLasts : type.payloadKind.envelopeCodec.Lasts (header, content) :=
    PayloadKind.envelopeCodec_lasts valid lasts
  obtain ⟨again, decoded, same⟩ := Codec.decode_encode envelopeLasts
  rw [PayloadKind.nesting_envelope] at decoded
  refine ⟨Envelope.toDraft ⟨again.1, ⟨type.payloadKind, again.2⟩⟩, rfl, ?_, ?_⟩
  · have built : BuilderTable.standard.builds type = true := rfl
    unfold BuilderTable.recover Envelope.decode Envelope.encode
    rw [if_pos built]
    dsimp only
    rw [decoded]
    unfold Payload.nesting
    by_cases fits : (type.payloadKind.codec.toDocument content).nesting + 2 ≤
      nestingLimit
    · rw [if_pos fits, if_pos fits]
      rfl
    · rw [if_neg fits, if_neg fits]
      rfl
  · intro steady
    rw [same (PayloadKind.steady_envelope header steady)]

/-! ## Payloads that were made -/

namespace Payload

/-- What holds of every payload that a program can make. -/
def Proper (payload : Payload) : Prop :=
  payload.kind.Proper payload.content

/-- The numbers of the payload are read back from their own texts. -/
def Steady (payload : Payload) : Prop :=
  (payload.kind.codec.toDocument payload.content).Steady

/-- The payload with none for an open document that is null. -/
def settled (payload : Payload) : Payload :=
  ⟨payload.kind, payload.kind.settled payload.content⟩

/-- The text of the section that holds the payload. -/
def sectionText (payload : Payload) : String :=
  payload.kind.sectionCodec.encode payload.content

theorem sectionText_settled (payload : Payload) :
    payload.settled.sectionText = payload.sectionText :=
  congrArg String.ofList (payload.kind.write_section_settled payload.content)

end Payload

theorem Envelope.encode_settled (header : Header) (payload : Payload) :
    Envelope.encode ⟨header, payload.settled⟩ =
      Envelope.encode ⟨header, payload⟩ := by
  have written (content : payload.kind.Content) :
      payload.kind.envelopeCodec.write (header, content) =
        '\x7b' ::
          (printMember "header" (Header.codec.write header) ++
            ',' :: printMember "payload"
              (payload.kind.sectionCodec.write content) ++ ['\x7d']) :=
    rfl
  have same :
      payload.kind.envelopeCodec.write
          (header, payload.kind.settled payload.content) =
        payload.kind.envelopeCodec.write (header, payload.content) := by
    rw [written, written, payload.kind.write_section_settled]
  exact congrArg String.ofList same

/--
The text of an envelope gives the draft of its settled payload again, unless
it opens too much.
-/
theorem Envelope.recover_encode_of_proper
    {type : EventType} {header : Header} {payload : Payload}
    (kind : payload.kind = type.payloadKind) (valid : header.time.Valid)
    (proper : payload.Proper) (steady : payload.Steady) :
    BuilderTable.standard.recover type (Envelope.encode ⟨header, payload⟩) =
      if payload.nesting + 2 ≤ nestingLimit then
        .ok (Envelope.toDraft ⟨header, payload.settled⟩)
      else .error (.malformed type .malformed) := by
  rw [← Envelope.encode_settled]
  obtain ⟨_, content⟩ := payload
  cases kind
  obtain ⟨draft, _, recovered, same⟩ :=
    Envelope.recover_encode valid (PayloadKind.codec_lasts proper)
  have written := (PayloadKind.write_settled type.payloadKind content).2
  have nested :
      (Payload.mk type.payloadKind
          (type.payloadKind.settled content)).nesting =
        (Payload.mk type.payloadKind content).nesting :=
    congrArg Json.nesting written
  rw [nested] at recovered
  rw [same (written ▸ steady)] at recovered
  exact recovered

end EventRelay
