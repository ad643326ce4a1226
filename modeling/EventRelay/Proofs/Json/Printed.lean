import EventRelay.Proofs.Json.Record

/-!
# Codecs that write documents

Every codec writes the text of some document.  It nests as deep as the document
that the codec gives for the value; the two are the same but for the order of
the members of a record, which are written in the order of its fields.  So what
is known of the texts of all documents is known of all that is written.
-/

namespace EventRelay.Json

variable {α β σ τ : Type}

/--
What a codec writes is the text of a document, which nests as deep as the one
that it gives for the value.
-/
def Codec.Printed (codec : Codec α) : Prop :=
  ∀ value, ∃ document : Json,
    codec.write value = document.print ∧
      document.nesting = (codec.toDocument value).nesting

/-- The codec of every field of a record writes documents. -/
def Fields.Printed {τ σ : Type} : Fields τ σ → Prop
  | .nil => True
  | .cons field rest => field.codec.Printed ∧ rest.Printed

theorem Fields.printed_members
    {fields : Fields τ σ} (printed : fields.Printed) (values : τ) :
    ∃ members,
      fields.writeMembers values = printMembers members ∧
        nestingOfMembers members =
          nestingOfMembers (fields.documentMembers values) := by
  induction fields with
  | nil => exact ⟨[], by rw [printMembers]; rfl, rfl⟩
  | cons field rest induction =>
      obtain ⟨value, values⟩ := values
      obtain ⟨members, written, nested⟩ := induction printed.2 values
      unfold writeMembers documentMembers
      split
      · exact ⟨members, written, nested⟩
      · obtain ⟨document, text, levels⟩ := printed.1 value
        refine ⟨(field.key, document) :: members, ?_, ?_⟩
        · rw [printMembers, text, written]
        · rw [nestingOfMembers, nestingOfMembers, levels, nested]

namespace Codec

variable {codec : Codec α}

theorem text_printed : text.Printed :=
  fun value => ⟨.text value, by rw [print]; rfl, rfl⟩

theorem flag_printed : flag.Printed :=
  fun value => ⟨.boolean value, by rw [print]; rfl, rfl⟩

theorem document_printed : document.Printed :=
  fun value => ⟨value, rfl, rfl⟩

theorem parsed_printed
    (expected : String) (parse : String → Except Fault α)
    (print : α → String) :
    (parsed expected parse print).Printed :=
  fun value => text_printed (print value)

theorem name_printed (all : List α) (name : α → String) :
    (Codec.name all name).Printed :=
  fun value => text_printed (name value)

theorem Printed.optional (printed : codec.Printed) : codec.optional.Printed
  | none => ⟨.null, by rw [print]; rfl, rfl⟩
  | some value => printed value

theorem Printed.imap
    (printed : codec.Printed) (forward : α → β) (backward : β → α) :
    (codec.imap forward backward).Printed :=
  fun value => printed (backward value)

theorem dictionary_printed : dictionary.Printed := by
  intro entries
  refine ⟨dictionary.toDocument entries, ?_, rfl⟩
  show _ = print (.object _)
  rw [print_object, List.map_map]
  rfl

theorem record_printed
    {fields : Fields τ σ} (distinct : fields.keys.Nodup)
    (printed : fields.Printed) (title : String) :
    (record title fields).Printed := by
  intro values
  obtain ⟨members, written, nested⟩ := fields.printed_members printed values
  refine ⟨.object members, ?_, ?_⟩
  · rw [write_record, written, print]
    rfl
  · rw [nesting_record title distinct, nesting, nested]

end Codec

end EventRelay.Json
