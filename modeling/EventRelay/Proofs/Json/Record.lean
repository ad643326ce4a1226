import EventRelay.Json.Record
import EventRelay.Proofs.Json.Document

/-!
# Records read again

A record lasts when each of its fields does: its written members are read in
their order, each into the empty slot of its own field, and a field that was
left out of the text is what it is when it is left out of the reading.  A
record that was read has fields that last, whether they were read or take the
place of what was missing.
-/

namespace EventRelay.Json

variable {α β σ τ : Type}

/--
A value of a field that is read again, or that stands for a missing one if it
is left out.
-/
structure Field.Lasts (field : Field α) (value : α) : Prop where
  codec : field.codec.Lasts value
  omitted : field.omitted value = true → field.absent = some value

/--
A field whose values last: those that are read, and the one that stands for a
missing one.
-/
structure Field.Lasting (field : Field α) (levels : Nat) : Prop where
  lasts : ∀ {depth : Nat} {value : α},
    field.codec.Yields depth value → field.codec.Lasts value
  fits : ∀ {depth : Nat} {value : α}, field.codec.Yields depth value →
    (field.codec.toDocument value).nesting ≤ max depth levels
  absent : ∀ {value : α}, field.absent = some value →
    field.codec.Lasts value ∧ (field.codec.toDocument value).nesting ≤ levels
  omitted : ∀ {value : α},
    field.omitted value = true → field.absent = some value

/-- A field all of whose values last, wherever they come from. -/
structure Field.Total (field : Field α) (levels : Nat) : Prop where
  lasts : ∀ value, field.Lasts value
  fits : ∀ value, (field.codec.toDocument value).nesting ≤ levels

namespace Field

theorem Total.lasting
    {field : Field α} {levels : Nat} (total : field.Total levels) :
    field.Lasting levels := by
  constructor
  · intro depth value _
    exact (total.lasts value).codec
  · intro depth value _
    exact Nat.le_trans (total.fits value) (Nat.le_max_right depth levels)
  · intro value _
    exact ⟨(total.lasts value).codec, total.fits value⟩
  · intro value
    exact (total.lasts value).omitted

section Kinds

variable {codec : Codec α} {levels : Nat} (key : String)

theorem required_lasts {value : α} (lasts : codec.Lasts value) :
    (required key codec).Lasts value :=
  ⟨lasts, nofun⟩

theorem required_lasting (lasting : codec.Lasting levels) :
    (required key codec).Lasting levels :=
  ⟨lasting.lasts, lasting.fits, nofun, nofun⟩

theorem defaulting_total (total : codec.Total levels) (default : α) :
    (defaulting key codec default).Total levels :=
  ⟨fun value => ⟨total.lasts value, nofun⟩, total.fits⟩

theorem defaulting_lasting
    (lasting : codec.Lasting levels) {default : α}
    (lasts : codec.Lasts default)
    (fits : (codec.toDocument default).nesting ≤ levels) :
    (defaulting key codec default).Lasting levels := by
  refine ⟨lasting.lasts, lasting.fits, ?_, nofun⟩
  rintro _ ⟨⟩
  exact ⟨lasts, fits⟩

theorem optional_total (total : codec.Total levels) :
    (optional key codec).Total levels :=
  ⟨fun value => ⟨total.optional_lasts value, nofun⟩, total.optional_fits⟩

theorem optional_lasting (lasting : codec.Lasting levels) :
    (optional key codec).Lasting levels := by
  have whole := Codec.optional_lasting lasting
  refine ⟨whole.lasts, whole.fits, ?_, nofun⟩
  rintro _ ⟨⟩
  exact ⟨Codec.optional_none_lasts codec, Nat.zero_le levels⟩

theorem optionalOmitted_total (total : codec.Total levels) :
    (optionalOmitted key codec).Total levels := by
  refine ⟨fun value => ⟨total.optional_lasts value, ?_⟩, total.optional_fits⟩
  intro omitted
  cases value with
  | none => rfl
  | some present => cases omitted

end Kinds

end Field

namespace Fields

/-- The keys of the fields in their written order. -/
def keys {τ σ : Type} : Fields τ σ → List String
  | .nil => []
  | .cons field rest => field.key :: rest.keys

/-- Every field of a record lasts. -/
def Lasts {τ σ : Type} : Fields τ σ → τ → Prop
  | .nil, _ => True
  | .cons field rest, (value, values) => field.Lasts value ∧ rest.Lasts values

/-- Every field is lasting. -/
def Lasting {τ σ : Type} (levels : Nat) : Fields τ σ → Prop
  | .nil => True
  | .cons field rest => field.Lasting levels ∧ rest.Lasting levels

/-- Every field is total. -/
def Total {τ σ : Type} (levels : Nat) : Fields τ σ → Prop
  | .nil => True
  | .cons field rest => field.Total levels ∧ rest.Total levels

end Fields

/-! ## Slots -/

theorem Slot.map_map
    {ρ : Type} (slot : Slot σ) (first : σ → τ) (second : τ → ρ) :
    (slot.map first).map second =
      slot.map fun value => second (first value) := by
  cases slot with
  | unknown => rfl
  | repeated => rfl
  | awaiting codec fill => rfl

theorem Slot.map_id (slot : Slot σ) : slot.map id = slot := by
  cases slot with
  | unknown => rfl
  | repeated => rfl
  | awaiting codec fill => rfl

theorem Fields.slot_self (field : Field α) (rest : Fields τ σ) (others : σ) :
    (Fields.cons field rest).slot field.key (none, others) =
      .awaiting field.codec fun value => (some value, others) :=
  if_pos rfl

theorem Fields.slot_other
    {field : Field α} {key : String} (different : key ≠ field.key)
    (rest : Fields τ σ) (filled : Option α) (others : σ) :
    (Fields.cons field rest).slot key (filled, others) =
      (rest.slot key others).map fun others => (filled, others) :=
  if_neg different

/-! ## Written members -/

theorem nestingOfMembers_ofEntries
    {entries : List (String × Json)} (distinct : (entries.map Prod.fst).Nodup) :
    nestingOfMembers (Dictionary.ofEntries entries) =
      nestingOfMembers entries := by
  have same : ∀ depth, nestingOfMembers (Dictionary.ofEntries entries) ≤ depth ↔
      nestingOfMembers entries ≤ depth := by
    intro depth
    rw [nestingOfMembers_le, nestingOfMembers_le]
    constructor
    · exact fun all member listed =>
        all member ((Dictionary.mem_ofEntries_iff distinct member).mpr listed)
    · exact fun all member listed =>
        all member ((Dictionary.mem_ofEntries_iff distinct member).mp listed)
  exact Nat.le_antisymm ((same _).mpr (Nat.le_refl _))
    ((same _).mp (Nat.le_refl _))

namespace Fields

theorem documentMembers_keys (fields : Fields τ σ) (values : τ) :
    ((fields.documentMembers values).map Prod.fst).Sublist fields.keys := by
  induction fields with
  | nil => exact .slnil
  | cons field rest induction =>
      obtain ⟨value, values⟩ := values
      unfold documentMembers keys
      split
      · exact .cons _ (induction values)
      · exact .cons_cons _ (induction values)

/-- A member whose slot waits for it is read into the slot. -/
theorem readMembers_member
    {fields : Fields τ σ} {codec : Codec α} {text : List Char} {levels : Nat}
    {read : α} (rereads : Rereads codec.read text levels read)
    {key : String} {slots : σ} {fill : α → σ}
    (awaits : fields.slot key slots = .awaiting codec fill)
    (depth fuel : Nat) (first : Bool) (parts : List (List Char))
    (rest : List Char) :
    fields.readMembers depth (fuel + 1) first slots
        (following first (printMember key text :: parts) ++ '\x7d' :: rest) =
      if levels ≤ depth then
        fields.readMembers depth fuel false (fill read)
          (following false parts ++ '\x7d' :: rest)
      else .error .malformed := by
  have ends := ends_following parts (.inr rfl) rest
  rw [readMembers, nextMember_cons, ok_bind]
  dsimp only
  rw [awaits]
  dsimp only
  rw [skipMark_cons rfl, ok_bind, rereads.reads depth _ ends]
  split
  · rfl
  · rfl

/--
The members of some fields are read again into their slots, wherever these
slots stand.
-/
theorem readMembers_following {whole : Fields β τ} {part : Fields α σ}
    (distinct : part.keys.Nodup) {values : α} (lasts : part.Lasts values)
    (place : σ → τ)
    (placed : ∀ key ∈ part.keys, ∀ slots,
      whole.slot key (place slots) = (part.slot key slots).map place) :
    ∃ again result, part.finish again = .ok result ∧
      ((∀ member ∈ part.documentMembers values, member.2.Steady) →
        result = values) ∧
      ∀ depth first fuel rest,
      (part.writeMembers values).length < fuel →
        whole.readMembers depth fuel first (place part.empty)
            (following first (part.writeMembers values) ++ '\x7d' :: rest) =
          if nestingOfMembers (part.documentMembers values) ≤ depth then
            .ok (place again, rest)
          else .error .malformed := by
  induction part generalizing τ with
  | nil =>
      refine ⟨(), (), rfl, fun _ => rfl, ?_⟩
      intro depth first fuel rest enough
      obtain ⟨fuel, rfl⟩ : ∃ more, fuel = more + 1 := ⟨fuel - 1, by omega⟩
      rw [readMembers, show writeMembers .nil values = [] from rfl,
        nextMember_closed, ok_bind]
      exact (if_pos (Nat.zero_le depth)).symm
  | cons field part induction =>
      obtain ⟨value, values⟩ := values
      obtain ⟨fieldLasts, lasts⟩ := lasts
      obtain ⟨fresh, distinct⟩ := List.nodup_cons.mp distinct
      have others : ∀ filled, ∀ key ∈ part.keys, ∀ slots,
          whole.slot key (place (filled, slots)) =
            (part.slot key slots).map fun slots => place (filled, slots) := by
        intro filled key listed slots
        have different : key ≠ field.key := by
          rintro rfl
          exact fresh listed
        rw [placed key (List.mem_cons_of_mem _ listed), slot_other different,
          Slot.map_map]
      by_cases omitted : field.omitted value = true
      · obtain ⟨again, result, finished, same, reads⟩ :=
          induction distinct lasts (fun slots => place (none, slots))
            (others none)
        refine ⟨(none, again), (value, result), ?_, ?_, ?_⟩
        · unfold finish
          rw [finished, fieldLasts.omitted omitted]
          rfl
        · intro steady
          rw [documentMembers, if_pos omitted] at steady
          rw [same steady]
        · intro depth first fuel rest enough
          rw [writeMembers, if_pos omitted] at enough ⊢
          rw [documentMembers, if_pos omitted]
          exact reads depth first fuel rest enough
      · obtain ⟨read, rereads, back⟩ := fieldLasts.codec
        obtain ⟨again, result, finished, same, reads⟩ :=
          induction distinct lasts (fun slots => place (some read, slots))
            (others (some read))
        refine ⟨(some read, again), (read, result), ?_, ?_, ?_⟩
        · unfold finish
          rw [finished]
          rfl
        · intro steady
          rw [documentMembers, if_neg omitted, List.forall_mem_cons] at steady
          rw [back steady.1, same steady.2]
        · intro depth first fuel rest enough
          rw [writeMembers, if_neg omitted] at enough ⊢
          rw [documentMembers, if_neg omitted, nestingOfMembers]
          obtain ⟨fuel, rfl⟩ : ∃ more, fuel = more + 1 := ⟨fuel - 1, by omega⟩
          have tail :=
            reads depth false fuel rest (Nat.lt_of_succ_lt_succ enough)
          have slot : whole.slot field.key (place (none, part.empty)) =
              .awaiting field.codec fun value =>
                place (some value, part.empty) := by
            rw [placed field.key List.mem_cons_self, slot_self]
            rfl
          rw [empty, readMembers_member rereads slot, tail]
          by_cases fits : (field.codec.toDocument value).nesting ≤ depth
          · simp only [Nat.max_le, fits, true_and, if_true]
          · simp only [Nat.max_le, fits, false_and, if_false]

/-! ## Values that were read -/

theorem lasts_of_hold
    {fields : Fields τ σ} {levels : Nat} (lasting : fields.Lasting levels)
    {depth : Nat} {values : τ}
    (held :
      fields.Hold (fun _ codec value => codec.Yields depth value) values) :
    fields.Lasts values ∧
      nestingOfMembers (fields.documentMembers values) ≤ max depth levels := by
  induction fields with
  | nil => exact ⟨trivial, Nat.zero_le _⟩
  | cons field rest induction =>
      obtain ⟨value, values⟩ := values
      obtain ⟨fieldLasting, lasting⟩ := lasting
      obtain ⟨here, held⟩ := held
      obtain ⟨others, inside⟩ := induction lasting held
      have own : field.codec.Lasts value ∧
          (field.codec.toDocument value).nesting ≤ max depth levels := by
        rcases here with yields | absent
        · exact ⟨fieldLasting.lasts yields, fieldLasting.fits yields⟩
        · obtain ⟨lasts, fits⟩ := fieldLasting.absent absent
          exact ⟨lasts, Nat.le_trans fits (Nat.le_max_right depth levels)⟩
      refine ⟨⟨⟨own.1, fieldLasting.omitted⟩, others⟩, ?_⟩
      unfold documentMembers
      split
      · exact inside
      · exact Nat.max_le.mpr ⟨own.2, inside⟩

theorem lasts_of_total
    {fields : Fields τ σ} {levels : Nat} (total : fields.Total levels)
    (values : τ) :
    fields.Lasts values ∧
      nestingOfMembers (fields.documentMembers values) ≤ levels := by
  induction fields with
  | nil => exact ⟨trivial, Nat.zero_le _⟩
  | cons field rest induction =>
      obtain ⟨value, values⟩ := values
      obtain ⟨fieldTotal, total⟩ := total
      obtain ⟨others, inside⟩ := induction total values
      refine ⟨⟨fieldTotal.lasts value, others⟩, ?_⟩
      unfold documentMembers
      split
      · exact inside
      · exact Nat.max_le.mpr ⟨fieldTotal.fits value, inside⟩

end Fields

/-! ## Records -/

namespace Codec

theorem nesting_record
    (title : String) {fields : Fields τ σ} (distinct : fields.keys.Nodup)
    (values : τ) :
    ((record title fields).toDocument values).nesting =
      nestingOfMembers (fields.documentMembers values) + 1 := by
  show nesting (.object _) = _
  rw [nesting, nestingOfMembers_ofEntries
    ((fields.documentMembers_keys values).nodup distinct)]

theorem steady_optional
    {codec : Codec α} {value : Option α}
    (steady : ∀ given ∈ value, (codec.toDocument given).Steady) :
    (codec.optional.toDocument value).Steady := by
  cases value with
  | none => exact .null
  | some given => exact steady given rfl

/-- A record is steady when its members are. -/
theorem steady_record
    (title : String) {fields : Fields τ σ} {values : τ}
    (each : ∀ member ∈ fields.documentMembers values, member.2.Steady) :
    ((record title fields).toDocument values).Steady :=
  .object fun member listed =>
    each member (Dictionary.mem_of_mem_ofEntries listed)

theorem write_record (title : String) (fields : Fields τ σ) (values : τ) :
    (record title fields).write values =
      '\x7b' :: (following true (fields.writeMembers values) ++ ['\x7d']) :=
  rfl

theorem record_lasts
    {title : String} {fields : Fields τ σ} (distinct : fields.keys.Nodup)
    {values : τ} (lasts : fields.Lasts values) :
    (record title fields).Lasts values := by
  obtain ⟨again, result, finished, same, reads⟩ :=
    Fields.readMembers_following distinct lasts id fun _ _ _ =>
      (Slot.map_id _).symm
  refine ⟨result, ?_, ?_⟩
  · rw [nesting_record title distinct, write_record]
    apply rereads_bracketed rfl (by decide) (fun _ => rfl)
    intro depth rest
    have inner := reads depth true _ rest
      (length_lt_following true (fields.writeMembers values) '\x7d' rest)
    show (fields.readMembers depth _ true fields.empty _ >>= fun filled =>
      fields.finish filled.1 >>= fun values => .ok (values, filled.2)) = _
    rw [show fields.empty = id fields.empty from rfl, inner]
    by_cases fits : nestingOfMembers (fields.documentMembers values) ≤ depth
    · rw [if_pos fits, if_pos fits, ok_bind]
      show (fields.finish again >>= _) = _
      rw [finished]
      rfl
    · rw [if_neg fits, if_neg fits]
      rfl
  · intro steady
    apply same
    intro member listed
    apply Steady.member steady member
    rw [Dictionary.mem_ofEntries_iff
      ((fields.documentMembers_keys values).nodup distinct)]
    exact listed

theorem record_shown (title : String) (fields : Fields τ σ) (values : τ) :
    (record title fields).Shown values :=
  shown_cons (write_record title fields values) (by decide)

theorem record_total
    {title : String} {fields : Fields τ σ} {levels : Nat}
    (distinct : fields.keys.Nodup) (total : fields.Total levels) :
    (record title fields).Total (levels + 1) := by
  constructor
  · intro values
    exact record_lasts distinct (Fields.lasts_of_total total values).1
  · intro values
    rw [nesting_record title distinct]
    exact Nat.succ_le_succ (Fields.lasts_of_total total values).2
  · exact record_shown title fields

theorem record_lasting
    {title : String} {fields : Fields τ σ} {levels : Nat}
    (distinct : fields.keys.Nodup) (lasting : fields.Lasting levels) :
    (record title fields).Lasting (levels + 1) := by
  constructor
  · rintro depth values ⟨input, rest, read⟩
    obtain ⟨inner, rfl, held⟩ := hold_of_read read
    exact record_lasts distinct (Fields.lasts_of_hold lasting held).1
  · rintro depth values ⟨input, rest, read⟩
    obtain ⟨inner, rfl, held⟩ := hold_of_read read
    rw [nesting_record title distinct, Nat.add_max_add_right]
    exact Nat.succ_le_succ (Fields.lasts_of_hold lasting held).2
  · intro depth input rest values _ _
    exact record_shown title fields values

end Codec

end EventRelay.Json
