import EventRelay.Json.Record
import EventRelay.Proofs.Json.Number

/-!
# What records are given

A record is read from a text or taken from a parsed document, and either may
be an object or an array.  What is known of the record is known field by
field: each value was given by the codec of its field, or stands for a member
that was left out.  While the members of an object come in, the same is known
of the slots that are filled.
-/

namespace EventRelay.Json

variable {α β σ τ : Type}

namespace Codec

/-- The codec reads the value where so many arrays and objects may be opened. -/
def Yields (codec : Codec α) (depth : Nat) (value : α) : Prop :=
  ∃ input rest, codec.read depth input = .ok (value, rest)

/-- The codec makes the value of some document. -/
def Gives (codec : Codec α) (value : α) : Prop :=
  ∃ document, codec.ofDocument document = .ok value

end Codec

section Slots

variable (given : (α : Type) → Codec α → α → Prop)

/-- A value that was given to a field, or that stands for a missing one. -/
def Field.Holds (field : Field α) (value : α) : Prop :=
  given α field.codec value ∨ field.absent = some value

namespace Fields

/-- Every field has a value that it holds. -/
def Hold {τ σ : Type} : Fields τ σ → τ → Prop
  | .nil, _ => True
  | .cons field rest, (value, values) =>
    field.Holds given value ∧ rest.Hold values

/-- Every slot that is filled was filled with what the codec was given. -/
def SlotsHold {τ σ : Type} : Fields τ σ → σ → Prop
  | .nil, _ => True
  | .cons field rest, (filled, others) =>
    (∀ value ∈ filled, given _ field.codec value) ∧ rest.SlotsHold others

theorem slotsHold_empty (fields : Fields τ σ) :
    fields.SlotsHold given fields.empty := by
  induction fields with
  | nil => trivial
  | cons field rest induction =>
      refine ⟨?_, induction⟩
      intro value never
      cases never

variable {given}

/-- What was given to the codec of a slot may be filled into it. -/
theorem slotsHold_fill
    {fields : Fields τ σ} {key : String} {slots : σ}
    (held : fields.SlotsHold given slots) {codec : Codec α} {fill : α → σ}
    (awaits : fields.slot key slots = .awaiting codec fill) {value : α}
    (gives : given α codec value) :
    fields.SlotsHold given (fill value) := by
  induction fields with
  | nil => cases awaits
  | cons field rest induction =>
      obtain ⟨filled, others⟩ := slots
      obtain ⟨here, held⟩ := held
      unfold slot at awaits
      split at awaits
      · cases filled with
        | some value => cases awaits
        | none =>
            cases awaits
            refine ⟨?_, held⟩
            rintro _ ⟨⟩
            exact gives
      · cases inner : rest.slot key others with
        | unknown =>
            rw [inner] at awaits
            cases awaits
        | repeated =>
            rw [inner] at awaits
            cases awaits
        | awaiting codec fill =>
            rw [inner] at awaits
            cases awaits
            exact ⟨here, induction held inner⟩

theorem hold_finish
    {fields : Fields τ σ} {slots : σ} {values : τ}
    (held : fields.SlotsHold given slots)
    (finished : fields.finish slots = .ok values) :
    fields.Hold given values := by
  induction fields with
  | nil => trivial
  | cons field rest induction =>
      obtain ⟨filled, others⟩ := slots
      obtain ⟨here, held⟩ := held
      unfold finish at finished
      dsimp only at finished
      split at finished
      · next value found =>
          rw [ok_bind] at finished
          obtain ⟨more, after, same⟩ := bind_eq_ok.mp finished
          cases same
          refine ⟨?_, induction held after⟩
          cases filled with
          | some present =>
              cases found
              exact .inl (here _ rfl)
          | none => exact .inr found
      · cases finished

end Fields

end Slots

/-! ## Records that are read -/

namespace Fields

theorem slotsHold_readMembers
    {fields : Fields τ σ} {depth fuel : Nat} {first : Bool} {slots filled : σ}
    {input rest : List Char}
    (held :
      fields.SlotsHold (fun _ codec value => codec.Yields depth value) slots)
    (read :
      fields.readMembers depth fuel first slots input = .ok (filled, rest)) :
    fields.SlotsHold (fun _ codec value => codec.Yields depth value)
      filled := by
  induction fuel generalizing first slots input with
  | zero => cases read
  | succ fuel induction =>
      rw [readMembers] at read
      obtain ⟨next, _, read⟩ := bind_eq_ok.mp read
      cases next with
      | closed after =>
          cases read
          exact held
      | member key afterKey =>
          dsimp only at read
          split at read
          · obtain ⟨_, _, read⟩ := bind_eq_ok.mp read
            obtain ⟨_, _, read⟩ := bind_eq_ok.mp read
            exact induction held read
          · cases read
          · next awaits =>
              obtain ⟨_, _, read⟩ := bind_eq_ok.mp read
              obtain ⟨⟨value, after⟩, one, read⟩ := bind_eq_ok.mp read
              exact induction (slotsHold_fill held awaits ⟨_, after, one⟩) read

theorem hold_readInOrder
    {fields : Fields τ σ} {expected : String} {depth index : Nat}
    {place after : ArrayPlace} {values : τ}
    (read :
      fields.readInOrder expected depth index place = .ok (values, after)) :
    fields.Hold (fun _ codec value => codec.Yields depth value) values := by
  induction fields generalizing index place with
  | nil => trivial
  | cons field rest induction =>
      rw [readInOrder] at read
      obtain ⟨next, _, read⟩ := bind_eq_ok.mp read
      cases next with
      | item input =>
          obtain ⟨⟨value, afterValue⟩, one, read⟩ := bind_eq_ok.mp read
          obtain ⟨⟨others, last⟩, more, same⟩ := bind_eq_ok.mp read
          cases same
          exact ⟨.inl ⟨input, afterValue, one⟩, induction more⟩
      | closed afterArray =>
          dsimp only at read
          split at read
          · cases read
          · next value default =>
              obtain ⟨⟨others, last⟩, more, same⟩ := bind_eq_ok.mp read
              cases same
              exact ⟨.inr default, induction more⟩

end Fields

/-- The fields of a record are read one level further in. -/
theorem Codec.hold_of_read
    {title : String} {fields : Fields τ σ} {depth : Nat}
    {input rest : List Char} {values : τ}
    (read : (record title fields).read depth input = .ok (values, rest)) :
    ∃ inner, depth = inner + 1 ∧
      fields.Hold (fun _ codec value => codec.Yields inner value) values := by
  unfold record at read
  dsimp only at read
  cases depth with
  | zero =>
      split at read
      · cases read
      · cases read
      · obtain ⟨_, _, never⟩ := bind_eq_ok.mp read
        cases never
  | succ inner =>
      refine ⟨inner, rfl, ?_⟩
      split at read
      · rw [if_neg (Nat.succ_ne_zero inner)] at read
        obtain ⟨⟨taken, place⟩, inOrder, read⟩ := bind_eq_ok.mp read
        obtain ⟨after, _, same⟩ := bind_eq_ok.mp read
        cases same
        exact Fields.hold_readInOrder inOrder
      · rw [if_neg (Nat.succ_ne_zero inner)] at read
        obtain ⟨⟨slots, after⟩, members, read⟩ := bind_eq_ok.mp read
        obtain ⟨taken, finished, same⟩ := bind_eq_ok.mp read
        cases same
        exact Fields.hold_finish
          (Fields.slotsHold_readMembers (Fields.slotsHold_empty _ fields)
            members) finished
      · obtain ⟨_, _, never⟩ := bind_eq_ok.mp read
        cases never

/-! ## Records taken from parsed documents -/

namespace Fields

theorem slotsHold_takeMembers
    {fields : Fields τ σ} {members : List (String × Json)} {slots filled : σ}
    (held : fields.SlotsHold (fun _ codec value => codec.Gives value) slots)
    (taken : fields.takeMembers members slots = .ok filled) :
    fields.SlotsHold (fun _ codec value => codec.Gives value) filled := by
  induction members generalizing slots with
  | nil =>
      cases taken
      exact held
  | cons member members induction =>
      obtain ⟨key, document⟩ := member
      rw [takeMembers] at taken
      split at taken
      · exact induction held taken
      · cases taken
      · next awaits =>
          obtain ⟨value, one, taken⟩ := bind_eq_ok.mp taken
          exact induction (slotsHold_fill held awaits ⟨document, one⟩) taken

theorem hold_takeInOrder
    {fields : Fields τ σ} {expected : String} {index : Nat}
    {items left : List Json} {values : τ}
    (taken : fields.takeInOrder expected index items = .ok (values, left)) :
    fields.Hold (fun _ codec value => codec.Gives value) values := by
  induction fields generalizing index items with
  | nil => trivial
  | cons field rest induction =>
      cases items with
      | cons item items =>
          rw [takeInOrder] at taken
          obtain ⟨value, one, taken⟩ := bind_eq_ok.mp taken
          obtain ⟨⟨others, last⟩, more, same⟩ := bind_eq_ok.mp taken
          cases same
          exact ⟨.inl ⟨item, one⟩, induction more⟩
      | nil =>
          rw [takeInOrder] at taken
          split at taken
          · cases taken
          · next value default =>
              obtain ⟨⟨others, last⟩, more, same⟩ := bind_eq_ok.mp taken
              cases same
              exact ⟨.inr default, induction more⟩

end Fields

theorem Codec.hold_of_ofDocument
    {title : String} {fields : Fields τ σ} {document : Json} {values : τ}
    (taken : (record title fields).ofDocument document = .ok values) :
    fields.Hold (fun _ codec value => codec.Gives value) values := by
  unfold record at taken
  dsimp only at taken
  split at taken
  · obtain ⟨⟨inOrder, left⟩, read, same⟩ := bind_eq_ok.mp taken
    dsimp only at same
    split at same
    · cases same
      exact Fields.hold_takeInOrder read
    · cases same
  · obtain ⟨slots, members, finished⟩ := bind_eq_ok.mp taken
    exact Fields.hold_finish
      (Fields.slotsHold_takeMembers (Fields.slotsHold_empty _ fields) members)
      finished
  · cases taken

/-! ## Values of fields -/

namespace Codec

theorem signedWord_range
    {number : Number} {value : Int} (taken : signedWord number = .ok value) :
    -0x8000000000000000 ≤ value ∧ value < 0x8000000000000000 := by
  cases number with
  | integer whole =>
      unfold signedWord at taken
      dsimp only at taken
      split at taken
      · next fits =>
          cases taken
          exact fits
      · cases taken
  | float amount => cases taken

/-- A whole number that is taken from a document fits 64 bits. -/
theorem integer_range {value : Int} (given : integer.Gives value) :
    -0x8000000000000000 ≤ value ∧ value < 0x8000000000000000 := by
  obtain ⟨document, taken⟩ := given
  cases document with
  | number amount => exact signedWord_range taken
  | _ => cases taken

/-- A value that is not null is one that the codec gives. -/
theorem gives_of_optional {codec : Codec α} {value : α}
    (given : codec.optional.Gives (some value)) : codec.Gives value := by
  obtain ⟨document, taken⟩ := given
  unfold optional at taken
  dsimp only at taken
  split at taken
  · cases taken
  · obtain ⟨present, read, same⟩ := map_eq_ok.mp taken
    cases same
    exact ⟨document, read⟩

end Codec

end EventRelay.Json
