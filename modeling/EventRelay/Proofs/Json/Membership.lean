import EventRelay.Proofs.Json.Brackets

/-!
# What a record makes of any object

A record takes from an object the one member that each of its fields names, and
where there is none the value that the field has when it is left out.  Neither
the order of the members nor any other member enters into it.  This is proved
by following the slots: one member fills the slot of its name, and all members
fill every slot that is named.
-/

namespace EventRelay.Json

variable {α σ τ : Type}

/-! ## What the fields of a record take -/

/-- The members of a name. -/
def named (name : String) (members : List Member) : List Member :=
  members.filter fun member => decide (member.name? = some name)

theorem named_cons_self
    {member : Member} {name : String} (spells : member.name? = some name)
    (members : List Member) :
    named name (member :: members) = member :: named name members :=
  List.filter_cons_of_pos (decide_eq_true spells)

theorem named_cons_other
    {member : Member} {name other : String} (spells : member.name? = some other)
    (different : other ≠ name) (members : List Member) :
    named name (member :: members) = named name members := by
  apply List.filter_cons_of_neg
  rw [spells]
  simpa using different

/-- What the slot of a field holds behind all members: nothing or one value. -/
def Field.Given (field : Field α) (depth : Nat) (members : List Member) :
    Option α → Prop
  | none => named field.key members = []
  | some value => ∃ member, named field.key members = [member] ∧
      Reads (field.codec.read depth) member.value value

/-- The value of a field: that of its only member, or the one without any. -/
def Field.Settles
    (field : Field α) (depth : Nat) (members : List Member) (value : α) :
    Prop :=
  (∃ member, named field.key members = [member] ∧
    Reads (field.codec.read depth) member.value value) ∨
    (named field.key members = [] ∧ field.absent = some value)

namespace Fields

/-- The members fill the slots that are empty, and name no slot that is not. -/
def Fill {τ σ : Type} (depth : Nat) (members : List Member) :
    Fields τ σ → σ → σ → Prop
  | .nil, _, _ => True
  | .cons field rest, (none, others), (filled, more) =>
    field.Given depth members filled ∧ rest.Fill depth members others more
  | .cons field rest, (some value, others), (filled, more) =>
    (named field.key members = [] ∧ filled = some value) ∧
      rest.Fill depth members others more

/-- The values are those of the fields. -/
def Match {τ σ : Type} (depth : Nat) (members : List Member) :
    Fields τ σ → τ → Prop
  | .nil, _ => True
  | .cons field rest, (value, values) =>
    field.Settles depth members value ∧ rest.Match depth members values

/-- The items are those of the fields in order; missing ones may be left out. -/
def MatchInOrder {τ σ : Type} (depth : Nat) : Fields τ σ → List Item → τ → Prop
  | .nil, items, _ => items = []
  | .cons field rest, [], (value, values) =>
    field.absent = some value ∧ rest.MatchInOrder depth [] values
  | .cons field rest, item :: items, (value, values) =>
    Reads (field.codec.read depth) item.value value ∧
      rest.MatchInOrder depth items values

/-- Every field reads each value for itself. -/
def Local {τ σ : Type} : Fields τ σ → Prop
  | .nil => True
  | .cons field rest => field.codec.Local ∧ rest.Local

end Fields

/-- What the slot of a member's name does with the member. -/
def Slot.Takes
    (slot : Slot σ) (depth : Nat) (member : Member) (slots : σ)
    (next : σ → Prop) : Prop :=
  match slot with
  | .unknown => next slots
  | .repeated => False
  | .awaiting codec fill => ∃ value,
      Reads (codec.read depth) member.value value ∧ next (fill value)

theorem Slot.takes_map
    (slot : Slot σ) (wrap : σ → τ) (depth : Nat) (member : Member) (slots : σ)
    (next : τ → Prop) :
    (slot.map wrap).Takes depth member (wrap slots) next ↔
      slot.Takes depth member slots fun slots => next (wrap slots) := by
  cases slot with
  | unknown => exact Iff.rfl
  | repeated => exact Iff.rfl
  | awaiting codec fill => exact Iff.rfl

theorem Slot.takes_and
    (slot : Slot σ) (depth : Nat) (member : Member) (slots : σ) (fact : Prop)
    (next : σ → Prop) :
    (slot.Takes depth member slots fun slots => fact ∧ next slots) ↔
      fact ∧ slot.Takes depth member slots next := by
  cases slot with
  | unknown => exact Iff.rfl
  | repeated => exact ⟨False.elim, And.right⟩
  | awaiting codec fill =>
      constructor
      · rintro ⟨value, reads, fact, next⟩
        exact ⟨fact, value, reads, next⟩
      · rintro ⟨fact, value, reads, next⟩
        exact ⟨value, reads, fact, next⟩

namespace Fields

/-! ## Slots, member by member -/

/-- Without members every slot stays as it is. -/
theorem fill_nil_iff
    {fields : Fields τ σ} {depth : Nat} {slots filled : σ} :
    fields.Fill depth [] slots filled ↔ filled = slots := by
  induction fields with
  | nil => exact ⟨fun _ => rfl, fun _ => trivial⟩
  | cons field rest induction =>
      obtain ⟨before, others⟩ := slots
      obtain ⟨after, more⟩ := filled
      cases before with
      | none =>
          have given : field.Given depth [] after ↔ after = none := by
            cases after with
            | none => exact ⟨fun _ => rfl, fun _ => rfl⟩
            | some value =>
                constructor
                · rintro ⟨_, never, _⟩
                  cases never
                · intro never
                  cases never
          simp only [Fill, given, induction, Prod.mk.injEq]
      | some value =>
          have none : named field.key [] = [] := rfl
          simp only [Fill, none, true_and, induction, Prod.mk.injEq]

/-- A member that names no field changes nothing. -/
theorem fill_unknown_iff
    {fields : Fields τ σ} {depth : Nat} {member : Member} {name : String}
    (spells : member.name? = some name) (unknown : name ∉ fields.keys)
    {members : List Member} {slots filled : σ} :
    fields.Fill depth (member :: members) slots filled ↔
      fields.Fill depth members slots filled := by
  induction fields with
  | nil => exact Iff.rfl
  | cons field rest induction =>
      obtain ⟨before, others⟩ := slots
      obtain ⟨after, more⟩ := filled
      rw [keys, List.mem_cons, not_or] at unknown
      obtain ⟨different, unknown⟩ := unknown
      have same := named_cons_other spells different members
      cases before with
      | none =>
          cases after with
          | none => simp only [Fill, Field.Given, same, induction unknown]
          | some value => simp only [Fill, Field.Given, same, induction unknown]
      | some value => simp only [Fill, same, induction unknown]

/-- The first member does to its slot what the slot does with it. -/
theorem fill_cons_iff
    {fields : Fields τ σ} (distinct : fields.keys.Nodup) {depth : Nat}
    {member : Member} {name : String} (spells : member.name? = some name)
    {members : List Member} {slots filled : σ} :
    fields.Fill depth (member :: members) slots filled ↔
      (fields.slot name slots).Takes depth member slots fun slots =>
        fields.Fill depth members slots filled := by
  induction fields with
  | nil => exact Iff.rfl
  | cons field rest induction =>
      obtain ⟨before, others⟩ := slots
      obtain ⟨after, more⟩ := filled
      obtain ⟨fresh, distinct⟩ := List.nodup_cons.mp distinct
      by_cases own : name = field.key
      · subst own
        have mine := named_cons_self spells members
        have unknown : rest.Fill depth (member :: members) others more ↔
            rest.Fill depth members others more :=
          fill_unknown_iff spells fresh
        cases before with
        | some value =>
            have repeated : (Fields.cons field rest).slot field.key
                (some value, others) = .repeated := if_pos rfl
            rw [repeated]
            simp [Fill, Slot.Takes, mine]
        | none =>
            rw [slot_self]
            cases after with
            | none => simp [Fill, Slot.Takes, Field.Given, mine]
            | some value =>
                simp only [Fill, Slot.Takes, Field.Given, mine, unknown,
                  List.cons.injEq]
                constructor
                · rintro ⟨⟨_, ⟨rfl, none⟩, reads⟩, others⟩
                  exact ⟨value, reads, ⟨none, rfl⟩, others⟩
                · rintro ⟨_, reads, ⟨none, same⟩, others⟩
                  cases same
                  exact ⟨⟨member, ⟨rfl, none⟩, reads⟩, others⟩
      · have other := named_cons_other spells own members
        rw [slot_other own, Slot.takes_map _ fun others => (before, others)]
        cases before with
        | none =>
            have given : field.Given depth (member :: members) after ↔
                field.Given depth members after := by
              cases after with
              | none => simp only [Field.Given, other]
              | some value => simp only [Field.Given, other]
            simp only [Fill, given, Slot.takes_and, induction distinct]
        | some value =>
            simp only [Fill, other, Slot.takes_and, induction distinct]

/-! ## The members of an object -/

/-- A slot that waits belongs to a field of the record. -/
theorem local_of_slot
    {fields : Fields τ σ} (own : fields.Local) {key : String} {slots : σ}
    {codec : Codec α} {fill : α → σ}
    (awaits : fields.slot key slots = .awaiting codec fill) :
    codec.Local := by
  induction fields with
  | nil => cases awaits
  | cons field rest induction =>
      obtain ⟨before, others⟩ := slots
      obtain ⟨here, own⟩ := own
      unfold slot at awaits
      split at awaits
      · cases before with
        | some value => cases awaits
        | none =>
            cases awaits
            exact here
      · cases inner : rest.slot key others with
        | unknown =>
            rw [inner] at awaits
            cases awaits
        | repeated =>
            rw [inner] at awaits
            cases awaits
        | awaiting codec fill =>
            rw [inner] at awaits
            cases awaits
            exact induction own inner

section Step

variable {fields : Fields τ σ} {depth fuel : Nat} {member : Member}
  {slots filled : σ} {blanks rest after : List Char} {parts : List (List Char)}

/-- Only members that spell a name are read. -/
theorem name?_of_readMembers
    (here : member.Spaced) (first : Bool) (blank : Blank blanks)
    (read : fields.readMembers depth (fuel + 1) first slots
      (blanks ++ (following first (member.text :: parts) ++ rest)) =
        .ok (filled, after)) :
    ∃ name, member.name? = some name := by
  rw [readMembers] at read
  obtain ⟨_, key, _⟩ := bind_eq_ok.mp read
  obtain ⟨name, spells, _⟩ := (nextMember_ok_iff first blank here).mp key
  exact ⟨name, spells⟩

/-- What is done with a value depends on the slot of its name. -/
theorem readMembers_cons_iff
    (own : fields.Local) (here : member.Spaced) (value : Valid member.value)
    {name : String} (spells : member.name? = some name) (first : Bool)
    (blank : Blank blanks)
    (halts : Halts (member.after ++ (following false parts ++ rest)))
    {next : σ → Prop}
    (later : ∀ slots, fields.readMembers depth fuel false slots
      (member.after ++ (following false parts ++ rest)) =
        .ok (filled, after) ↔ next slots) :
    fields.readMembers depth (fuel + 1) first slots
        (blanks ++ (following first (member.text :: parts) ++ rest)) =
          .ok (filled, after) ↔
      (fields.slot name slots).Takes depth member slots next := by
  rw [readMembers, (nextMember_ok_iff first blank here).mpr ⟨name, spells, rfl⟩,
    ok_bind]
  dsimp only
  cases awaits : fields.slot name slots with
  | unknown =>
      dsimp only
      rw [here.skipMark_colon, ok_bind, ← List.append_assoc member.lead,
        value.skipValue here.lead halts, ok_bind]
      exact later slots
  | repeated =>
      constructor
      · intro never
        cases never
      · exact False.elim
  | awaiting codec fill =>
      have reading := local_of_slot own awaits
      dsimp only
      rw [here.skipMark_colon, ok_bind, bind_eq_ok]
      constructor
      · rintro ⟨⟨read, between⟩, accepted, more⟩
        obtain ⟨rfl, reads⟩ :=
          (reading.ok_iff here.lead value halts).mp accepted
        exact ⟨read, reads, (later (fill read)).mp more⟩
      · rintro ⟨read, reads, more⟩
        exact ⟨_, (reading.ok_iff here.lead value halts).mpr ⟨rfl, reads⟩,
          (later (fill read)).mpr more⟩

end Step

/-- All members are read when each has a name and they fill the slots. -/
theorem readMembers_ok_iff
    {fields : Fields τ σ} (distinct : fields.keys.Nodup) (own : fields.Local)
    (depth : Nat) {members : List Member}
    (spaced : ∀ member ∈ members, member.Spaced)
    (valid : ∀ member ∈ members, Valid member.value) {fill : List Char}
    (blankFill : Blank fill) {fuel : Nat} (enough : members.length < fuel)
    (first : Bool) {blanks : List Char} (blank : Blank blanks)
    {slots filled : σ} {rest after : List Char} :
    fields.readMembers depth fuel first slots
        (blanks ++ (following first (members.map Member.text) ++
          (fill ++ '\x7d' :: rest))) = .ok (filled, after) ↔
      after = rest ∧ (∀ member ∈ members, member.name?.isSome) ∧
        fields.Fill depth members slots filled := by
  induction members generalizing fuel first blanks slots with
  | nil =>
      obtain ⟨fuel, rfl⟩ : ∃ more, fuel = more + 1 := ⟨fuel - 1, by omega⟩
      rw [readMembers, List.map_nil, nextMember_end first blank blankFill,
        ok_bind, fill_nil_iff]
      constructor
      · rintro ⟨⟩
        refine ⟨rfl, ?_, rfl⟩
        intro member never
        cases never
      · rintro ⟨rfl, _, rfl⟩
        rfl
  | cons member members induction =>
      obtain ⟨fuel, rfl⟩ : ∃ more, fuel = more + 1 := ⟨fuel - 1, by omega⟩
      obtain ⟨here, spaced⟩ := List.forall_mem_cons.mp spaced
      obtain ⟨value, valid⟩ := List.forall_mem_cons.mp valid
      have halts := halts_following here.after blankFill
        (members.map Member.text) (.inr rfl) rest
      have later : ∀ slots, fields.readMembers depth fuel false slots
          (member.after ++ (following false (members.map Member.text) ++
            (fill ++ '\x7d' :: rest))) = .ok (filled, after) ↔ _ := fun slots =>
        induction spaced valid (Nat.lt_of_succ_lt_succ enough) false here.after
      have step : ∀ name, member.name? = some name →
          (fields.readMembers depth (fuel + 1) first slots _ =
              .ok (filled, after) ↔
            (fields.slot name slots).Takes depth member slots _) :=
        fun name spells =>
          readMembers_cons_iff own here value spells first blank halts later
      rw [List.map_cons, List.forall_mem_cons]
      constructor
      · intro read
        obtain ⟨name, spells⟩ := name?_of_readMembers here first blank read
        have taken := (step name spells).mp read
        rw [Slot.takes_and, Slot.takes_and] at taken
        obtain ⟨same, others, taken⟩ := taken
        refine ⟨same, ⟨by rw [spells]; rfl, others⟩, ?_⟩
        exact (fill_cons_iff distinct spells).mpr taken
      · rintro ⟨same, ⟨spells, others⟩, filled⟩
        obtain ⟨name, spells⟩ := Option.isSome_iff_exists.mp spells
        apply (step name spells).mpr
        rw [Slot.takes_and, Slot.takes_and]
        exact ⟨same, others, (fill_cons_iff distinct spells).mp filled⟩

/-! ## The end of an object -/

theorem finish_cons_ok_iff
    {field : Field α} {rest : Fields τ σ} {filled : Option α} {others : σ}
    {value : α} {values : τ} :
    (Fields.cons field rest).finish (filled, others) = .ok (value, values) ↔
      (filled <|> field.absent) = some value ∧
        rest.finish others = .ok values := by
  rw [finish]
  cases (filled <|> field.absent) with
  | none =>
      constructor
      · intro never
        cases never
      · rintro ⟨never, _⟩
        cases never
  | some found =>
      dsimp only
      rw [ok_bind, bind_eq_ok]
      constructor
      · rintro ⟨more, finished, same⟩
        cases same
        exact ⟨rfl, finished⟩
      · rintro ⟨same, finished⟩
        cases same
        exact ⟨values, finished, rfl⟩

/-- The slots that all members fill make up the values of the fields. -/
theorem fill_finish_iff
    {fields : Fields τ σ} {depth : Nat} {members : List Member} {values : τ} :
    (∃ filled, fields.Fill depth members fields.empty filled ∧
        fields.finish filled = .ok values) ↔
      fields.Match depth members values := by
  induction fields with
  | nil => exact ⟨fun _ => trivial, fun _ => ⟨(), trivial, rfl⟩⟩
  | cons field rest induction =>
      obtain ⟨value, values⟩ := values
      rw [Match, ← induction]
      constructor
      · rintro ⟨⟨filled, others⟩, ⟨given, fill⟩, finished⟩
        obtain ⟨found, finished⟩ := finish_cons_ok_iff.mp finished
        refine ⟨?_, others, fill, finished⟩
        cases filled with
        | none => exact .inr ⟨given, found⟩
        | some present =>
            cases found
            exact .inl given
      · rintro ⟨settles, others, fill, finished⟩
        rcases settles with given | ⟨none, absent⟩
        · exact ⟨(some value, others), ⟨given, fill⟩,
            finish_cons_ok_iff.mpr ⟨rfl, finished⟩⟩
        · exact ⟨(Option.none, others), ⟨none, fill⟩,
            finish_cons_ok_iff.mpr ⟨absent, finished⟩⟩

/-! ## The items of an array -/

/-- The places of an array before which so many of its items still stand. -/
inductive Before (items : List Item) (fill rest : List Char) :
    ArrayPlace → Prop where
  | closed : items = [] → Before items fill rest (.closed rest)
  | parts (first : Bool) {blanks : List Char} : Blank blanks →
      Before items fill rest (arrayPlace first
        (blanks ++ (following first (items.map Item.text) ++
          (fill ++ ']' :: rest))))

theorem nextItem_before_nil
    {fill rest : List Char} (blankFill : Blank fill) {place : ArrayPlace}
    (before : Before [] fill rest place) :
    nextItem place = .ok (.closed rest) := by
  cases before with
  | closed => rfl
  | parts first blank => exact nextItem_end first blank blankFill rest

theorem nextItem_before_cons
    {item : Item} {items : List Item} (spaced : item.Spaced)
    (opens : Opens item.value) {fill rest : List Char} {place : ArrayPlace}
    (before : Before (item :: items) fill rest place) :
    nextItem place = .ok (.item (item.value ++ (item.after ++
      (following false (items.map Item.text) ++ (fill ++ ']' :: rest))))) := by
  cases before with
  | closed never => cases never
  | parts first blank => exact nextItem_text first blank spaced opens _ _

theorem skipMark_ok_iff {mark : Char} {input rest : List Char} :
    skipMark mark input = .ok rest ↔ skipBlanks input = mark :: rest := by
  unfold skipMark
  cases skipBlanks input with
  | nil =>
      constructor
      · intro never
        cases never
      · intro never
        cases never
  | cons first others =>
      dsimp only
      split
      · next same =>
          rw [same]
          constructor
          · rintro ⟨⟩
            rfl
          · rintro ⟨⟩
            rfl
      · next different =>
          constructor
          · intro never
            cases never
          · intro same
            exact absurd (List.cons.inj same).1 different

/-- An array may be closed where nothing but its end follows. -/
theorem closeArray_ok_iff {place : ArrayPlace} {after : List Char} :
    closeArray place = .ok after ↔ nextItem place = .ok (.closed after) := by
  cases place with
  | closed rest =>
      constructor
      · rintro ⟨⟩
        rfl
      · rintro ⟨⟩
        rfl
  | first input =>
      show skipMark ']' input = _ ↔ _
      rw [skipMark_ok_iff]
      unfold nextItem
      dsimp only
      constructor
      · intro closing
        rw [closing]
        rfl
      · intro closed
        split at closed
        · cases closed
        · next closing =>
            cases closed
            exact closing
        · cases closed
  | later input =>
      show skipMark ']' input = _ ↔ _
      rw [skipMark_ok_iff]
      unfold nextItem
      dsimp only
      constructor
      · intro closing
        rw [closing]
        rfl
      · intro closed
        split at closed
        · cases closed
        · next closing =>
            cases closed
            exact closing
        · split at closed
          · cases closed
          · cases closed
          · cases closed
        · cases closed

/-- The fields are read from a place in an array, which ends behind them. -/
def ReadsToEnd
    (fields : Fields τ σ) (expected : String) (depth index : Nat)
    (place : ArrayPlace) (values : τ) (after : List Char) : Prop :=
  ∃ last, fields.readInOrder expected depth index place = .ok (values, last) ∧
    closeArray last = .ok after

section ReadsToEnd

variable {field : Field α} {rest : Fields τ σ} {expected : String}
  {depth index : Nat} {place : ArrayPlace} {value : α} {values : τ}
  {after : List Char}

theorem readsToEnd_nil_iff {values : Unit} :
    Fields.nil.ReadsToEnd expected depth index place values after ↔
      closeArray place = .ok after := by
  constructor
  · rintro ⟨_, same, closes⟩
    cases same
    exact closes
  · exact fun closes => ⟨place, rfl, closes⟩

/-- Where the array has ended the first field is left out. -/
theorem readsToEnd_closed_iff
    {ended : List Char} (next : nextItem place = .ok (.closed ended)) :
    (Fields.cons field rest).ReadsToEnd expected depth index place
        (value, values) after ↔
      field.absent = some value ∧
        rest.ReadsToEnd expected depth (index + 1) (.closed ended) values
          after := by
  unfold ReadsToEnd
  rw [readInOrder, next, ok_bind]
  dsimp only
  cases field.absent with
  | none =>
      constructor
      · rintro ⟨_, never, _⟩
        cases never
      · rintro ⟨never, _⟩
        cases never
  | some default =>
      constructor
      · rintro ⟨last, read, closes⟩
        obtain ⟨⟨others, place⟩, more, same⟩ := bind_eq_ok.mp read
        cases same
        exact ⟨rfl, _, more, closes⟩
      · rintro ⟨same, last, more, closes⟩
        cases same
        refine ⟨last, ?_, closes⟩
        dsimp only
        rw [more]
        rfl

/-- The next item is the value of the first field. -/
theorem readsToEnd_item_iff
    {input : List Char} (next : nextItem place = .ok (.item input)) :
    (Fields.cons field rest).ReadsToEnd expected depth index place
        (value, values) after ↔
      ∃ behind, field.codec.read depth input = .ok (value, behind) ∧
        rest.ReadsToEnd expected depth (index + 1) (.later behind) values
          after := by
  unfold ReadsToEnd
  rw [readInOrder, next, ok_bind]
  dsimp only
  constructor
  · rintro ⟨last, read, closes⟩
    obtain ⟨⟨given, behind⟩, first, read⟩ := bind_eq_ok.mp read
    obtain ⟨⟨others, place⟩, more, same⟩ := bind_eq_ok.mp read
    cases same
    exact ⟨behind, first, _, more, closes⟩
  · rintro ⟨behind, first, last, more, closes⟩
    refine ⟨last, ?_, closes⟩
    rw [first, ok_bind]
    dsimp only
    rw [more]
    rfl

end ReadsToEnd

/-- The fields are read in order when the items are theirs, and no more. -/
theorem readsToEnd_iff
    {fields : Fields τ σ} (own : fields.Local) (expected : String) (depth : Nat)
    {items : List Item} (spaced : ∀ item ∈ items, item.Spaced)
    (valid : ∀ item ∈ items, Valid item.value) {fill rest after : List Char}
    (blankFill : Blank fill) (index : Nat) {place : ArrayPlace}
    (before : Before items fill rest place) {values : τ} :
    fields.ReadsToEnd expected depth index place values after ↔
      after = rest ∧ fields.MatchInOrder depth items values := by
  induction fields generalizing items index place with
  | nil =>
      rw [readsToEnd_nil_iff, closeArray_ok_iff]
      cases items with
      | nil =>
          rw [nextItem_before_nil blankFill before]
          constructor
          · rintro ⟨⟩
            exact ⟨rfl, rfl⟩
          · rintro ⟨rfl, _⟩
            rfl
      | cons item items =>
          rw [nextItem_before_cons (spaced item List.mem_cons_self)
            (valid item List.mem_cons_self).opens before]
          constructor
          · intro never
            cases never
          · rintro ⟨_, never⟩
            cases never
  | cons field fields induction =>
      obtain ⟨value, values⟩ := values
      obtain ⟨here, own⟩ := own
      cases items with
      | nil =>
          rw [readsToEnd_closed_iff (nextItem_before_nil blankFill before),
            induction own spaced valid (index + 1) (.closed rfl), MatchInOrder,
            and_left_comm]
      | cons item items =>
          obtain ⟨blanks, spaced⟩ := List.forall_mem_cons.mp spaced
          obtain ⟨text, valid⟩ := List.forall_mem_cons.mp valid
          have halts := halts_following blanks.after blankFill
            (items.map Item.text) (.inl rfl) rest
          have later : fields.ReadsToEnd expected depth (index + 1) (.later _)
              values after ↔ _ :=
            induction own spaced valid (index + 1) (.parts false blanks.after)
          rw [readsToEnd_item_iff
              (nextItem_before_cons blanks text.opens before),
            MatchInOrder]
          simp only [(here.settled depth _ text).ok_iff halts]
          constructor
          · rintro ⟨_, ⟨rfl, reads⟩, more⟩
            obtain ⟨same, each⟩ := later.mp more
            exact ⟨same, reads, each⟩
          · rintro ⟨same, reads, each⟩
            exact ⟨_, ⟨rfl, reads⟩, later.mpr ⟨same, each⟩⟩

end Fields

/-! ## Records -/

namespace Codec

/-- A record is read from an object when its fields match the members. -/
theorem read_record_ok_iff
    {fields : Fields τ σ} (distinct : fields.keys.Nodup) (own : fields.Local)
    (title : String) (depth : Nat) {members : List Member}
    (spaced : ∀ member ∈ members, member.Spaced)
    (valid : ∀ member ∈ members, Valid member.value) {fill : List Char}
    (blank : Blank fill) {rest after : List Char} {values : τ} :
    (record title fields).read (depth + 1) (objectText members fill ++ rest) =
        .ok (values, after) ↔
      after = rest ∧ (∀ member ∈ members, member.name?.isSome) ∧
        fields.Match depth members values := by
  have opened : (record title fields).read (depth + 1)
      (objectText members fill ++ rest) =
      (fields.readMembers depth ((objectRest members fill rest).length + 1) true
        fields.empty (objectRest members fill rest) >>= fun filled =>
          fields.finish filled.1 >>= fun values =>
            .ok (values, filled.2)) := by
    rw [objectText_append]
    rfl
  have read : ∀ filled behind, fields.readMembers depth
      ((objectRest members fill rest).length + 1) true fields.empty
      (objectRest members fill rest) = .ok (filled, behind) ↔ _ :=
    fun filled behind => Fields.readMembers_ok_iff distinct own depth spaced
      valid blank (length_lt_objectRest members fill rest) true blank_nil
  rw [opened, bind_eq_ok, ← Fields.fill_finish_iff]
  constructor
  · rintro ⟨⟨filled, behind⟩, taken, more⟩
    obtain ⟨same, names, fills⟩ := (read filled behind).mp taken
    obtain ⟨made, finished, equal⟩ := bind_eq_ok.mp more
    cases equal
    exact ⟨same, names, filled, fills, finished⟩
  · rintro ⟨rfl, names, filled, fills, finished⟩
    refine ⟨_, (read filled after).mpr ⟨rfl, names, fills⟩, ?_⟩
    dsimp only
    rw [finished]
    rfl

theorem record_local
    (title : String) {fields : Fields τ σ} (distinct : fields.keys.Nodup)
    (own : fields.Local) :
    (record title fields).Local := by
  constructor
  · intro depth input
    unfold record
    dsimp only
    rw [skipBlanks_skipBlanks]
  · intro depth text valid
    cases valid with
    | null => exact settled_of_mismatch _ fun _ => rfl
    | boolean value =>
        cases value with
        | true => exact settled_of_mismatch _ fun _ => rfl
        | false => exact settled_of_mismatch _ fun _ => rfl
    | unsigned number =>
        refine number.forall_digit fun digit listed others => ?_
        refine settled_of_mismatch ("struct " ++ title) fun rest => ?_
        fin_cases listed <;> rfl
    | negative => exact settled_of_mismatch _ fun _ => rfl
    | text => exact settled_of_mismatch _ fun _ => rfl
    | @array items fill blank spaced valid =>
        cases depth with
        | zero => exact settled_of_eq (.error .malformed) fun _ _ => rfl
        | succ depth =>
            apply settled_of_iff (fields.MatchInOrder depth items)
            intro rest values after _
            rw [arrayText_append]
            rw [← Fields.readsToEnd_iff own
              ("struct " ++ title ++ " with " ++ elementCount fields.count)
              depth spaced valid blank 0 (.parts true blank_nil)]
            show (fields.readInOrder _ depth 0
              (.first (arrayRest items fill rest)) >>= fun taken =>
                closeArray taken.2 >>= fun rest => .ok (taken.1, rest)) = _ ↔ _
            rw [bind_eq_ok]
            constructor
            · rintro ⟨⟨taken, last⟩, fields, closes⟩
              obtain ⟨behind, closes, same⟩ := bind_eq_ok.mp closes
              cases same
              exact ⟨last, fields, closes⟩
            · rintro ⟨last, fields, closes⟩
              refine ⟨(values, last), fields, ?_⟩
              dsimp only
              rw [closes]
              rfl
    | @object members fill blank spaced valid =>
        cases depth with
        | zero => exact settled_of_eq (.error .malformed) fun _ _ => rfl
        | succ depth =>
            exact settled_of_iff _ fun _ _ _ _ =>
              read_record_ok_iff distinct own title depth spaced valid blank

end Codec

end EventRelay.Json
