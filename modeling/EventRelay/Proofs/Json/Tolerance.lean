import EventRelay.Proofs.Json.Changes

/-!
# Objects that are read alike

Which members a record takes decides what it reads, so order and unknown
members make no difference.  Taking a known member away gives its field the
value that it has when it is left out; null gives the same for a field that may
be null.  A record that holds another one reads it from a member, so the same
goes for the inner object.  A field that must be given cannot be left out.

These laws are stated of codecs, apart from the fields that they are made of.
-/

namespace EventRelay.Json

variable {α β : Type}

/-! ## Records by their members -/

namespace Codec

/--
How a codec is made from a record: its fields have different keys and read each
value for itself.
-/
structure Shape (codec : Codec α) where
  {τ σ : Type}
  title : String
  fields : Fields τ σ
  forward : τ → α
  backward : α → τ
  same : codec = (record title fields).imap forward backward
  distinct : fields.keys.Nodup
  own : fields.Local

namespace Shape

/-- A codec that is written down as a record is made from it. -/
def ofRecord
    {τ σ : Type} {title : String} {fields : Fields τ σ} {forward : τ → α}
    {backward : α → τ} (distinct : fields.keys.Nodup) (own : fields.Local) :
    ((record title fields).imap forward backward).Shape :=
  ⟨title, fields, forward, backward, rfl, distinct, own⟩

variable {codec : Codec α} (shape : codec.Shape)

include shape in
theorem isLocal : codec.Local := by
  rw [shape.same]
  exact imap_local (record_local shape.title shape.distinct shape.own)
    shape.forward shape.backward

/-- A record is read from an object when its fields match the members. -/
theorem reads_iff
    {depth : Nat} {members : List Member} {text : List Char}
    (object : IsObject members text) {value : α} :
    Reads (codec.read depth) text value ↔
      ∃ inner values, depth = inner + 1 ∧
        (∀ member ∈ members, member.name?.isSome) ∧
          shape.fields.Match inner members values ∧
            shape.forward values = value := by
  obtain ⟨title, fields, forward, backward, rfl, distinct, own⟩ := shape
  obtain ⟨formed, fill, blank, rfl⟩ := object
  have spaced := fun member listed => (formed member listed).toSpaced
  have valid := fun member listed => (formed member listed).value
  cases depth with
  | zero =>
      constructor
      · intro reads
        cases reads [] ends_nil.halts
      · rintro ⟨_, _, never, _⟩
        cases never
  | succ depth =>
      have read : ∀ rest values after,
          (record title fields).read (depth + 1)
            (objectText members fill ++ rest) = .ok (values, after) ↔ _ :=
        fun rest values after =>
          read_record_ok_iff distinct own title depth spaced valid blank
      constructor
      · intro reads
        obtain ⟨⟨values, behind⟩, first, second⟩ :=
          bind_eq_ok.mp (reads [] ends_nil.halts)
        cases second
        obtain ⟨_, names, matched⟩ := (read [] values _).mp first
        exact ⟨depth, values, rfl, names, matched, rfl⟩
      · rintro ⟨_, values, same, names, matched, rfl⟩
        cases same
        intro rest _
        have first := (read rest values rest).mpr ⟨rfl, names, matched⟩
        show ((record title fields).read _ _ >>= _) = _
        rw [first]
        rfl

end Shape

/-! ## Tolerance -/

/--
A codec that reads an object by its known members: in any order, among any
others, and with the value of its own that a field has when it is left out, if
it may be.
-/
structure Tolerant
    (codec : Codec α) (known omittable nullable : List String)
    (reset : String → α → α) : Prop where
  own : codec.Local
  /-- Order and unknown members make no difference. -/
  rearranged :
    ∀ {depth : Nat} {members others unknown : List Member}
      {text other : List Char} {value : α},
      IsObject members text → IsObject others other →
        others.Perm (members ++ unknown) →
          (∀ member ∈ unknown, member.Unknown known) →
            Reads (codec.read depth) text value →
              Reads (codec.read depth) other value
  /-- Without a member that may be left out its field alone is reset. -/
  removed :
    ∀ {depth : Nat} {key : String} {members : List Member}
      {text other : List Char} {value : α},
      key ∈ omittable → IsObject members text →
        IsObject (without key members) other →
          Reads (codec.read depth) text value →
            Reads (codec.read depth) other (reset key value)
  /-- Where a field may be null, null and no member are the same. -/
  nulled :
    ∀ {depth : Nat} {key : String} {null : Member}
      {members others : List Member} {text other : List Char} {value : α},
      key ∈ nullable → null.name? = some key → null.value = printNull →
        Lacks key others → members.Perm (null :: others) →
          IsObject members text → IsObject others other →
            (Reads (codec.read depth) text value ↔
              Reads (codec.read depth) other value)

/--
A codec whose objects hold a value of another codec under a key.  When the
value of the member changes, the value that was held changes, and no other.
-/
structure Holds
    (codec : Codec α) (key : String) (inner : Codec β) (get : α → β)
    (put : β → α → α) : Prop where
  reads :
    ∀ {depth : Nat} {front back : List Member} {member : Member}
      {text : List Char} {value : α},
      member.name? = some key → IsObject (front ++ member :: back) text →
        Reads (codec.read (depth + 1)) text value →
          Reads (inner.read depth) member.value (get value)
  replaced :
    ∀ {depth : Nat} {front back : List Member} {member : Member}
      {text content other : List Char} {value : α} {given : β},
      member.name? = some key → IsObject (front ++ member :: back) text →
        IsObject (front ++ member.withValue content :: back) other →
          Reads (codec.read (depth + 1)) text value →
            Reads (inner.read depth) content given →
              Reads (codec.read (depth + 1)) other (put given value)

/-- A codec that reads no object without members of the given keys. -/
def Demands (codec : Codec α) (demanded : List String) : Prop :=
  ∀ ⦃depth : Nat⦄ ⦃key : String⦄ ⦃members : List Member⦄ ⦃text : List Char⦄
    ⦃value : α⦄,
    key ∈ demanded → IsObject members text → Lacks key members →
      ¬Reads (codec.read depth) text value

namespace Shape

variable {codec : Codec α} (shape : codec.Shape)

/-- A record is tolerant of what its fields are tolerant of. -/
theorem tolerant
    {omittable nullable : List String} {reset : String → α → α}
    (resets : shape.fields.Resets shape.forward omittable reset)
    (nulls : shape.fields.Nullable nullable) :
    codec.Tolerant shape.fields.keys omittable nullable reset := by
  constructor
  case own => exact shape.isLocal
  case rearranged =>
    intro depth members others unknown text other value object otherObject
      reordered strange
    rw [shape.reads_iff object, shape.reads_iff otherObject]
    rintro ⟨inner, values, rfl, names, matched, rfl⟩
    refine ⟨inner, values, rfl, ?_, Fields.match_of_perm ?_ matched, rfl⟩
    · intro member listed
      rcases List.mem_append.mp (reordered.mem_iff.mp listed) with known | more
      · exact names member known
      · obtain ⟨name, spells, _⟩ := strange member more
        rw [spells]
        rfl
    · intro key listed
      have none := named_eq_nil_iff.mpr (Member.Unknown.lacks strange listed)
      have same : named key (members ++ unknown) = named key members := by
        rw [named_append, none, List.append_nil]
      rw [← same]
      exact reordered.filter _
  case removed =>
    intro depth key members text other value listed object otherObject
    rw [shape.reads_iff object, shape.reads_iff otherObject]
    rintro ⟨inner, values, rfl, names, matched, rfl⟩
    obtain ⟨seat, default, found, absent, back⟩ := resets key listed
    refine ⟨inner, seat.put default values, rfl, ?_, ?_, back values⟩
    · exact fun member listed => names member (List.mem_filter.mp listed).1
    · apply Fields.match_put shape.distinct found
        (fun name different => .of_eq (named_without different members)) matched
      refine .inr ⟨?_, absent⟩
      rw [Fields.key_of_seat? found, named_eq_nil_iff]
      exact lacks_without key members
  case nulled =>
    intro depth key null members others text other value listed spells isNull
      lacks reordered object otherObject
    rw [shape.reads_iff object, shape.reads_iff otherObject]
    obtain ⟨_, _, _, _, _, found⟩ := nulls key listed
    have names : (∀ member ∈ members, member.name?.isSome) ↔
        ∀ member ∈ others, member.name?.isSome := by
      simp only [reordered.mem_iff, List.forall_mem_cons, spells,
        Option.isSome_some, true_and]
    simp only [names,
      Fields.match_null_iff shape.distinct found spells isNull lacks reordered]

/-- A record holds the value of each of its fields. -/
theorem holds
    {key : String} {field : Field β} {get : shape.τ → β}
    {put : β → shape.τ → shape.τ}
    (found : shape.fields.seat? key = some ⟨field, get, put⟩)
    {inner : Codec β} (same : field.codec = inner) {whole : α → β}
    {amend : β → α → α}
    (gets : ∀ values, whole (shape.forward values) = get values)
    (puts : ∀ value values,
      amend value (shape.forward values) =
        shape.forward (put value values)) :
    codec.Holds key inner whole amend := by
  subst same
  have sameKey : field.key = key := Fields.key_of_seat? found
  have single : ∀ {depth front back member values},
      member.name? = some key →
        shape.fields.Match depth (front ++ member :: back) values →
          named key (front ++ member :: back) = [member] ∧
            Reads (field.codec.read depth) member.value (get values) := by
    intro depth front back member values spells matched
    rcases Fields.settles_of_match found matched with
      ⟨only, alone, reads⟩ | ⟨none, _⟩
    · dsimp only at alone
      rw [sameKey] at alone
      obtain ⟨rfl, _⟩ := named_withValue spells alone []
      exact ⟨alone, reads⟩
    · dsimp only at none
      rw [sameKey] at none
      exact absurd spells (named_eq_nil_iff.mp none member (by simp))
  constructor
  case reads =>
    intro depth front back member text value spells object
    rw [shape.reads_iff object]
    rintro ⟨inner, values, same, names, matched, rfl⟩
    cases same
    rw [gets]
    exact (single spells matched).2
  case replaced =>
    intro depth front back member text content other value given spells object
      otherObject
    rw [shape.reads_iff object, shape.reads_iff otherObject]
    rintro ⟨inner, values, same, names, matched, rfl⟩ reads
    cases same
    obtain ⟨alone, _⟩ := single spells matched
    obtain ⟨_, again⟩ := named_withValue spells alone content
    refine ⟨depth, put given values, rfl, ?_, ?_, (puts given values).symm⟩
    · simp only [List.forall_mem_append, List.forall_mem_cons] at names ⊢
      exact names
    · apply Fields.match_put shape.distinct found ?_ matched
      · exact .inl ⟨_, sameKey ▸ again, reads⟩
      · exact fun name different =>
          .of_eq (named_withValue_other spells different content)

/-- A record demands the fields that must be given. -/
theorem demands
    {demanded : List String} (must : shape.fields.Demanded demanded) :
    codec.Demands demanded := by
  intro depth key members text value listed object lacks
  rw [shape.reads_iff object]
  rintro ⟨inner, values, _, _, matched, _⟩
  obtain ⟨seat, found, never⟩ := must key listed
  rcases Fields.settles_of_match found matched with
    ⟨only, alone, _⟩ | ⟨_, absent⟩
  · rw [Fields.key_of_seat? found, named_eq_nil_iff.mpr lacks] at alone
    cases alone
  · rw [never] at absent
    cases absent

end Shape

/-- What may be null reads an object as what is held. -/
theorem reads_optional_object_iff
    {codec : Codec α} {depth : Nat} {members : List Member} {text : List Char}
    (object : IsObject members text) {value : Option α} :
    Reads (codec.optional.read depth) text value ↔
      ∃ held, value = some held ∧ Reads (codec.read depth) text held := by
  obtain ⟨_, fill, _, rfl⟩ := object
  have present : ∀ rest,
      codec.optional.read depth (objectText members fill ++ rest) =
        (codec.read depth (objectText members fill ++ rest)).map
          fun result => (some result.1, result.2) :=
    fun _ => rfl
  constructor
  · intro reads
    obtain ⟨⟨held, _⟩, _, same⟩ :=
      map_eq_ok.mp ((present []).symm.trans (reads [] ends_nil.halts))
    cases same
    refine ⟨held, rfl, fun rest halts => ?_⟩
    obtain ⟨_, read, same⟩ :=
      map_eq_ok.mp ((present rest).symm.trans (reads rest halts))
    cases same
    exact read
  · rintro ⟨held, rfl, reads⟩ rest halts
    rw [present, reads rest halts]
    rfl

/-! ## Objects inside others -/

/-- What is tolerant stays so where null may stand in its place. -/
theorem Tolerant.optional
    {codec : Codec α} {known omittable nullable : List String}
    {reset : String → α → α}
    (tolerant : codec.Tolerant known omittable nullable reset) :
    codec.optional.Tolerant known omittable nullable
      fun key => Option.map (reset key) := by
  constructor
  case own => exact optional_local tolerant.own
  case rearranged =>
    intro depth members others unknown text other value object otherObject
      reordered strange
    rw [reads_optional_object_iff object, reads_optional_object_iff otherObject]
    rintro ⟨held, rfl, reads⟩
    exact ⟨held, rfl,
      tolerant.rearranged object otherObject reordered strange reads⟩
  case removed =>
    intro depth key members text other value listed object otherObject
    rw [reads_optional_object_iff object, reads_optional_object_iff otherObject]
    rintro ⟨held, rfl, reads⟩
    exact ⟨reset key held, rfl,
      tolerant.removed listed object otherObject reads⟩
  case nulled =>
    intro depth key null members others text other value listed spells isNull
      lacks reordered object otherObject
    rw [reads_optional_object_iff object, reads_optional_object_iff otherObject]
    simp only [tolerant.nulled listed spells isNull lacks reordered object
      otherObject]

/--
A codec that reads the object under a key by its known members, as a tolerant
codec reads an object.
-/
structure TolerantWithin
    (codec : Codec α) (place : String) (known omittable nullable : List String)
    (reset : String → α → α) : Prop where
  rearranged :
    ∀ {depth : Nat} {front back members others unknown : List Member}
      {member : Member} {text other content : List Char} {value : α},
      member.name? = some place → IsObject (front ++ member :: back) text →
        IsObject (front ++ member.withValue content :: back) other →
          IsObject members member.value → IsObject others content →
            others.Perm (members ++ unknown) →
              (∀ member ∈ unknown, member.Unknown known) →
                Reads (codec.read (depth + 1)) text value →
                  Reads (codec.read (depth + 1)) other value
  removed :
    ∀ {depth : Nat} {key : String} {front back members : List Member}
      {member : Member} {text other content : List Char} {value : α},
      key ∈ omittable → member.name? = some place →
        IsObject (front ++ member :: back) text →
          IsObject (front ++ member.withValue content :: back) other →
            IsObject members member.value →
              IsObject (without key members) content →
                Reads (codec.read (depth + 1)) text value →
                  Reads (codec.read (depth + 1)) other (reset key value)
  nulled :
    ∀ {depth : Nat} {key : String} {front back members others : List Member}
      {member null : Member} {text other content : List Char} {value : α},
      key ∈ nullable → null.name? = some key → null.value = printNull →
        Lacks key others → members.Perm (null :: others) →
          member.name? = some place →
            IsObject (front ++ member :: back) text →
              IsObject (front ++ member.withValue content :: back) other →
                IsObject members member.value → IsObject others content →
                  (Reads (codec.read (depth + 1)) text value ↔
                    Reads (codec.read (depth + 1)) other value)

/-- What a codec holds it reads as tolerantly as it is read alone. -/
theorem Holds.tolerantWithin
    {codec : Codec α} {place : String} {inner : Codec β} {get : α → β}
    {put : β → α → α} {known omittable nullable : List String}
    {reset : String → β → β} (holds : codec.Holds place inner get put)
    (tolerant : inner.Tolerant known omittable nullable reset)
    (kept : ∀ value, put (get value) value = value)
    {amend : String → α → α}
    (amends :
      ∀ key value, put (reset key (get value)) value = amend key value) :
    codec.TolerantWithin place known omittable nullable amend := by
  constructor
  case rearranged =>
    intro depth front back members others unknown member text other content
      value spells object otherObject inside otherInside reordered strange reads
    have again := holds.replaced spells object otherObject reads
      (tolerant.rearranged inside otherInside reordered strange
        (holds.reads spells object reads))
    rwa [kept] at again
  case removed =>
    intro depth key front back members member text other content value listed
      spells object otherObject inside otherInside reads
    rw [← amends]
    exact holds.replaced spells object otherObject reads
      (tolerant.removed listed inside otherInside
        (holds.reads spells object reads))
  case nulled =>
    intro depth key front back members others member null text other content
      value listed names isNull lacks reordered spells object otherObject inside
      otherInside
    have same : ∀ held, Reads (inner.read depth) member.value held ↔
        Reads (inner.read depth) content held := fun held =>
      tolerant.nulled listed names isNull lacks reordered inside otherInside
    constructor
    · intro reads
      have again := holds.replaced spells object otherObject reads
        ((same _).mp (holds.reads spells object reads))
      rwa [kept] at again
    · intro reads
      have again : (member.withValue content).name? = some place := spells
      have whole := holds.replaced again otherObject object reads
        ((same _).mpr (holds.reads again otherObject reads))
      rwa [kept] at whole

/-! ## Whole texts -/

end Codec

/-- A whole text that is a value with blanks around it. -/
def Encloses (text : String) (value : List Char) : Prop :=
  ∃ lead trail, Blank lead ∧ Blank trail ∧ text.toList = lead ++ value ++ trail

/-- A whole text that is an object of the given members. -/
def Spells (text : String) (members : List Member) : Prop :=
  ∃ object, IsObject members object ∧ Encloses text object

/-- The written text of an object. -/
theorem spells_print (members : List (String × Json)) :
    Spells (String.ofList (print (.object members)))
      (members.map fun member => Member.bare member.1 member.2.print) := by
  refine ⟨_, isObject_print (valid_printMembers members), [], [], blank_nil,
    blank_nil, ?_⟩
  rw [String.toList_ofList, List.nil_append, List.append_nil]

/-- A text is accepted when its value is read. -/
theorem Codec.decode_ok_iff
    {codec : Codec α} (own : codec.Local) {text : String} {content : List Char}
    (encloses : Encloses text content) (valid : Valid content) {value : α} :
    codec.decode text = .ok value ↔
      Reads (codec.read nestingLimit) content value := by
  obtain ⟨lead, trail, blankLead, blankTrail, whole⟩ := encloses
  have halts : Halts trail := by
    have more := blankTrail.halts_append ends_nil.halts
    rwa [List.append_nil] at more
  have nothing : skipBlanks trail = [] := by
    have more := blankTrail.skipBlanks_append []
    rwa [List.append_nil] at more
  unfold decode
  rw [whole, List.append_assoc, bind_eq_ok]
  constructor
  · rintro ⟨⟨taken, rest⟩, read, same⟩
    obtain ⟨rfl, reads⟩ := (own.ok_iff blankLead valid halts).mp read
    dsimp only at same
    rw [nothing] at same
    cases same
    exact reads
  · intro reads
    refine ⟨(value, trail),
      (own.ok_iff blankLead valid halts).mpr ⟨rfl, reads⟩, ?_⟩
    dsimp only
    rw [nothing]
    rfl

/-- A text that is an object is accepted when the object is read. -/
theorem Codec.decode_map_ok_iff
    {codec : Codec α} (own : codec.Local) (make : α → β) {text : String}
    {members : List Member} (spells : Spells text members) :
    ∃ object, IsObject members object ∧ ∀ result,
      ((codec.decode text).map make = .ok result ↔
        ∃ value, Reads (codec.read nestingLimit) object value ∧
          make value = result) := by
  obtain ⟨object, isObject, encloses⟩ := spells
  refine ⟨object, isObject, fun result => ?_⟩
  simp only [map_eq_ok, decode_ok_iff own encloses isObject.valid]

/-! ## One object of a text -/

/--
An object of the given members: the whole text, or the value of the member of
a key in it.
-/
inductive HasObject (text : String) (members : List Member) :
    Option String → Prop where
  | whole : Spells text members → HasObject text members none
  | within {place : String} {front back : List Member} {member : Member} :
      member.name? = some place → Spells text (front ++ member :: back) →
        IsObject members member.value → HasObject text members (some place)

/--
Two texts that differ in one object at most, in which they have the given
members: the whole text, or the value of the member of a key in it.
-/
inductive Varies (text other : String) (members others : List Member) :
    Option String → Prop where
  | whole :
      Spells text members → Spells other others →
        Varies text other members others none
  | within
      {place : String} {front back : List Member} {member : Member}
      {content : List Char} :
      member.name? = some place → Spells text (front ++ member :: back) →
        Spells other (front ++ member.withValue content :: back) →
          IsObject members member.value → IsObject others content →
            Varies text other members others (some place)

/--
One object of a text is read by its known members.  The names of its members
need not differ: a text in which a known one comes twice is not accepted.
-/
structure ReadsAlike
    (decode : String → Except Fault α) (place : Option String)
    (known omittable nullable : List String) (reset : String → α → α) :
    Prop where
  /-- Order and members of unknown names make no difference. -/
  rearranged :
    ∀ {text other : String} {members others unknown : List Member} {value : α},
      Varies text other members others place →
        others.Perm (members ++ unknown) →
          (∀ member ∈ unknown, member.Unknown known) →
            decode text = .ok value → decode other = .ok value
  /-- Without a member that may be left out its field alone is reset. -/
  removed :
    ∀ {text other key : String} {members : List Member} {value : α},
      key ∈ omittable →
        Varies text other members (without key members) place →
          decode text = .ok value → decode other = .ok (reset key value)
  /-- Where a field may be null, null and no member are the same. -/
  nulled :
    ∀ {text other key : String} {null : Member} {members others : List Member}
      {value : α},
      key ∈ nullable → null.name? = some key → null.value = printNull →
        Lacks key others → members.Perm (null :: others) →
          Varies text other members others place →
            (decode text = .ok value ↔ decode other = .ok value)

/-- No text is accepted in which one object lacks a member of the keys. -/
def Requires
    (decode : String → Except Fault α) (place : Option String)
    (demanded : List String) : Prop :=
  ∀ ⦃text key : String⦄ ⦃members : List Member⦄ ⦃value : α⦄,
    key ∈ demanded → HasObject text members place → Lacks key members →
      decode text ≠ .ok value

namespace Codec

variable {codec : Codec α} {known omittable nullable : List String}
  {reset : String → α → α} {make : α → β} {amend : String → β → β}

theorem Tolerant.readsAlike
    (tolerant : codec.Tolerant known omittable nullable reset)
    (amends : ∀ key value, amend key (make value) = make (reset key value)) :
    ReadsAlike (fun text => (codec.decode text).map make) none known omittable
      nullable amend := by
  have told := fun {text members} =>
    @decode_map_ok_iff _ _ codec tolerant.own make text members
  constructor
  case rearranged =>
    intro text other members others unknown result varies reordered strange
    obtain ⟨spells, otherSpells⟩ := varies
    obtain ⟨object, isObject, accepted⟩ := told spells
    obtain ⟨otherObject, isOther, otherAccepted⟩ := told otherSpells
    rw [accepted, otherAccepted]
    rintro ⟨value, reads, rfl⟩
    exact ⟨value,
      tolerant.rearranged isObject isOther reordered strange reads, rfl⟩
  case removed =>
    intro text other key members result listed varies
    obtain ⟨spells, otherSpells⟩ := varies
    obtain ⟨object, isObject, accepted⟩ := told spells
    obtain ⟨otherObject, isOther, otherAccepted⟩ := told otherSpells
    rw [accepted, otherAccepted]
    rintro ⟨value, reads, rfl⟩
    exact ⟨reset key value, tolerant.removed listed isObject isOther reads,
      (amends key value).symm⟩
  case nulled =>
    intro text other key null members others result listed names isNull lacks
      reordered varies
    obtain ⟨spells, otherSpells⟩ := varies
    obtain ⟨object, isObject, accepted⟩ := told spells
    obtain ⟨otherObject, isOther, otherAccepted⟩ := told otherSpells
    rw [accepted, otherAccepted]
    exact exists_congr fun value => and_congr_left' <|
      tolerant.nulled listed names isNull lacks reordered isObject isOther

theorem TolerantWithin.readsAlike
    {place : String}
    (tolerant : codec.TolerantWithin place known omittable nullable reset)
    (own : codec.Local)
    (amends : ∀ key value, amend key (make value) = make (reset key value)) :
    ReadsAlike (fun text => (codec.decode text).map make) (some place) known
      omittable nullable amend := by
  have told := fun {text members} =>
    @decode_map_ok_iff _ _ codec own make text members
  constructor
  case rearranged =>
    intro text other members others unknown result varies reordered strange
    obtain _ | ⟨name, spells, otherSpells, inside, otherInside⟩ := varies
    obtain ⟨object, isObject, accepted⟩ := told spells
    obtain ⟨otherObject, isOther, otherAccepted⟩ := told otherSpells
    rw [accepted, otherAccepted]
    rintro ⟨value, reads, rfl⟩
    exact ⟨value, tolerant.rearranged name isObject isOther inside otherInside
      reordered strange reads, rfl⟩
  case removed =>
    intro text other key members result listed varies
    obtain _ | ⟨name, spells, otherSpells, inside, otherInside⟩ := varies
    obtain ⟨object, isObject, accepted⟩ := told spells
    obtain ⟨otherObject, isOther, otherAccepted⟩ := told otherSpells
    rw [accepted, otherAccepted]
    rintro ⟨value, reads, rfl⟩
    exact ⟨reset key value,
      tolerant.removed listed name isObject isOther inside otherInside reads,
      (amends key value).symm⟩
  case nulled =>
    intro text other key null members others result listed names isNull lacks
      reordered varies
    obtain _ | ⟨name, spells, otherSpells, inside, otherInside⟩ := varies
    obtain ⟨object, isObject, accepted⟩ := told spells
    obtain ⟨otherObject, isOther, otherAccepted⟩ := told otherSpells
    rw [accepted, otherAccepted]
    exact exists_congr fun value => and_congr_left' <|
      tolerant.nulled listed names isNull lacks reordered name isObject isOther
        inside otherInside

theorem Demands.requires
    {demanded : List String} (demands : codec.Demands demanded)
    (own : codec.Local) :
    Requires (fun text => (codec.decode text).map make) none demanded := by
  intro text key members result listed hasObject lacks accepted
  obtain ⟨spells⟩ := hasObject
  obtain ⟨object, isObject, told⟩ := decode_map_ok_iff own make spells
  obtain ⟨value, reads, _⟩ := (told result).mp accepted
  exact demands listed isObject lacks reads

theorem Holds.requires
    {γ : Type} {place : String} {inner : Codec γ} {get : α → γ}
    {put : γ → α → α} {demanded : List String}
    (holds : codec.Holds place inner get put) (own : codec.Local)
    (demands : inner.Demands demanded) :
    Requires (fun text => (codec.decode text).map make) (some place)
      demanded := by
  intro text key members result listed hasObject lacks accepted
  obtain _ | ⟨name, spells, inside⟩ := hasObject
  obtain ⟨object, isObject, told⟩ := decode_map_ok_iff own make spells
  obtain ⟨value, reads, _⟩ := (told result).mp accepted
  exact demands listed inside lacks (holds.reads name isObject reads)

end Codec

end EventRelay.Json
