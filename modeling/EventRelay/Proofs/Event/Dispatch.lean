import EventRelay.Event.Registry

/-!
# Builders keep to their kinds

Whatever calls have been made on a registry, the builder that it has for a
type is a builder of that type, so the last call that names a type decides
whether events of the type can be built.  A builder takes the payloads of the
kind that the events of its type carry, and no others, and what it makes is an
envelope of this type with the payload and the routing of the draft.

A builder table that has met the same calls tells of every type whether its
builder is one of a shape (`Registry.Sums`), so it creates and recovers what
the builders of the registry do.
-/

namespace EventRelay

/-! ## Sections -/

theorem Section.unwrap_wrap
    {type : EventType} {payload : Payload}
    (kind : payload.kind = type.payloadKind) :
    (wrap type payload).map unwrap = .ok payload := by
  obtain ⟨_, content⟩ := payload
  subst kind
  rw [wrap, Payload.contentOf?_self]
  rfl

theorem Section.wrap_of_ne
    {type : EventType} {payload : Payload}
    (other : payload.kind ≠ type.payloadKind) :
    wrap type payload = .error payload := by
  have none : payload.contentOf? type.payloadKind = none := dif_neg other
  rw [wrap, none]

namespace SectionShape

/-- A section holds what the events of its type carry. -/
theorem payloadKind_eventType (shape : SectionShape) :
    shape.eventType.payloadKind = shape.payloadKind := by
  cases shape <;> rfl

/-- What comes of putting a payload into a section. -/
theorem wrap_cases (shape : SectionShape) (payload : Payload) :
    (payload.kind = shape.payloadKind ∧
      ∃ filled, shape.wrap payload = .ok filled ∧ filled.payload = payload) ∨
    (payload.kind ≠ shape.payloadKind ∧
      shape.wrap payload = .error payload) := by
  by_cases kind : payload.kind = shape.payloadKind
  · obtain ⟨_, content⟩ := payload
    subst kind
    exact .inl ⟨rfl, ⟨content⟩, by rw [wrap, Payload.contentOf?_self], rfl⟩
  · have none : payload.contentOf? shape.payloadKind = none := dif_neg kind
    exact .inr ⟨kind, by rw [wrap, none]⟩

/--
A section takes the payloads of the kind that the events of its type carry, and
gives them back as they were; it refuses the others, which come back as they
were too.  The section of its type does the same.
-/
structure Faithful (shape : SectionShape) : Prop where
  accepts : ∀ payload, (∃ filled, shape.wrap payload = .ok filled) ↔
    payload.kind = shape.eventType.payloadKind
  payload : ∀ payload filled, shape.wrap payload = .ok filled →
    filled.payload = payload
  refused : ∀ payload rejected, shape.wrap payload = .error rejected →
    rejected = payload
  ofType : ∀ payload, (shape.wrap payload).map Filled.payload =
    (Section.wrap shape.eventType payload).map Section.unwrap

theorem faithful (shape : SectionShape) : shape.Faithful where
  accepts payload := by
    rw [payloadKind_eventType]
    rcases shape.wrap_cases payload with
      ⟨kind, filled, wrapped, -⟩ | ⟨other, refused⟩
    · exact ⟨fun _ => kind, fun _ => ⟨filled, wrapped⟩⟩
    · constructor
      · rintro ⟨filled, wrapped⟩
        rw [refused] at wrapped
        cases wrapped
      · intro kind
        exact (other kind).elim
  payload payload filled wrapped := by
    rcases shape.wrap_cases payload with ⟨-, own, taken, same⟩ | ⟨-, refused⟩
    · rw [taken] at wrapped
      cases wrapped
      exact same
    · rw [refused] at wrapped
      cases wrapped
  refused payload rejected wrapped := by
    rcases shape.wrap_cases payload with ⟨-, own, taken, -⟩ | ⟨-, refused⟩
    · rw [taken] at wrapped
      cases wrapped
    · rw [refused] at wrapped
      cases wrapped
      rfl
  ofType payload := by
    rcases shape.wrap_cases payload with
      ⟨kind, filled, wrapped, same⟩ | ⟨other, refused⟩
    · rw [← payloadKind_eventType] at kind
      rw [wrapped, Section.unwrap_wrap kind]
      exact congrArg Except.ok same
    · rw [← payloadKind_eventType] at other
      rw [refused, Section.wrap_of_ne other]
      rfl

end SectionShape

/-! ## Registries and tables -/

namespace BuilderTable

/-- Does to a table what a call does to a registry. -/
def perform (table : BuilderTable) : RegistryCall → BuilderTable
  | .register shape => table.register shape.eventType
  | .withdraw type => table.withdraw type

/-- The table after calls, made one after the other. -/
def after (table : BuilderTable) (calls : List RegistryCall) : BuilderTable :=
  calls.foldl perform table

end BuilderTable

/-- What may be filed under a type that has a standing in a table. -/
inductive FiledAs (type : EventType) : Option Builder → Standing → Prop where
  | unlisted : FiledAs type none .unlisted
  | withdrawn : FiledAs type (some (.null type)) .withdrawn
  | registered (shape : SectionShape) (own : shape.eventType = type) :
      FiledAs type (some (.shaped shape)) .registered

namespace Registry

/-- Every builder is filed under its own type, as a table tells of it. -/
def Sums (registry : Registry) (table : BuilderTable) : Prop :=
  ∀ type, FiledAs type (registry.filed type) (table.standing type)

variable {registry : Registry} {table : BuilderTable}

theorem sums_empty : empty.Sums .empty :=
  fun _ => .unlisted

theorem sums_standard : standard.Sums .standard := by
  intro type
  cases type with
  | caseUpdate => exact .registered .caseUpdate rfl
  | uacUpdate => exact .registered .uacUpdate rfl
  | fulfilment => exact .registered .fulfilment rfl
  | refusal => exact .registered .refusal rfl
  | surveyLaunch => exact .registered .surveyLaunch rfl
  | uacAuthenticate => exact .registered .uacAuthenticate rfl
  | surveyUpdate => exact .registered .surveyUpdate rfl
  | collectionExerciseUpdate =>
      exact .registered .collectionExerciseUpdate rfl
  | newCase => exact .registered .newCase rfl

theorem Sums.file
    (sums : registry.Sums table) {type : EventType} {builder : Builder}
    {standing : Standing} (filed : FiledAs type (some builder) standing) :
    (registry.file type builder).Sums (table.assign type standing) := by
  intro other
  unfold Registry.file BuilderTable.assign
  dsimp only
  by_cases same : other = type
  · subst same
    rw [if_pos rfl, if_pos rfl]
    exact filed
  · rw [if_neg same, if_neg same]
    exact sums other

/-- A call keeps every builder under its own type. -/
theorem Sums.perform (sums : registry.Sums table) (call : RegistryCall) :
    (registry.perform call).Sums (table.perform call) := by
  cases call with
  | register shape => exact sums.file (.registered shape rfl)
  | withdraw type => exact sums.file .withdrawn

theorem Sums.after (sums : registry.Sums table) (calls : List RegistryCall) :
    (registry.after calls).Sums (table.after calls) := by
  induction calls generalizing registry table with
  | nil => exact sums
  | cons call calls induction => exact induction (sums.perform call)

end Registry

/-! ## The last call decides -/

/-- The last of the calls that name the type registers a builder for it. -/
def Registers (calls : List RegistryCall) (type : EventType) : Prop :=
  ∃ earlier shape later,
    calls = earlier ++ .register shape :: later ∧ shape.eventType = type ∧
      ∀ call ∈ later, call.type ≠ type

theorem registers_cons
    {call : RegistryCall} {calls : List RegistryCall} {type : EventType} :
    Registers (call :: calls) type ↔
      Registers calls type ∨
        (∃ shape, call = .register shape ∧ shape.eventType = type) ∧
          ∀ later ∈ calls, later.type ≠ type := by
  constructor
  · rintro ⟨earlier, shape, later, split, own, others⟩
    cases earlier with
    | nil =>
        cases split
        exact .inr ⟨⟨shape, rfl, own⟩, others⟩
    | cons first earlier =>
        cases split
        exact .inl ⟨earlier, shape, later, rfl, own, others⟩
  · rintro (⟨earlier, shape, later, rfl, own, others⟩ |
      ⟨⟨shape, rfl, own⟩, others⟩)
    · exact ⟨call :: earlier, shape, later, rfl, own, others⟩
    · exact ⟨[], shape, calls, rfl, own, others⟩

namespace BuilderTable

variable {type : EventType}

/-- A call decides for the type that it names, and for no other. -/
theorem builds_perform (table : BuilderTable) (call : RegistryCall) :
    (table.perform call).builds type = true ↔
      (∃ shape, call = .register shape ∧ shape.eventType = type) ∨
        table.builds type = true ∧ call.type ≠ type := by
  by_cases named : call.type = type
  · subst named
    cases call with
    | register shape =>
        have built : (table.perform (.register shape)).builds
            (RegistryCall.register shape).type = true := by
          simp [perform, register, builds, RegistryCall.type]
        exact ⟨fun _ => .inl ⟨shape, rfl, rfl⟩, fun _ => built⟩
    | withdraw type =>
        have unbuilt : (table.perform (.withdraw type)).builds
            (RegistryCall.withdraw type).type = false := by
          simp [perform, withdraw, builds, RegistryCall.type]
        rw [unbuilt]
        simp
  · have other : (table.perform call).builds type = table.builds type := by
      cases call with
      | register shape =>
          exact congrArg (· == Standing.registered)
            (if_neg (Ne.symm named))
      | withdraw type =>
          exact congrArg (· == Standing.registered)
            (if_neg (Ne.symm named))
    rw [other]
    constructor
    · intro built
      exact .inr ⟨built, named⟩
    · rintro (⟨shape, rfl, own⟩ | ⟨built, -⟩)
      · exact (named own).elim
      · exact built

/--
There is a builder for a type if the last call that names the type registered
one, or if no call names it and there was a builder before.
-/
theorem builds_after (table : BuilderTable) (calls : List RegistryCall) :
    (table.after calls).builds type = true ↔
      Registers calls type ∨
        table.builds type = true ∧ ∀ call ∈ calls, call.type ≠ type := by
  induction calls generalizing table with
  | nil =>
      constructor
      · intro built
        exact .inr ⟨built, fun _ member => (List.not_mem_nil member).elim⟩
      · rintro (⟨earlier, shape, later, split, -⟩ | ⟨built, -⟩)
        · cases earlier <;> cases split
        · exact built
  | cons call calls induction =>
      show ((table.perform call).after calls).builds type = true ↔ _
      rw [induction, builds_perform, registers_cons, List.forall_mem_cons]
      rw [or_and_right, and_assoc, or_assoc]

end BuilderTable

/-! ## Dispatch -/

/-- The envelope is one of the type, with the payload and routing of a draft. -/
structure ShapedEnvelope.Bears
    (envelope : ShapedEnvelope) (type : EventType) (draft : Draft) : Prop where
  shape : envelope.shape.eventType = type
  type : envelope.header.type = type
  correlation : envelope.header.correlationId = envelope.header.messageId
  source : envelope.header.source = draft.source
  channel : envelope.header.channel = draft.channel
  user : envelope.header.user = draft.user
  payload : envelope.payload = draft.payload
  parts : envelope.intoParts = (envelope.header, draft.payload)

/-- What a builder of a shape makes of a draft. -/
theorem Builder.create_cases
    (shape : SectionShape) (draft : Draft) (identifier : Identifier)
    (now : Timestamp) :
    (draft.payload.kind = shape.eventType.payloadKind ∧
      ∃ envelope,
        (Builder.shaped shape).create draft identifier now = some envelope ∧
          envelope.shape = shape ∧
          envelope.toEnvelope =
            ⟨.mint shape.eventType draft identifier now, draft.payload⟩) ∨
    (draft.payload.kind ≠ shape.eventType.payloadKind ∧
      (Builder.shaped shape).create draft identifier now = none) := by
  rw [shape.payloadKind_eventType]
  unfold Builder.create
  dsimp only
  rcases shape.wrap_cases draft.payload with
    ⟨kind, filled, wrapped, same⟩ | ⟨other, refused⟩
  · rw [wrapped]
    refine .inl ⟨kind, _, rfl, rfl, ?_⟩
    rw [← same]
    rfl
  · rw [refused]
    exact .inr ⟨other, rfl⟩

theorem BuilderTable.create_of_ne
    {draft : Draft} {type : EventType}
    (other : draft.payload.kind ≠ type.payloadKind) (table : BuilderTable)
    (identifier : Identifier) (now : Timestamp) :
    table.create type draft identifier now = none := by
  unfold create
  rw [Section.wrap_of_ne other]
  split <;> rfl

namespace Registry

variable {registry : Registry} {table : BuilderTable}

/-- The builder for a type is one of its shape where the table builds. -/
theorem Sums.builderFor_cases (sums : registry.Sums table) (type : EventType) :
    (table.builds type = true ∧ ∃ shape : SectionShape,
      shape.eventType = type ∧ registry.builderFor type = .shaped shape) ∨
    (table.builds type = false ∧ registry.builderFor type = .null type) := by
  have filed := sums type
  unfold builderFor BuilderTable.builds
  generalize registry.filed type = builder at filed
  generalize table.standing type = standing at filed
  cases filed with
  | unlisted => exact .inr ⟨rfl, rfl⟩
  | withdrawn => exact .inr ⟨rfl, rfl⟩
  | registered shape own => exact .inl ⟨rfl, shape, own, rfl⟩

/-- The builder of a registry creates what the table creates. -/
theorem Sums.create
    (sums : registry.Sums table) (type : EventType) (draft : Draft)
    (identifier : Identifier) (now : Timestamp) :
    ((registry.builderFor type).create draft identifier now).map
        ShapedEnvelope.toEnvelope =
      table.create type draft identifier now := by
  rcases sums.builderFor_cases type with
    ⟨built, shape, rfl, builder⟩ | ⟨unbuilt, builder⟩
  · rw [builder]
    rcases Builder.create_cases shape draft identifier now with
      ⟨kind, envelope, made, -, same⟩ | ⟨other, refused⟩
    · rw [made, BuilderTable.create_eq_some kind built]
      exact congrArg some same
    · rw [refused, BuilderTable.create_of_ne other]
      rfl
  · rw [builder, BuilderTable.create, unbuilt]
    rfl

/-- The builder of a registry recovers what the table recovers. -/
theorem Sums.recover
    (sums : registry.Sums table) (type : EventType) (text : String) :
    (registry.builderFor type).recover text = table.recover type text := by
  unfold BuilderTable.recover
  rcases sums.builderFor_cases type with
    ⟨built, shape, rfl, builder⟩ | ⟨unbuilt, builder⟩
  · rw [builder, built, shape.payloadKind_eventType]
    rfl
  · rw [builder, unbuilt]
    rfl

/-- An envelope is created for a draft of the right kind by a shaped builder. -/
theorem Sums.create_isSome_iff
    (sums : registry.Sums table) (type : EventType) (draft : Draft)
    (identifier : Identifier) (now : Timestamp) :
    ((registry.builderFor type).create draft identifier now).isSome ↔
      table.builds type = true ∧ draft.payload.kind = type.payloadKind := by
  rcases sums.builderFor_cases type with
    ⟨built, shape, rfl, builder⟩ | ⟨unbuilt, builder⟩
  · rw [builder, built]
    rcases Builder.create_cases shape draft identifier now with
      ⟨kind, envelope, made, -⟩ | ⟨other, refused⟩
    · simp [made, kind]
    · simp [refused, other]
  · rw [builder, unbuilt]
    simp [Builder.create]

theorem Sums.bears
    (sums : registry.Sums table) {type : EventType} {draft : Draft}
    {identifier : Identifier} {now : Timestamp} {envelope : ShapedEnvelope}
    (made :
      (registry.builderFor type).create draft identifier now = some envelope) :
    envelope.Bears type draft := by
  rcases sums.builderFor_cases type with
    ⟨-, shape, rfl, builder⟩ | ⟨-, builder⟩
  · rw [builder] at made
    rcases Builder.create_cases shape draft identifier now with
      ⟨-, own, created, shaped, same⟩ | ⟨-, refused⟩
    · rw [created] at made
      cases made
      have header := congrArg Envelope.header same
      have payload := congrArg Envelope.payload same
      change envelope.header = _ at header
      change envelope.payload = _ at payload
      constructor
      · rw [shaped]
      · rw [header]; rfl
      · rw [header]; rfl
      · rw [header]; rfl
      · rw [header]; rfl
      · rw [header]; rfl
      · exact payload
      · exact congrArg (Prod.mk envelope.header) payload
    · rw [refused] at made
      cases made
  · rw [builder] at made
    cases made

/-- Only a builder that makes nothing says that there is none. -/
theorem Sums.recover_eq_noBuilder_iff
    (sums : registry.Sums table) (type : EventType) (text : String) :
    (registry.builderFor type).recover text = .error (.noBuilder type) ↔
      ¬table.builds type = true := by
  rcases sums.builderFor_cases type with
    ⟨built, shape, rfl, builder⟩ | ⟨unbuilt, builder⟩
  · rw [builder, built]
    constructor
    · intro failed
      unfold Builder.recover at failed
      dsimp only at failed
      split at failed <;> cases failed
    · intro never
      exact (never rfl).elim
  · rw [builder, unbuilt]
    exact ⟨fun _ => Bool.false_ne_true, fun _ => rfl⟩

/--
The registry that calls begin with: it has a builder of every shape, or none.
-/
def initial (full : Bool) : Registry :=
  if full then standard else empty

end Registry

/-- The table that tells of the registry that calls begin with. -/
def BuilderTable.initial (full : Bool) : BuilderTable :=
  if full then standard else empty

/--
The type has a builder after calls: the last call that names it registered one,
or no call names it and it had one from the beginning.
-/
def Registered (full : Bool) (calls : List RegistryCall) (type : EventType) :
    Prop :=
  Registers calls type ∨ full = true ∧ ∀ call ∈ calls, call.type ≠ type

namespace Registry

/--
Whatever calls were made, a registry creates an envelope exactly for a type
that has a builder and a payload of the kind of the type.  The envelope is one
of the type, with the payload and the routing of the draft, and recovering a
draft says that there is no builder exactly for the other types.  All of this
is what the builder table creates and recovers.  Every section takes the
payloads of its own kind unchanged and gives the others back unchanged.
-/
theorem dispatch_within_kinds (full : Bool) (calls : List RegistryCall) :
    (∀ type draft identifier now,
      ((((initial full).after calls).builderFor type).create draft identifier
          now).isSome ↔
        Registered full calls type ∧
          draft.payload.kind = type.payloadKind) ∧
    (∀ type draft identifier now envelope,
      (((initial full).after calls).builderFor type).create draft identifier
          now = some envelope →
        envelope.Bears type draft) ∧
    (∀ type text,
      (((initial full).after calls).builderFor type).recover text =
          .error (.noBuilder type) ↔
        ¬Registered full calls type) ∧
    (∀ type draft identifier now,
      ((((initial full).after calls).builderFor type).create draft identifier
          now).map ShapedEnvelope.toEnvelope =
        ((BuilderTable.initial full).after calls).create type draft identifier
          now) ∧
    (∀ type text,
      (((initial full).after calls).builderFor type).recover text =
        ((BuilderTable.initial full).after calls).recover type text) ∧
    ∀ shape : SectionShape, shape.Faithful := by
  have sums : ((initial full).after calls).Sums
      ((BuilderTable.initial full).after calls) := by
    refine Sums.after ?_ calls
    cases full with
    | true => exact sums_standard
    | false => exact sums_empty
  have registered (type : EventType) :
      ((BuilderTable.initial full).after calls).builds type = true ↔
        Registered full calls type := by
    rw [BuilderTable.builds_after, Registered]
    cases full <;> rfl
  refine ⟨fun type draft identifier now => ?_,
    fun type draft identifier now envelope made => sums.bears made,
    fun type text => ?_, sums.create, sums.recover, SectionShape.faithful⟩
  · rw [sums.create_isSome_iff, registered]
  · rw [sums.recover_eq_noBuilder_iff, registered]

end Registry

end EventRelay
