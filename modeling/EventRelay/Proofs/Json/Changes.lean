import EventRelay.Proofs.Json.Membership

/-!
# Members that change

An object may be written down with its members in another order, with one
member fewer, with more members of unknown names, or with another value for one
of them.  What the fields of a record match changes with the members of their
own names only, so each change is told by the fields whose members it touches.
-/

namespace EventRelay.Json

variable {α β σ τ : Type}

/-! ## Members that change -/

/-- The members of other names. -/
def without (name : String) (members : List Member) : List Member :=
  members.filter fun member => decide (member.name? ≠ some name)

/-- A member with a name that is none of the known ones. -/
def Member.Unknown (known : List String) (member : Member) : Prop :=
  ∃ name, member.name? = some name ∧ name ∉ known

/-- Members of which none has the name. -/
def Lacks (name : String) (members : List Member) : Prop :=
  ∀ member ∈ members, member.name? ≠ some name

theorem named_eq_nil_iff {name : String} {members : List Member} :
    named name members = [] ↔ Lacks name members := by
  unfold named Lacks
  rw [List.filter_eq_nil_iff]
  simp only [decide_eq_true_eq]

theorem lacks_without (name : String) (members : List Member) :
    Lacks name (without name members) := by
  intro member listed
  exact of_decide_eq_true (List.mem_filter.mp listed).2

theorem named_without {name other : String} (different : other ≠ name)
    (members : List Member) :
    named other (without name members) = named other members := by
  unfold named without
  rw [List.filter_filter]
  apply List.filter_congr
  intro member _
  by_cases own : member.name? = some other
  · have kept : member.name? ≠ some name := by
      rw [own]
      exact fun same => different (Option.some.inj same)
    simp [own, different]
  · simp [own]

theorem named_append (name : String) (left right : List Member) :
    named name (left ++ right) = named name left ++ named name right :=
  List.filter_append left right

theorem Member.Unknown.lacks
    {known : List String} {members : List Member}
    (unknown : ∀ member ∈ members, member.Unknown known) {name : String}
    (listed : name ∈ known) :
    Lacks name members := by
  intro member inside same
  obtain ⟨other, spells, strange⟩ := unknown member inside
  rw [spells] at same
  cases same
  exact strange listed

/-- A member with another value. -/
def Member.withValue (member : Member) (value : List Char) : Member :=
  { member with value := value }

/-- The only member of a name is the only one when its value is replaced. -/
theorem named_withValue
    {front back : List Member} {member only : Member} {name : String}
    (spells : member.name? = some name)
    (single : named name (front ++ member :: back) = [only])
    (value : List Char) :
    only = member ∧
      named name (front ++ member.withValue value :: back) =
        [member.withValue value] := by
  have again : (member.withValue value).name? = some name := spells
  rw [named_append, named_cons_self spells] at single
  rw [named_append, named_cons_self again]
  obtain ⟨before, same⟩ | ⟨_, _, never⟩ := List.append_eq_cons_iff.mp single
  · obtain ⟨rfl, behind⟩ := List.cons.inj same
    rw [before, behind]
    exact ⟨rfl, rfl⟩
  · exact absurd never (by simp)

/-- The members of other names stay when a value is replaced. -/
theorem named_withValue_other
    {front back : List Member} {member : Member} {name other : String}
    (spells : member.name? = some name) (different : other ≠ name)
    (value : List Char) :
    named other (front ++ member.withValue value :: back) =
      named other (front ++ member :: back) := by
  have again : (member.withValue value).name? = some name := spells
  rw [named_append, named_append,
    named_cons_other spells (Ne.symm different),
    named_cons_other again (Ne.symm different)]

/-! ## Fields by their keys -/

/-- Where the value of one field stands among those of a record. -/
structure Seat (τ : Type) : Type 1 where
  {α : Type}
  field : Field α
  get : τ → α
  put : α → τ → τ

/-- The same field with one more value in front. -/
def Seat.behind (seat : Seat τ) (β : Type) : Seat (β × τ) :=
  ⟨seat.field, fun values => seat.get values.2,
    fun value values => (values.1, seat.put value values.2)⟩

namespace Fields

/-- The seat of the field of a key. -/
def seat? {τ σ : Type} (key : String) : Fields τ σ → Option (Seat τ)
  | .nil => none
  | .cons field rest =>
    if key = field.key then
      some ⟨field, Prod.fst, fun value values => (value, values.2)⟩
    else (rest.seat? key).map fun seat => seat.behind _

/-- The seat of a field in front, or one among the others. -/
theorem seat?_cons
    {field : Field α} {rest : Fields τ σ} {key : String} {seat : Seat _}
    (found : (Fields.cons field rest).seat? key = some seat) :
    (key = field.key ∧
      seat = ⟨field, Prod.fst, fun value values => (value, values.2)⟩) ∨
    (key ≠ field.key ∧ ∃ inner, rest.seat? key = some inner ∧
      seat = inner.behind α) := by
  unfold seat? at found
  split at found
  · next own =>
      cases found
      exact .inl ⟨own, rfl⟩
  · next other =>
      obtain ⟨inner, inside, rfl⟩ := Option.map_eq_some_iff.mp found
      exact .inr ⟨other, inner, inside, rfl⟩

theorem key_of_seat?
    {fields : Fields τ σ} {key : String} {seat : Seat τ}
    (found : fields.seat? key = some seat) :
    seat.field.key = key := by
  induction fields with
  | nil => cases found
  | cons field rest induction =>
      rcases seat?_cons found with ⟨rfl, rfl⟩ | ⟨_, inner, inside, rfl⟩
      · rfl
      · exact induction inside

theorem put_get
    {fields : Fields τ σ} {key : String} {seat : Seat τ}
    (found : fields.seat? key = some seat) (values : τ) :
    seat.put (seat.get values) values = values := by
  induction fields with
  | nil => cases found
  | cons field rest induction =>
      rcases seat?_cons found with ⟨_, rfl⟩ | ⟨_, inner, inside, rfl⟩
      · rfl
      · exact Prod.ext rfl (induction inside values.2)

/-- What a field settles on depends on the members of its key only. -/
theorem settles_of_perm
    {field : Field α} {depth : Nat} {members others : List Member}
    (same : (named field.key others).Perm (named field.key members))
    {value : α} (settles : field.Settles depth members value) :
    field.Settles depth others value := by
  rcases settles with ⟨member, only, reads⟩ | ⟨none, absent⟩
  · rw [only] at same
    exact .inl ⟨member, List.perm_singleton.mp same, reads⟩
  · rw [none] at same
    exact .inr ⟨List.perm_nil.mp same, absent⟩

/-- What the values match is what the members of each name are. -/
theorem match_of_perm
    {fields : Fields τ σ} {depth : Nat} {members others : List Member}
    (same : ∀ key ∈ fields.keys, (named key others).Perm (named key members))
    {values : τ} (matched : fields.Match depth members values) :
    fields.Match depth others values := by
  induction fields with
  | nil => trivial
  | cons field rest induction =>
      obtain ⟨settles, matched⟩ := matched
      rw [keys, List.forall_mem_cons] at same
      exact ⟨settles_of_perm same.1 settles, induction same.2 matched⟩

theorem settles_of_match
    {fields : Fields τ σ} {key : String} {seat : Seat τ}
    (found : fields.seat? key = some seat) {depth : Nat}
    {members : List Member} {values : τ}
    (matched : fields.Match depth members values) :
    seat.field.Settles depth members (seat.get values) := by
  induction fields with
  | nil => cases found
  | cons field rest induction =>
      rcases seat?_cons found with ⟨_, rfl⟩ | ⟨_, inner, inside, rfl⟩
      · exact matched.1
      · exact induction inside matched.2

/-- Where only the members of one name change, only its value does. -/
theorem match_put
    {fields : Fields τ σ} (distinct : fields.keys.Nodup) {key : String}
    {seat : Seat τ} (found : fields.seat? key = some seat) {depth : Nat}
    {members others : List Member}
    (same :
      ∀ name, name ≠ key → (named name others).Perm (named name members))
    {values : τ} (matched : fields.Match depth members values)
    {value : seat.α} (settles : seat.field.Settles depth others value) :
    fields.Match depth others (seat.put value values) := by
  induction fields with
  | nil => cases found
  | cons field rest induction =>
      obtain ⟨here, matched⟩ := matched
      obtain ⟨fresh, distinct⟩ := List.nodup_cons.mp distinct
      rcases seat?_cons found with ⟨rfl, rfl⟩ | ⟨other, inner, inside, rfl⟩
      · refine ⟨settles, match_of_perm ?_ matched⟩
        intro name listed
        apply same
        rintro rfl
        exact fresh listed
      · exact ⟨settles_of_perm (same field.key (Ne.symm other)) here,
          induction distinct inside matched settles⟩

/-- Leaving out the field of one of the keys resets it. -/
def Resets
    (fields : Fields τ σ) (forward : τ → α) (omittable : List String)
    (reset : String → α → α) : Prop :=
  ∀ key ∈ omittable, ∃ (seat : Seat τ) (default : seat.α),
    fields.seat? key = some seat ∧ seat.field.absent = some default ∧
      ∀ values, forward (seat.put default values) = reset key (forward values)

/-- The fields of some keys may be null. -/
def Nullable (fields : Fields τ σ) (nullable : List String) : Prop :=
  ∀ key ∈ nullable, ∃ (β : Type) (codec : Codec β) (omitted : Option β → Bool)
      (get : τ → Option β) (put : Option β → τ → τ),
    fields.seat? key =
      some ⟨⟨key, codec.optional, some none, omitted⟩, get, put⟩

/-- Null under the key of a field that may be null is no member at all. -/
theorem match_null_iff
    {fields : Fields τ σ} (distinct : fields.keys.Nodup) {key : String}
    {codec : Codec α} {omitted : Option α → Bool} {get : τ → Option α}
    {put : Option α → τ → τ}
    (found :
      fields.seat? key =
        some ⟨⟨key, codec.optional, some none, omitted⟩, get, put⟩)
    {null : Member} (spells : null.name? = some key)
    (isNull : null.value = printNull) {members others : List Member}
    (lacks : Lacks key others) (reordered : members.Perm (null :: others))
    {depth : Nat} {values : τ} :
    fields.Match depth members values ↔ fields.Match depth others values := by
  have reads : Reads (codec.optional.read depth) null.value none := by
    rw [isNull]
    exact Codec.reads_optional_null codec depth
  have empty : named key others = [] := named_eq_nil_iff.mpr lacks
  have only : named key members = [null] := by
    have all : (named key members).Perm (named key (null :: others)) :=
      reordered.filter _
    rw [named_cons_self spells, empty] at all
    exact List.perm_singleton.mp all
  have same : ∀ name, name ≠ key →
      (named name members).Perm (named name others) := by
    intro name different
    rw [← named_cons_other spells (Ne.symm different) others]
    exact reordered.filter _
  have kept : get values = none → put none values = values := by
    intro settled
    rw [← settled]
    exact put_get found values
  -- Either way the field is none, so all values stay as they are.
  constructor
  · intro matched
    have settled : get values = none := by
      rcases settles_of_match found matched with ⟨member, own, given⟩ | absent
      · cases only.symm.trans own
        exact given.unique reads
      · exact (Option.some.inj absent.2).symm
    rw [← kept settled]
    exact match_put distinct found
      (fun name different => (same name different).symm) matched
      (.inr ⟨empty, rfl⟩)
  · intro matched
    have settled : get values = none := by
      rcases settles_of_match found matched with ⟨member, own, _⟩ | absent
      · cases empty.symm.trans own
      · exact (Option.some.inj absent.2).symm
    rw [← kept settled]
    exact match_put distinct found same matched (.inl ⟨null, only, reads⟩)

/-- The fields of some keys must be given. -/
def Demanded (fields : Fields τ σ) (demanded : List String) : Prop :=
  ∀ key ∈ demanded, ∃ seat : Seat τ,
    fields.seat? key = some seat ∧ seat.field.absent = none

end Fields

end EventRelay.Json
