import EventRelay.Proofs.Json.Skip

/-!
# Records read from any members

A record may be read from an object that was not written for it.  What it
makes of the members is told member by member: one that it knows is read by
the codec of its field, one that it does not know is passed over, and the first
that cannot be read gives the fault.  Behind the last member the fields that
were not there take their own values or are missing.
-/

namespace EventRelay.Json

variable {α β σ τ : Type}

/--
What a reader makes of a text where so many arrays and objects may be opened;
where fewer may, the text is malformed.
-/
def Answers
    (read : Nat → Reader α) (text : List Char) (levels : Nat)
    (outcome : Except Fault α) : Prop :=
  ∀ depth rest, Ends rest →
    read depth (text ++ rest) =
      if levels ≤ depth then outcome.map fun value => (value, rest)
      else .error .malformed

section Codecs

variable {codec : Codec α} {text : List Char} {levels : Nat}
  {outcome : Except Fault α}

/-- A value without unsteady numbers comes back from its own text. -/
theorem Codec.Lasts.answers
    {value : α} (lasts : codec.Lasts value)
    (steady : (codec.toDocument value).Steady) :
    Answers codec.read (codec.write value) (codec.toDocument value).nesting
      (.ok value) := by
  obtain ⟨again, rereads, same⟩ := lasts
  obtain rfl := same steady
  exact rereads.reads

theorem Answers.imap
    (answers : Answers codec.read text levels outcome) (forward : α → β)
    (backward : β → α) :
    Answers (codec.imap forward backward).read text levels
      (outcome.map forward) := by
  intro depth rest ends
  show (codec.read depth (text ++ rest) >>= _) = _
  rw [answers depth rest ends]
  split
  · cases outcome with
    | ok value => rfl
    | error fault => rfl
  · rfl

/-- A text that may be opened is answered as a whole. -/
theorem Answers.decode
    (answers : Answers codec.read text levels outcome)
    (fits : levels ≤ nestingLimit) :
    codec.decode (String.ofList text) = outcome := by
  have read := answers nestingLimit [] ends_nil
  rw [List.append_nil, if_pos fits] at read
  unfold Codec.decode
  rw [String.toList_ofList, read]
  cases outcome with
  | ok value => rfl
  | error fault => rfl

end Codecs

/-! ## Members -/

/--
What the fields of a record make of written members, from some slots on and
with so many levels that are opened.
-/
inductive Fields.Takes (fields : Fields τ σ) :
    σ → List (List Char) → Nat → Except Fault σ → Prop where
  | all (slots : σ) : Takes fields slots [] 0 (.ok slots)
  | member {α : Type} {key : String} {codec : Codec α} {fill : α → σ}
      {slots : σ}
      {text : List Char} {parts : List (List Char)} {levels deeper : Nat}
      {value : α} {outcome : Except Fault σ}
      (awaits : fields.slot key slots = .awaiting codec fill)
      (answers : Answers codec.read text levels (.ok value))
      (others : Takes fields (fill value) parts deeper outcome) :
      Takes fields slots (printMember key text :: parts) (max levels deeper)
        outcome
  | fault {α : Type} {key : String} {codec : Codec α} {fill : α → σ}
      {slots : σ}
      {text : List Char} {parts : List (List Char)} {levels : Nat}
      {fault : Fault}
      (awaits : fields.slot key slots = .awaiting codec fill)
      (answers : Answers codec.read text levels (.error fault)) :
      Takes fields slots (printMember key text :: parts) levels (.error fault)
  | unknown {key : String} {slots : σ} {text : List Char}
      {parts : List (List Char)} {levels : Nat} {outcome : Except Fault σ}
      (unknown : fields.slot key slots = .unknown) (skips : Skips text)
      (others : Takes fields slots parts levels outcome) :
      Takes fields slots (printMember key text :: parts) levels outcome

/-- The last member opens what its own text opens. -/
theorem Fields.Takes.last
    {fields : Fields τ σ} {key : String} {codec : Codec α} {fill : α → σ}
    {slots : σ} {text : List Char} {levels : Nat} {value : α}
    (awaits : fields.slot key slots = .awaiting codec fill)
    (answers : Answers codec.read text levels (.ok value)) :
    fields.Takes slots [printMember key text] levels (.ok (fill value)) := by
  have takes := Takes.member awaits answers (.all (fill value))
  rw [Nat.max_zero] at takes
  exact takes

theorem Fields.Takes.readMembers
    {fields : Fields τ σ} {slots : σ} {parts : List (List Char)}
    {levels : Nat} {outcome : Except Fault σ}
    (takes : fields.Takes slots parts levels outcome) (depth : Nat)
    {fuel : Nat} (first : Bool) (rest : List Char)
    (enough : parts.length < fuel) :
    fields.readMembers depth fuel first slots
        (following first parts ++ '\x7d' :: rest) =
      if levels ≤ depth then outcome.map fun slots => (slots, rest)
      else .error .malformed := by
  induction takes generalizing fuel first with
  | all slots =>
      obtain ⟨fuel, rfl⟩ := Nat.exists_eq_add_of_lt enough
      rw [Fields.readMembers, nextMember_closed, ok_bind]
      exact (if_pos (Nat.zero_le depth)).symm
  | @member _ _ _ _ _ _ parts levels deeper value _ awaits answers _
      induction =>
      obtain ⟨fuel, rfl⟩ : ∃ more, fuel = more + 1 := ⟨fuel - 1, by omega⟩
      have ends := ends_following parts (.inr rfl) rest
      have tail := induction false (Nat.lt_of_succ_lt_succ enough)
      rw [Fields.readMembers, nextMember_cons, ok_bind]
      dsimp only
      rw [awaits]
      dsimp only
      rw [skipMark_cons rfl, ok_bind, answers depth _ ends]
      by_cases fits : levels ≤ depth
      · rw [if_pos fits]
        show Fields.readMembers fields depth fuel false _ _ = _
        rw [tail]
        simp only [Nat.max_le, fits, true_and]
      · rw [if_neg fits]
        simp only [Nat.max_le, fits, false_and, if_false]
        rfl
  | @fault _ _ _ _ _ _ parts levels fault awaits answers =>
      obtain ⟨fuel, rfl⟩ : ∃ more, fuel = more + 1 := ⟨fuel - 1, by omega⟩
      have ends := ends_following parts (.inr rfl) rest
      rw [Fields.readMembers, nextMember_cons, ok_bind]
      dsimp only
      rw [awaits]
      dsimp only
      rw [skipMark_cons rfl, ok_bind, answers depth _ ends]
      split
      · rfl
      · rfl
  | @unknown _ _ _ parts _ _ unknown skips _ induction =>
      obtain ⟨fuel, rfl⟩ : ∃ more, fuel = more + 1 := ⟨fuel - 1, by omega⟩
      have ends := ends_following parts (.inr rfl) rest
      rw [Fields.readMembers, nextMember_cons, ok_bind]
      dsimp only
      rw [unknown]
      dsimp only
      rw [skipMark_cons rfl, ok_bind, skips.skipValue_append ends, ok_bind]
      exact induction false (Nat.lt_of_succ_lt_succ enough)

/-- A record is read from an object with the members that it takes. -/
theorem Codec.record_answers
    {fields : Fields τ σ} {parts : List (List Char)} {levels : Nat}
    {outcome : Except Fault σ}
    (takes : fields.Takes fields.empty parts levels outcome) (title : String) :
    Answers (record title fields).read
      ('\x7b' :: (following true parts ++ ['\x7d'])) (levels + 1)
      (outcome >>= fields.finish) := by
  intro depth rest _
  rw [List.cons_append, List.append_assoc, List.singleton_append]
  cases depth with
  | zero => exact (if_neg (Nat.not_succ_le_zero levels)).symm
  | succ depth =>
      have enough := length_lt_following true parts '\x7d' rest
      show (fields.readMembers depth _ true fields.empty _ >>= fun filled =>
        fields.finish filled.1 >>= fun values => .ok (values, filled.2)) = _
      rw [takes.readMembers depth true rest enough]
      simp only [Nat.succ_le_succ_iff]
      split
      · cases outcome with
        | error fault => rfl
        | ok slots =>
            show (fields.finish slots >>= _) = (fields.finish slots).map _
            cases fields.finish slots with
            | ok values => rfl
            | error fault => rfl
      · rfl

end EventRelay.Json
