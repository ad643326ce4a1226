import EventRelay.Proofs.Json.Reread

/-!
# Written arrays and objects read again

Items and members stand between commas.  If each of them lasts, all of them
are read again up to the closing bracket, and come back if each of them does;
if one of them opens too much, the whole is malformed.
-/

namespace EventRelay.Json

variable {α : Type}

/-! ## Parts between commas -/

/--
Written parts, with a comma before the first of them where others stand before
it.
-/
def following (first : Bool) (parts : List (List Char)) : List Char :=
  if first then separated parts else parts.flatMap fun part => ',' :: part

/-- The comma before a part. -/
def commaText (first : Bool) : List Char :=
  if first then [] else [',']

theorem following_cons
    (first : Bool) (part : List Char) (parts : List (List Char)) :
    following first (part :: parts) =
      commaText first ++ part ++ following false parts := by
  have separated_cons :
      separated (part :: parts) = part ++ following false parts := by
    induction parts generalizing part with
    | nil => exact (List.append_nil part).symm
    | cons next parts induction =>
        show part ++ ',' :: separated (next :: parts) = _
        rw [induction next]
        rfl
  cases first with
  | true => exact separated_cons
  | false => rfl

theorem length_le_later (parts : List (List Char)) :
    parts.length ≤ (following false parts).length := by
  induction parts with
  | nil => exact Nat.zero_le _
  | cons part parts induction =>
      rw [following_cons]
      simp only [commaText, Bool.false_eq_true, if_false, List.length_append,
        List.length_cons, List.length_nil]
      omega

/--
Up to its closing bracket a text has more characters than parts, so the parts
use up no fuel.
-/
theorem length_lt_following
    (first : Bool) (parts : List (List Char)) (closing : Char)
    (rest : List Char) :
    parts.length < (following first parts ++ closing :: rest).length + 1 := by
  rw [List.length_append, List.length_cons]
  cases parts with
  | nil => exact Nat.succ_pos _
  | cons part parts =>
      have later := length_le_later parts
      rw [following_cons, List.length_append, List.length_cons]
      omega

theorem length_map_lt_following
    (first : Bool) (values : List α) (text : α → List Char) (closing : Char)
    (rest : List Char) :
    values.length <
      (following first (values.map text) ++ closing :: rest).length + 1 := by
  have enough := length_lt_following first (values.map text) closing rest
  rwa [List.length_map] at enough

theorem ends_following (parts : List (List Char)) {closing : Char}
    (bracket : closing = ']' ∨ closing = '\x7d') (rest : List Char) :
    Ends (following false parts ++ closing :: rest) := by
  intro char member
  cases parts with
  | nil =>
      cases member
      exact .inr bracket
  | cons part parts =>
      cases member
      exact .inl rfl

/-! ## Items -/

/-- The place before the first item of an array or after an item. -/
def arrayPlace (first : Bool) (input : List Char) : ArrayPlace :=
  if first then .first input else .later input

theorem nextItem_closed (first : Bool) (rest : List Char) :
    nextItem (arrayPlace first (following first [] ++ ']' :: rest)) =
      .ok (.closed rest) := by
  cases first with
  | true => rfl
  | false => rfl

theorem nextItem_cons (first : Bool) {part : List Char} (opens : Opens part)
    (parts : List (List Char)) (rest : List Char) :
    nextItem (arrayPlace first (following first (part :: parts) ++ rest)) =
      .ok (.item (part ++ (following false parts ++ rest))) := by
  obtain ⟨char, others, rfl, visible, item⟩ := opens
  rw [following_cons]
  have whole : char :: others ++ (following false parts ++ rest) =
      char :: (others ++ following false parts ++ rest) := by
    simp
  rw [whole]
  cases first with
  | true =>
      show nextItem
        (.first (char :: (others ++ following false parts ++ rest))) = _
      unfold nextItem
      dsimp only
      rw [skipBlanks_cons visible]
      split
      · next same => cases same
      · next same => exact absurd (List.cons.inj same).1 item
      · next same =>
          cases same
          rfl
  | false =>
      show nextItem
        (.later (',' :: char ::
          (others ++ following false parts ++ rest))) = _
      unfold nextItem
      dsimp only
      rw [skipBlanks_cons rfl]
      split
      · next same => cases same
      · next same => exact absurd (List.cons.inj same).1 (by decide)
      · next same =>
          cases same
          rw [skipBlanks_cons visible]
          split
          · next same => cases same
          · next same => exact absurd (List.cons.inj same).1 item
          · next same =>
              cases same
              rfl
      · next comma same =>
          cases same
          exact (comma rfl).elim

/-- Items that last one by one are read again as an array. -/
theorem readItems_following
    {codec : Codec α} (items : List α)
    (last : ∀ item ∈ items, codec.Lasts item) :
    ∃ agains : List α,
      ((∀ item ∈ items, (codec.toDocument item).Steady) → agains = items) ∧
      ∀ depth first fuel rest,
        items.length < fuel →
          readItems (codec.read depth) fuel (arrayPlace first
            (following first (items.map codec.write) ++ ']' :: rest)) =
            if ∀ item ∈ items, (codec.toDocument item).nesting ≤ depth then
              .ok (agains, rest)
            else .error .malformed := by
  induction items with
  | nil =>
      refine ⟨[], fun _ => rfl, ?_⟩
      intro depth first fuel rest enough
      obtain ⟨fuel, rfl⟩ := Nat.exists_eq_add_of_lt enough
      rw [if_pos (fun _ member => nomatch member), readItems, List.map_nil,
        nextItem_closed]
      rfl
  | cons item items induction =>
      obtain ⟨again, ⟨opens, reads⟩, same⟩ := last item List.mem_cons_self
      obtain ⟨agains, all, others⟩ := induction fun other member =>
        last other (List.mem_cons_of_mem _ member)
      refine ⟨again :: agains, ?_, ?_⟩
      · intro steady
        rw [List.forall_mem_cons] at steady
        rw [same steady.1, all steady.2]
      · intro depth first fuel rest enough
        obtain ⟨fuel, rfl⟩ : ∃ more, fuel = more + 1 := ⟨fuel - 1, by omega⟩
        have ends := ends_following (items.map codec.write) (.inl rfl) rest
        have tail :=
          others depth false fuel rest (Nat.lt_of_succ_lt_succ enough)
        rw [readItems, List.map_cons, nextItem_cons first opens, ok_bind]
        dsimp only
        rw [reads depth _ ends]
        by_cases fits : (codec.toDocument item).nesting ≤ depth
        · rw [if_pos fits, ok_bind]
          dsimp only
          show (readItems (codec.read depth) fuel
            (arrayPlace false
              (following false (items.map codec.write) ++ ']' :: rest)) >>=
                _) = _
          rw [tail]
          simp only [List.forall_mem_cons, fits, true_and]
          split
          · rfl
          · rfl
        · rw [if_neg fits]
          simp only [List.forall_mem_cons, fits, false_and, if_false]
          rfl

/-! ## Members -/

theorem nextMember_closed (first : Bool) (rest : List Char) :
    nextMember first (following first [] ++ '\x7d' :: rest) =
      .ok (.closed rest) := by
  cases first with
  | true => rfl
  | false => rfl

theorem nextMember_cons
    (first : Bool) (key : String) (value : List Char)
    (parts : List (List Char)) (rest : List Char) :
    nextMember first
        (following first (printMember key value :: parts) ++ rest) =
      .ok (.member key
        (':' :: (value ++ (following false parts ++ rest)))) := by
  obtain ⟨content, quoted, read⟩ :=
    readQuoted_printText key (':' :: (value ++ (following false parts ++ rest)))
  have key' :
      readKey ('"' :: content) =
        .ok (.member key
          (':' :: (value ++ (following false parts ++ rest)))) := by
    show (readQuoted content).map _ = _
    rw [read]
    rfl
  have whole : following first (printMember key value :: parts) ++ rest =
      commaText first ++ '"' :: content := by
    rw [following_cons, ← quoted]
    unfold printMember
    simp
  rw [whole]
  cases first with
  | true => exact key'
  | false => exact key'

theorem skipMark_cons
    {mark : Char} (visible : isBlank mark = false) (rest : List Char) :
    skipMark mark (mark :: rest) = .ok rest := by
  unfold skipMark
  rw [skipBlanks_cons visible]
  exact if_pos rfl

/-- Members whose values last one by one are read again as an object. -/
theorem readEntries_following
    {codec : Codec α} (members : List (String × α))
    (last : ∀ member ∈ members, codec.Lasts member.2) :
    ∃ agains : List (String × α),
      ((∀ member ∈ members, (codec.toDocument member.2).Steady) →
        agains = members) ∧
      ∀ depth first fuel rest,
        members.length < fuel →
          readEntries (codec.read depth) fuel first
              (following first
                (members.map fun member =>
                  printMember member.1 (codec.write member.2)) ++
                '\x7d' :: rest) =
            if ∀ member ∈ members, (codec.toDocument member.2).nesting ≤ depth
              then .ok (agains, rest) else .error .malformed := by
  induction members with
  | nil =>
      refine ⟨[], fun _ => rfl, ?_⟩
      intro depth first fuel rest enough
      obtain ⟨fuel, rfl⟩ := Nat.exists_eq_add_of_lt enough
      rw [if_pos (fun _ member => nomatch member), readEntries, List.map_nil,
        nextMember_closed]
      rfl
  | cons member members induction =>
      obtain ⟨again, ⟨_, reads⟩, same⟩ := last member List.mem_cons_self
      obtain ⟨agains, all, others⟩ := induction fun other listed =>
        last other (List.mem_cons_of_mem _ listed)
      refine ⟨(member.1, again) :: agains, ?_, ?_⟩
      · intro steady
        rw [List.forall_mem_cons] at steady
        rw [same steady.1, all steady.2]
      · intro depth first fuel rest enough
        obtain ⟨fuel, rfl⟩ : ∃ more, fuel = more + 1 := ⟨fuel - 1, by omega⟩
        have tail :=
          others depth false fuel rest (Nat.lt_of_succ_lt_succ enough)
        rw [readEntries, List.map_cons]
        rw [nextMember_cons, ok_bind]
        dsimp only
        rw [skipMark_cons rfl, ok_bind,
          reads depth _ (ends_following _ (.inr rfl) rest)]
        by_cases fits : (codec.toDocument member.2).nesting ≤ depth
        · rw [if_pos fits, ok_bind]
          dsimp only
          rw [tail]
          simp only [List.forall_mem_cons, fits, true_and]
          split
          · rfl
          · rfl
        · rw [if_neg fits]
          simp only [List.forall_mem_cons, fits, false_and, if_false]
          rfl

end EventRelay.Json
