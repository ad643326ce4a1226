import EventRelay.Proofs.Json.Settled

/-!
# Arrays and objects are read for themselves

The items of an array and the members of an object are read one by one, each
up to the blanks behind it.  What a reader makes of all of them is told by what
it makes of each, whatever stands behind the closing bracket and however much
fuel there is beyond the number of parts.
-/

namespace EventRelay.Json

variable {α : Type}

/-! ## Items -/

/-- Blanks before the end of an array belong to no item. -/
theorem nextItem_end (first : Bool) {blanks fill : List Char}
    (blank : Blank blanks) (blankFill : Blank fill) (rest : List Char) :
    nextItem (arrayPlace first
        (blanks ++ (following first [] ++ (fill ++ ']' :: rest)))) =
      .ok (.closed rest) := by
  have none : following first [] = [] := by
    cases first with
    | true => rfl
    | false => rfl
  have closing : skipBlanks (blanks ++ (fill ++ ']' :: rest)) =
      ']' :: rest := by
    rw [← List.append_assoc]
    exact (blank.append blankFill).skipBlanks_cons rfl rest
  rw [none, List.nil_append]
  unfold nextItem arrayPlace
  cases first with
  | true =>
      simp only [if_true]
      rw [closing]
      rfl
  | false =>
      simp only [Bool.false_eq_true, if_false]
      rw [closing]
      rfl

/-- The next item begins behind the comma and all blanks. -/
theorem nextItem_text (first : Bool) {blanks : List Char} (blank : Blank blanks)
    {item : Item} (spaced : item.Spaced) (opens : Opens item.value)
    (parts : List (List Char)) (rest : List Char) :
    nextItem (arrayPlace first
        (blanks ++ (following first (item.text :: parts) ++ rest))) =
      .ok (.item (item.value ++
        (item.after ++ (following false parts ++ rest)))) := by
  obtain ⟨char, others, begins, visible, inside⟩ := opens
  have whole : ∀ lead, Blank lead →
      skipBlanks (lead ++ (item.text ++ (following false parts ++ rest))) =
        char :: (others ++
          (item.after ++ (following false parts ++ rest))) := by
    intro lead blankLead
    unfold Item.text
    rw [begins]
    simp only [List.append_assoc, List.cons_append]
    rw [← List.append_assoc lead]
    exact (blankLead.append spaced.before).skipBlanks_cons visible _
  rw [following_cons, begins]
  unfold nextItem arrayPlace
  cases first with
  | true =>
      simp only [if_true, commaText, List.nil_append, List.append_assoc]
      rw [whole blanks blank]
      split
      · next same => cases same
      · next same => exact absurd (List.cons.inj same).1 inside
      · next same =>
          cases same
          rfl
  | false =>
      simp only [Bool.false_eq_true, if_false, commaText, List.append_assoc,
        List.cons_append, List.nil_append]
      have behind := whole [] blank_nil
      rw [List.nil_append] at behind
      rw [blank.skipBlanks_cons rfl]
      split
      · next same => cases same
      · next same => exact absurd (List.cons.inj same).1 (by decide)
      · next same =>
          cases same
          rw [behind]
          split
          · next same => cases same
          · next same => exact absurd (List.cons.inj same).1 inside
          · next same =>
              cases same
              rfl
      · next comma same =>
          cases same
          exact (comma rfl).elim

/-- What is read from an array is what is read from each item. -/
theorem readItems_ok_iff
    {read : Reader α} {items : List Item}
    (spaced : ∀ item ∈ items, item.Spaced)
    (opens : ∀ item ∈ items, Opens item.value)
    (settled : ∀ item ∈ items, Settled read item.value) {fill : List Char}
    (blankFill : Blank fill) {fuel : Nat} (enough : items.length < fuel)
    (first : Bool) {blanks : List Char} (blank : Blank blanks)
    {rest after : List Char} {values : List α} :
    readItems read fuel (arrayPlace first
        (blanks ++ (following first (items.map Item.text) ++
          (fill ++ ']' :: rest)))) = .ok (values, after) ↔
      after = rest ∧
        List.Forall₂ (fun item value => Reads read item.value value) items
          values := by
  induction items generalizing fuel first blanks values with
  | nil =>
      obtain ⟨fuel, rfl⟩ : ∃ more, fuel = more + 1 := ⟨fuel - 1, by omega⟩
      rw [readItems, List.map_nil, nextItem_end first blank blankFill, ok_bind,
        List.forall₂_nil_left_iff]
      constructor
      · rintro ⟨⟩
        exact ⟨rfl, rfl⟩
      · rintro ⟨rfl, rfl⟩
        rfl
  | cons item items induction =>
      obtain ⟨fuel, rfl⟩ : ∃ more, fuel = more + 1 := ⟨fuel - 1, by omega⟩
      obtain ⟨here, spaced⟩ := List.forall_mem_cons.mp spaced
      obtain ⟨begins, opens⟩ := List.forall_mem_cons.mp opens
      obtain ⟨own, settled⟩ := List.forall_mem_cons.mp settled
      have halts := halts_following here.after blankFill (items.map Item.text)
        (.inl rfl) rest
      have later : ∀ {values}, readItems read fuel (.later
          (item.after ++ (following false (items.map Item.text) ++
            (fill ++ ']' :: rest)))) = .ok (values, after) ↔ _ :=
        induction spaced opens settled (Nat.lt_of_succ_lt_succ enough) false
          here.after
      rw [readItems, List.map_cons, nextItem_text first blank here begins,
        ok_bind]
      dsimp only
      rw [bind_eq_ok]
      constructor
      · rintro ⟨⟨value, between⟩, read, more⟩
        obtain ⟨⟨others, behind⟩, others_read, same⟩ := bind_eq_ok.mp more
        cases same
        obtain ⟨same, reads⟩ := (own.ok_iff halts).mp read
        rw [same] at others_read
        obtain ⟨rfl, each⟩ := later.mp others_read
        exact ⟨rfl, .cons reads each⟩
      · rintro ⟨rfl, each⟩
        cases each with
        | @cons _ value _ others reads each =>
            refine ⟨(value, _), reads _ halts, ?_⟩
            dsimp only
            rw [later.mpr ⟨rfl, each⟩]
            rfl

/-- What stands behind the opening bracket of an array. -/
def arrayRest (items : List Item) (fill rest : List Char) : List Char :=
  following true (items.map Item.text) ++ (fill ++ ']' :: rest)

theorem arrayText_append (items : List Item) (fill rest : List Char) :
    arrayText items fill ++ rest = '[' :: arrayRest items fill rest := by
  simp [arrayText, arrayRest]

/-- A whole array is read with the fuel that its length allows for. -/
theorem readItems_first_ok_iff
    {read : Reader α} {items : List Item}
    (spaced : ∀ item ∈ items, item.Spaced)
    (opens : ∀ item ∈ items, Opens item.value)
    (settled : ∀ item ∈ items, Settled read item.value) {fill : List Char}
    (blankFill : Blank fill) {rest after : List Char} {values : List α} :
    readItems read ((arrayRest items fill rest).length + 1)
        (.first (arrayRest items fill rest)) = .ok (values, after) ↔
      after = rest ∧
        List.Forall₂ (fun item value => Reads read item.value value) items
          values := by
  have enough : items.length < (arrayRest items fill rest).length + 1 := by
    have more :=
      length_map_lt_following true items Item.text ']' rest
    simp only [arrayRest, List.length_append, List.length_cons] at more ⊢
    omega
  exact readItems_ok_iff spaced opens settled blankFill enough true blank_nil

/-! ## Members -/

/-- Blanks before the end of an object belong to no member. -/
theorem nextMember_end (first : Bool) {blanks fill : List Char}
    (blank : Blank blanks) (blankFill : Blank fill) (rest : List Char) :
    nextMember first
        (blanks ++ (following first [] ++ (fill ++ '\x7d' :: rest))) =
      .ok (.closed rest) := by
  have none : following first [] = [] := by
    cases first with
    | true => rfl
    | false => rfl
  have closing :
      skipBlanks (blanks ++ (fill ++ '\x7d' :: rest)) = '\x7d' :: rest := by
    rw [← List.append_assoc]
    exact (blank.append blankFill).skipBlanks_cons rfl rest
  rw [none, List.nil_append]
  unfold nextMember
  rw [closing]
  rfl

/-- What stands behind the key of a member, up to its value. -/
def Member.afterKey (member : Member) (rest : List Char) : List Char :=
  member.gap ++ ':' ::
    (member.lead ++ (member.value ++ (member.after ++ rest)))

theorem Member.Spaced.skipMark_colon
    {member : Member} (spaced : member.Spaced) (rest : List Char) :
    skipMark ':' (member.afterKey rest) =
      .ok (member.lead ++ (member.value ++ (member.after ++ rest))) :=
  skipMark_blanks spaced.gap rfl _

/-- A member begins with the quote of its key. -/
theorem Member.Spaced.skipBlanks_text
    {member : Member} (spaced : member.Spaced) {blanks : List Char}
    (blank : Blank blanks) (rest : List Char) :
    skipBlanks (blanks ++ (member.text ++ rest)) =
      '"' :: (member.key ++ '"' :: member.afterKey rest) := by
  unfold Member.text Member.afterKey
  simp only [List.append_assoc, List.cons_append]
  rw [← List.append_assoc blanks]
  exact (blank.append spaced.before).skipBlanks_cons rfl _

/-- The key of a member is read when it spells a name. -/
theorem Member.Spaced.readKey_ok_iff
    {member : Member} (spaced : member.Spaced) {blanks : List Char}
    (blank : Blank blanks) {rest : List Char} {next : NextMember} :
    readKey (blanks ++ (member.text ++ rest)) = .ok next ↔
      ∃ name, member.name? = some name ∧
        next = .member name (member.afterKey rest) := by
  unfold readKey
  rw [spaced.skipBlanks_text blank]
  show (readQuoted _).map _ = _ ↔ _
  rw [map_eq_ok]
  constructor
  · rintro ⟨⟨name, behind⟩, read, rfl⟩
    obtain ⟨rfl, spells⟩ := spaced.key.readQuoted_ok_iff.mp read
    exact ⟨name, spells, rfl⟩
  · rintro ⟨name, spells, rfl⟩
    exact ⟨_, spaced.key.readQuoted_ok_iff.mpr ⟨rfl, spells⟩, rfl⟩

/-- The next member is read behind the comma and all blanks. -/
theorem nextMember_ok_iff (first : Bool) {blanks : List Char}
    (blank : Blank blanks) {member : Member} (spaced : member.Spaced)
    {parts : List (List Char)} {rest : List Char} {next : NextMember} :
    nextMember first
        (blanks ++ (following first (member.text :: parts) ++ rest)) =
        .ok next ↔
      ∃ name, member.name? = some name ∧
        next = .member name
          (member.afterKey (following false parts ++ rest)) := by
  rw [following_cons]
  cases first with
  | true =>
      have quote := spaced.skipBlanks_text blank (following false parts ++ rest)
      simp only [commaText, if_true, List.nil_append, List.append_assoc]
      rw [← spaced.readKey_ok_iff blank]
      unfold nextMember readKey
      rw [quote]
      exact Iff.rfl
  | false =>
      have comma : skipBlanks (blanks ++ (commaText false ++ member.text ++
          following false parts ++ rest)) =
          ',' :: (member.text ++ (following false parts ++ rest)) := by
        simp only [commaText, Bool.false_eq_true, if_false, List.append_assoc,
          List.cons_append, List.nil_append]
        exact blank.skipBlanks_cons rfl _
      unfold nextMember
      rw [comma]
      exact spaced.readKey_ok_iff blank_nil

/-- The first entry is what is read from the first member. -/
theorem readEntries_cons_ok_iff
    {read : Reader α} (trims : ∀ input, read (skipBlanks input) = read input)
    {member : Member} (here : member.Spaced) (own : Settled read member.value)
    (first : Bool) {blanks : List Char} (blank : Blank blanks)
    {parts : List (List Char)} {rest after : List Char}
    (halts : Halts (member.after ++ (following false parts ++ rest)))
    {fuel : Nat} {entries : List (String × α)} :
    readEntries read (fuel + 1) first
        (blanks ++ (following first (member.text :: parts) ++ rest)) =
          .ok (entries, after) ↔
      ∃ entry others, entries = entry :: others ∧
        (member.name? = some entry.1 ∧ Reads read member.value entry.2) ∧
          readEntries read fuel false
            (member.after ++ (following false parts ++ rest)) =
              .ok (others, after) := by
  have value : ∀ input,
      read (member.lead ++ (member.value ++ input)) =
        read (member.value ++ input) := by
    intro input
    rw [← trims, here.lead.skipBlanks_append, trims]
  rw [readEntries, bind_eq_ok]
  constructor
  · rintro ⟨next, key, more⟩
    obtain ⟨name, spells, rfl⟩ := (nextMember_ok_iff first blank here).mp key
    dsimp only at more
    rw [here.skipMark_colon, ok_bind, value] at more
    obtain ⟨⟨given, between⟩, accepted, more⟩ := bind_eq_ok.mp more
    obtain ⟨⟨others, behind⟩, later, same⟩ := bind_eq_ok.mp more
    cases same
    obtain ⟨rfl, reads⟩ := (own.ok_iff halts).mp accepted
    exact ⟨(name, given), others, rfl, ⟨spells, reads⟩, later⟩
  · rintro ⟨⟨name, given⟩, others, rfl, ⟨spells, reads⟩, later⟩
    refine ⟨_, (nextMember_ok_iff first blank here).mpr ⟨name, spells, rfl⟩, ?_⟩
    dsimp only
    rw [here.skipMark_colon, ok_bind, value, reads _ halts, ok_bind]
    dsimp only
    rw [later]
    rfl

/-- What is read from an object is what is read from each member. -/
theorem readEntries_ok_iff
    {read : Reader α} (trims : ∀ input, read (skipBlanks input) = read input)
    {members : List Member} (spaced : ∀ member ∈ members, member.Spaced)
    (settled : ∀ member ∈ members, Settled read member.value)
    {fill : List Char} (blankFill : Blank fill) {fuel : Nat}
    (enough : members.length < fuel) (first : Bool) {blanks : List Char}
    (blank : Blank blanks) {rest after : List Char}
    {entries : List (String × α)} :
    readEntries read fuel first
        (blanks ++ (following first (members.map Member.text) ++
          (fill ++ '\x7d' :: rest))) = .ok (entries, after) ↔
      after = rest ∧
        List.Forall₂
          (fun member entry =>
            member.name? = some entry.1 ∧ Reads read member.value entry.2)
          members entries := by
  induction members generalizing fuel first blanks entries with
  | nil =>
      obtain ⟨fuel, rfl⟩ : ∃ more, fuel = more + 1 := ⟨fuel - 1, by omega⟩
      rw [readEntries, List.map_nil, nextMember_end first blank blankFill,
        ok_bind, List.forall₂_nil_left_iff]
      constructor
      · rintro ⟨⟩
        exact ⟨rfl, rfl⟩
      · rintro ⟨rfl, rfl⟩
        rfl
  | cons member members induction =>
      obtain ⟨fuel, rfl⟩ : ∃ more, fuel = more + 1 := ⟨fuel - 1, by omega⟩
      obtain ⟨here, spaced⟩ := List.forall_mem_cons.mp spaced
      obtain ⟨own, settled⟩ := List.forall_mem_cons.mp settled
      have halts := halts_following here.after blankFill
        (members.map Member.text) (.inr rfl) rest
      have later : ∀ {others}, readEntries read fuel false
          (member.after ++ (following false (members.map Member.text) ++
            (fill ++ '\x7d' :: rest))) = .ok (others, after) ↔ _ :=
        induction spaced settled (Nat.lt_of_succ_lt_succ enough) false
          here.after
      rw [List.map_cons,
        readEntries_cons_ok_iff trims here own first blank halts]
      constructor
      · rintro ⟨entry, others, rfl, reads, read⟩
        obtain ⟨same, each⟩ := later.mp read
        exact ⟨same, .cons reads each⟩
      · rintro ⟨same, each⟩
        cases each with
        | cons reads each =>
            exact ⟨_, _, rfl, reads, later.mpr ⟨same, each⟩⟩

/-- What stands behind the opening bracket of an object. -/
def objectRest (members : List Member) (fill rest : List Char) : List Char :=
  following true (members.map Member.text) ++ (fill ++ '\x7d' :: rest)

theorem objectText_append (members : List Member) (fill rest : List Char) :
    objectText members fill ++ rest =
      '\x7b' :: objectRest members fill rest := by
  simp [objectText, objectRest]

/-- An object has more characters than members. -/
theorem length_lt_objectRest (members : List Member) (fill rest : List Char) :
    members.length < (objectRest members fill rest).length + 1 := by
  have more :=
    length_map_lt_following true members Member.text '\x7d' rest
  simp only [objectRest, List.length_append, List.length_cons] at more ⊢
  omega

/-- A whole object is read with the fuel that its length allows for. -/
theorem readEntries_first_ok_iff
    {read : Reader α} (trims : ∀ input, read (skipBlanks input) = read input)
    {members : List Member} (spaced : ∀ member ∈ members, member.Spaced)
    (settled : ∀ member ∈ members, Settled read member.value)
    {fill : List Char} (blankFill : Blank fill) {rest after : List Char}
    {entries : List (String × α)} :
    readEntries read ((objectRest members fill rest).length + 1) true
        (objectRest members fill rest) = .ok (entries, after) ↔
      after = rest ∧
        List.Forall₂
          (fun member entry =>
            member.name? = some entry.1 ∧ Reads read member.value entry.2)
          members entries :=
  readEntries_ok_iff trims spaced settled blankFill
    (length_lt_objectRest members fill rest) true blank_nil

/-! ## Documents -/

theorem readDocument_skipBlanks (depth : Nat) (input : List Char) :
    readDocument depth (skipBlanks input) = readDocument depth input := by
  obtain ⟨array, object, same⟩ := readDocument_eq depth
  rw [same]
  unfold readDocumentWith
  rw [skipBlanks_skipBlanks]

/-- A number in a document is read for itself. -/
private theorem settled_number {text : List Char} (negative : Bool)
    (number : UnsignedText text)
    {read : Reader Json} {spelled : List Char}
    (same : ∀ rest, read (spelled ++ rest) =
      (readUnsigned negative (text ++ rest)).map fun result =>
        (.number result.1, result.2)) :
    Settled read spelled := by
  obtain ⟨outcome, held⟩ := number.readUnsigned negative
  apply settled_of_eq (outcome.map .number)
  intro rest halts
  rw [same, held rest halts]
  cases outcome with
  | ok value => rfl
  | error fault => rfl

theorem readDocument_settled {text : List Char} (valid : Valid text)
    (depth : Nat) :
    Settled (readDocument depth) text := by
  induction valid generalizing depth with
  | null =>
      obtain ⟨array, object, same⟩ := readDocument_eq depth
      rw [same]
      exact settled_of_eq (.ok .null) fun _ _ => rfl
  | boolean value =>
      obtain ⟨array, object, same⟩ := readDocument_eq depth
      rw [same]
      cases value with
      | true => exact settled_of_eq (.ok (.boolean true)) fun _ _ => rfl
      | false => exact settled_of_eq (.ok (.boolean false)) fun _ _ => rfl
  | unsigned number =>
      obtain ⟨array, object, same⟩ := readDocument_eq depth
      obtain ⟨first, others, rfl, digit⟩ := number.begins
      rw [same]
      apply settled_number false number
      intro rest
      rw [List.cons_append, readDocumentWith_number (.inr digit)]
      unfold readNumber
      split
      · next same =>
          cases (List.cons.inj same).1
          cases digit
      · rfl
  | negative number =>
      obtain ⟨array, object, same⟩ := readDocument_eq depth
      rw [same]
      exact settled_number true number fun _ => rfl
  | @text content quoted =>
      obtain ⟨array, object, same⟩ := readDocument_eq depth
      rw [same]
      apply settled_of_map (fun rest => readQuoted (content ++ '"' :: rest))
        Json.text
      · intro rest
        rw [List.cons_append, List.append_assoc]
        rfl
      · exact fun _ _ _ _ => quoted.readQuoted_ok_iff
  | @array items fill blank spaced valid induction =>
      cases depth with
      | zero => exact settled_of_eq (.error .malformed) fun _ _ => rfl
      | succ depth =>
          apply settled_of_map (fun rest =>
            readItems (readDocument depth) _
              (.first (arrayRest items fill rest))) Json.array
          · intro rest
            rw [arrayText_append]
            rfl
          · exact fun _ _ _ _ => readItems_first_ok_iff spaced
              (fun item inside => (valid item inside).opens)
              (fun item inside => induction item inside depth) blank
  | @object members fill blank spaced _ induction =>
      cases depth with
      | zero => exact settled_of_eq (.error .malformed) fun _ _ => rfl
      | succ depth =>
          apply settled_of_map (fun rest =>
            readEntries (readDocument depth) _ true
              (objectRest members fill rest))
            fun entries => Json.object (Dictionary.ofEntries entries)
          · intro rest
            rw [objectText_append]
            rfl
          · exact fun _ _ _ _ => readEntries_first_ok_iff
              (readDocument_skipBlanks depth) spaced
              (fun member inside => induction member inside depth) blank

namespace Codec

theorem document_local : document.Local :=
  ⟨readDocument_skipBlanks, fun depth _ valid =>
    readDocument_settled valid depth⟩

theorem dictionary_local : dictionary.Local := by
  constructor
  · intro depth input
    unfold dictionary
    dsimp only
    rw [skipBlanks_skipBlanks]
  · intro depth text valid
    cases valid with
    | null => exact settled_of_mismatch _ fun _ => rfl
    | boolean value =>
        cases value with
        | true => exact settled_of_mismatch _ fun _ => rfl
        | false => exact settled_of_mismatch _ fun _ => rfl
    | unsigned number =>
        refine number.forall_digit fun digit listed others => ?_
        refine settled_of_mismatch "a map" fun rest => ?_
        fin_cases listed <;> rfl
    | negative => exact settled_of_mismatch _ fun _ => rfl
    | text => exact settled_of_mismatch _ fun _ => rfl
    | array => exact settled_of_mismatch _ fun _ => rfl
    | @object members fill blank spaced valid =>
        cases depth with
        | zero => exact settled_of_eq (.error .malformed) fun _ _ => rfl
        | succ depth =>
            apply settled_of_map (fun rest =>
              readEntries (Codec.text.read (depth + 1)) _ true
                (objectRest members fill rest)) Dictionary.ofEntries
            · intro rest
              rw [objectText_append]
              rfl
            · exact fun _ _ _ _ => readEntries_first_ok_iff
                (text_local.trims (depth + 1)) spaced
                (fun member inside =>
                  text_local.settled (depth + 1) _ (valid member inside)) blank

/-- Null is the only value that is read as null. -/
theorem readNull_settled (expected : String) {content : List Char}
    (valid : Valid content) :
    Settled (readNull expected) content := by
  cases valid with
  | null => exact settled_of_eq (.ok ()) fun _ _ => rfl
  | boolean value =>
      cases value with
      | true => exact settled_of_mismatch _ fun _ => rfl
      | false => exact settled_of_mismatch _ fun _ => rfl
  | unsigned number =>
      refine number.forall_digit fun digit listed others => ?_
      refine settled_of_mismatch expected fun rest => ?_
      fin_cases listed <;> rfl
  | negative => exact settled_of_mismatch _ fun _ => rfl
  | text => exact settled_of_mismatch _ fun _ => rfl
  | array => exact settled_of_mismatch _ fun _ => rfl
  | object => exact settled_of_mismatch _ fun _ => rfl

/-- Behind the only member of an object stands its end. -/
theorem skipMark_end_ok_iff
    {blanks fill : List Char} (blank : Blank blanks) (blankFill : Blank fill)
    (members : List Member) {rest after : List Char} :
    skipMark '\x7d' (blanks ++
        (following false (members.map Member.text) ++
          (fill ++ '\x7d' :: rest))) = .ok after ↔
      members = [] ∧ after = rest := by
  cases members with
  | nil =>
      have closing : skipMark '\x7d' (blanks ++
          (following false [] ++ (fill ++ '\x7d' :: rest))) = .ok rest := by
        show skipMark '\x7d' (blanks ++ (fill ++ '\x7d' :: rest)) = _
        rw [← List.append_assoc]
        exact skipMark_blanks (blank.append blankFill) rfl rest
      rw [List.map_nil, closing]
      constructor
      · rintro ⟨⟩
        exact ⟨rfl, rfl⟩
      · rintro ⟨_, rfl⟩
        rfl
  | cons member members =>
      have comma : skipMark '\x7d' (blanks ++
          (following false ((member :: members).map Member.text) ++
            (fill ++ '\x7d' :: rest))) = .error .malformed := by
        rw [List.map_cons, following_cons]
        unfold skipMark
        simp only [commaText, Bool.false_eq_true, if_false, List.append_assoc,
          List.cons_append, List.nil_append]
        rw [blank.skipBlanks_cons rfl]
        rfl
      rw [comma]
      constructor
      · intro never
        cases never
      · rintro ⟨never, _⟩
        cases never

theorem skipMark_quote
    {member : Member} (spaced : member.Spaced) (rest : List Char) :
    skipMark '"' (member.text ++ rest) =
      .ok (member.key ++ '"' :: member.afterKey rest) := by
  have quote := spaced.skipBlanks_text blank_nil rest
  rw [List.nil_append] at quote
  unfold skipMark
  rw [quote]
  rfl

theorem readNull_blanks
    (expected : String) {blanks : List Char} (blank : Blank blanks)
    (input : List Char) :
    readNull expected (blanks ++ input) = readNull expected input := by
  unfold readNull
  rw [blank.skipBlanks_append]

/-- A name in an object is that of its only member, whose value is null. -/
private theorem name_object_settled
    (all : List α) (name : α → String) {members : List Member}
    {fill : List Char} (blank : Blank fill)
    (spaced : ∀ member ∈ members, member.Spaced)
    (valid : ∀ member ∈ members, Valid member.value) (depth : Nat) :
    Settled ((Codec.name all name).read (depth + 1))
      (objectText members fill) := by
  have opened : ∀ rest, (Codec.name all name).read (depth + 1)
      (objectText members fill ++ rest) =
      (skipMark '"' (objectRest members fill rest) >>= fun content =>
        readQuoted content >>= fun given =>
          choose all name given.1 >>= fun value =>
            skipMark ':' given.2 >>= fun behind =>
              readNull "unit" behind >>= fun null =>
                skipMark '\x7d' null.2 >>= fun rest => .ok (value, rest)) := by
    intro rest
    rw [objectText_append]
    rfl
  cases members with
  | nil =>
      apply settled_of_eq (.error .malformed)
      intro rest _
      have closing : skipMark '"' (objectRest [] fill rest) =
          .error .malformed := by
        show skipMark '"' (fill ++ '\x7d' :: rest) = _
        unfold skipMark
        rw [blank.skipBlanks_cons rfl]
        rfl
      rw [opened, closing]
      rfl
  | cons member members =>
      obtain ⟨here, _⟩ := List.forall_mem_cons.mp spaced
      have null := readNull_settled "unit" (valid member List.mem_cons_self)
      apply settled_of_iff fun value => members = [] ∧
        ∃ given, member.name? = some given ∧
          choose all name given = .ok value ∧
            Reads (readNull "unit") member.value ()
      intro rest value after _
      have halts := halts_following here.after blank
        (members.map Member.text) (.inr rfl) rest
      have first : objectRest (member :: members) fill rest =
          member.text ++ (following false (members.map Member.text) ++
            (fill ++ '\x7d' :: rest)) := by
        unfold objectRest
        rw [List.map_cons, following_cons, List.append_assoc]
        rfl
      rw [opened, first, skipMark_quote here, ok_bind, bind_eq_ok]
      constructor
      · rintro ⟨⟨given, behind⟩, read, more⟩
        obtain ⟨rfl, spells⟩ := here.key.readQuoted_ok_iff.mp read
        obtain ⟨chosen, chooses, more⟩ := bind_eq_ok.mp more
        rw [here.skipMark_colon, ok_bind, readNull_blanks _ here.lead] at more
        obtain ⟨⟨_, between⟩, read, more⟩ := bind_eq_ok.mp more
        obtain ⟨rfl, reads⟩ := (null.ok_iff halts).mp read
        obtain ⟨last, closes, same⟩ := bind_eq_ok.mp more
        obtain ⟨only, rfl⟩ := (skipMark_end_ok_iff here.after blank _).mp closes
        cases same
        exact ⟨rfl, only, given, spells, chooses, reads⟩
      · rintro ⟨rfl, only, given, spells, chooses, reads⟩
        refine ⟨_, here.key.readQuoted_ok_iff.mpr ⟨rfl, spells⟩, ?_⟩
        dsimp only
        rw [chooses, ok_bind, here.skipMark_colon, ok_bind,
          readNull_blanks _ here.lead, reads _ halts, ok_bind]
        dsimp only
        rw [(skipMark_end_ok_iff here.after blank _).mpr ⟨only, rfl⟩]
        rfl

/-- The names of a closed set are read for themselves, in either form. -/
theorem name_local (all : List α) (name : α → String) :
    (Codec.name all name).Local := by
  constructor
  · intro depth input
    unfold Codec.name
    dsimp only
    rw [skipBlanks_skipBlanks]
  · intro depth text valid
    cases valid with
    | null => exact settled_of_eq (.error .malformed) fun _ _ => rfl
    | boolean value =>
        cases value with
        | true => exact settled_of_eq (.error .malformed) fun _ _ => rfl
        | false => exact settled_of_eq (.error .malformed) fun _ _ => rfl
    | unsigned number =>
        refine number.forall_digit fun digit listed others => ?_
        refine settled_of_eq (.error .malformed) fun rest _ => ?_
        fin_cases listed <;> rfl
    | negative => exact settled_of_eq (.error .malformed) fun _ _ => rfl
    | text quoted =>
        have settled := readText_settled expectedText (.text quoted)
        exact settled.bind (choose all name)
    | array => exact settled_of_eq (.error .malformed) fun _ _ => rfl
    | @object members fill blank spaced valid =>
        cases depth with
        | zero => exact settled_of_eq (.error .malformed) fun _ _ => rfl
        | succ depth => exact name_object_settled all name blank spaced valid _

end Codec

end EventRelay.Json
