import EventRelay.Proofs.Dictionary
import EventRelay.Proofs.Json.Parts

/-!
# Documents read again

A document that was read holds numbers that a text can give and members in
order, and nests no deeper than its text might.  Its own text is read again
where its nesting is allowed.  Both go by induction: the first on the depth of
the reading, the second on how a document is built.  Dictionaries of texts are
the flat case of an object.
-/

namespace EventRelay.Json

variable {α : Type}

/--
A document all of whose numbers can be given by a text, and all of whose
members are in order.
-/
inductive Sound : Json → Prop where
  | null : Sound .null
  | boolean (value : Bool) : Sound (.boolean value)
  | number {number : Number} : number.Sound → Sound (.number number)
  | text (value : String) : Sound (.text value)
  | array {items : List Json} :
      (∀ item ∈ items, Sound item) → Sound (.array items)
  | object {members : List (String × Json)} :
      Dictionary.Ascending members →
        (∀ member ∈ members, Sound member.2) → Sound (.object members)

theorem printItems_eq (items : List Json) :
    printItems items = items.map print := by
  induction items with
  | nil => rw [printItems, List.map_nil]
  | cons item items induction => rw [printItems, List.map_cons, induction]

theorem printMembers_eq (members : List (String × Json)) :
    printMembers members =
      members.map fun member => printMember member.1 (print member.2) := by
  induction members with
  | nil => rw [printMembers, List.map_nil]
  | cons member members induction => rw [printMembers, List.map_cons, induction]

theorem nestingOfItems_le (items : List Json) (depth : Nat) :
    nestingOfItems items ≤ depth ↔ ∀ item ∈ items, item.nesting ≤ depth := by
  induction items with
  | nil => simp [nestingOfItems]
  | cons item items induction =>
      rw [nestingOfItems, Nat.max_le, induction, List.forall_mem_cons]

theorem nestingOfMembers_le (members : List (String × Json)) (depth : Nat) :
    nestingOfMembers members ≤ depth ↔
      ∀ member ∈ members, member.2.nesting ≤ depth := by
  induction members with
  | nil => simp [nestingOfMembers]
  | cons member members induction =>
      rw [nestingOfMembers, Nat.max_le, induction, List.forall_mem_cons]

theorem nesting_number (number : Number) : nesting (.number number) = 0 := by
  rw [nesting]
  · rintro _ ⟨⟩
  · rintro _ ⟨⟩

/-- The number that begins a text is read where a document may stand. -/
theorem readDocumentWith_number
    {array object : Reader Json} {first : Char} {text : List Char}
    (begins : first = '-' ∨ first.isDigit = true) :
    readDocumentWith array object (first :: text) =
      (readNumber (first :: text)).map fun result =>
        (.number result.1, result.2) := by
  unfold readDocumentWith
  rw [skipBlanks_cons (isBlank_of_begins begins)]
  have unlike (char : Char) (rest : List Char) (mark : char ≠ '-')
      (notDigit : char.isDigit = false) : first :: text ≠ char :: rest :=
    fun same => ne_of_begins begins mark notDigit (List.cons.inj same).1
  split
  · next same => cases same
  · next same => exact absurd same (unlike _ _ (by decide) (by decide))
  · next same => exact absurd same (unlike _ _ (by decide) (by decide))
  · next same => exact absurd same (unlike _ _ (by decide) (by decide))
  · next same => exact absurd same (unlike _ _ (by decide) (by decide))
  · next same => exact absurd same (unlike _ _ (by decide) (by decide))
  · next same => exact absurd same (unlike _ _ (by decide) (by decide))
  · next same =>
      cases same
      exact if_pos begins

/--
However deep a document may be, its first character decides how it is read.
-/
theorem readDocument_eq (depth : Nat) :
    ∃ array object, readDocument depth = readDocumentWith array object := by
  cases depth with
  | zero => exact ⟨_, _, rfl⟩
  | succ depth => exact ⟨_, _, rfl⟩

namespace Codec

/-- A document that opens nothing. -/
theorem scalar_lasts
    {document : Json} (again : Json) (flat : document.nesting = 0)
    (opens : Opens document.print)
    (reads :
      ∀ array object rest,
        Ends rest →
          readDocumentWith array object (document.print ++ rest) =
            .ok (again, rest))
    (same : document.Steady → again = document) :
    Codec.document.Lasts document := by
  refine ⟨again, ?_, same⟩
  show Rereads readDocument document.print document.nesting again
  rw [flat]
  refine rereads_flat opens ?_
  intro depth rest ends
  obtain ⟨array, object, same⟩ := readDocument_eq depth
  rw [same]
  exact reads array object rest ends

theorem number_lasts {number : Number} (sound : number.Sound) :
    document.Lasts (.number number) := by
  obtain ⟨again, reads, back⟩ := readNumber_print sound
  obtain ⟨first, text, written, begins⟩ := print_number_cons number
  have whole : print (.number number) = first :: text := by
    rw [print]
    exact written
  refine scalar_lasts (.number again) (nesting_number number) ?_ ?_ ?_
  · rw [whole]
    exact opens_of_begins begins text
  · intro array object rest ends
    have read := reads rest ends
    rw [written] at read
    rw [whole, List.cons_append, readDocumentWith_number begins]
    show (readNumber (first :: text ++ rest)).map _ = _
    rw [read]
    rfl
  · intro steady
    cases steady with
    | number readsBack => rw [back readsBack]

theorem boolean_lasts (value : Bool) : document.Lasts (.boolean value) := by
  cases value with
  | true =>
      exact scalar_lasts _ rfl (opens_cons _ rfl (by decide))
        (fun _ _ _ _ => rfl) fun _ => rfl
  | false =>
      exact scalar_lasts _ rfl (opens_cons _ rfl (by decide))
        (fun _ _ _ _ => rfl) fun _ => rfl

theorem quoted_lasts (value : String) : document.Lasts (.text value) := by
  refine ⟨.text value, rereads_printText ?_, fun _ => rfl⟩
  intro depth rest content _ read
  show readDocument depth ('"' :: content) = _
  obtain ⟨array, object, same⟩ := readDocument_eq depth
  rw [same]
  show (readQuoted content).map _ = _
  rw [read]
  rfl

end Codec

theorem print_array (items : List Json) :
    print (.array items) =
      '[' :: (following true (items.map print) ++ [']']) := by
  rw [print, printItems_eq]
  rfl

theorem print_object (members : List (String × Json)) :
    print (.object members) =
      '\x7b' ::
        (following true
          (members.map fun member => printMember member.1 (print member.2)) ++
          ['\x7d']) := by
  rw [print, printMembers_eq]
  rfl

namespace Codec

theorem array_lasts
    {items : List Json} (last : ∀ item ∈ items, document.Lasts item) :
    document.Lasts (.array items) := by
  obtain ⟨agains, all, reads⟩ := readItems_following items last
  refine ⟨.array agains, ?_, ?_⟩
  · show Rereads readDocument (print (.array items)) (nesting (.array items)) _
    rw [nesting, print_array]
    apply rereads_bracketed rfl (by decide) (fun _ => rfl)
    intro depth rest
    have inner :
        readItems (readDocument depth) _
            (arrayPlace true
              (following true (items.map print) ++ ']' :: rest)) =
          if ∀ item ∈ items, item.nesting ≤ depth then .ok (agains, rest)
            else .error .malformed :=
      reads depth true _ rest
        (length_map_lt_following true items print ']' rest)
    show (readItems (readDocument depth) _
      (arrayPlace true
        (following true (items.map print) ++ ']' :: rest))).map _ = _
    rw [inner]
    simp only [nestingOfItems_le]
    split
    · rfl
    · rfl
  · intro steady
    rw [all steady.item]

theorem object_lasts
    {members : List (String × Json)} (ascending : Dictionary.Ascending members)
    (last : ∀ member ∈ members, document.Lasts member.2) :
    document.Lasts (.object members) := by
  obtain ⟨agains, all, reads⟩ := readEntries_following members last
  refine ⟨.object (Dictionary.ofEntries agains), ?_, ?_⟩
  · show Rereads readDocument (print (.object members))
      (nesting (.object members)) _
    rw [nesting, print_object]
    apply rereads_bracketed rfl (by decide) (fun _ => rfl)
    intro depth rest
    have inner :
        readEntries (readDocument depth) _ true
            (following true
              (members.map fun member =>
                printMember member.1 (print member.2)) ++ '\x7d' :: rest) =
          if ∀ member ∈ members, member.2.nesting ≤ depth then
            .ok (agains, rest)
          else .error .malformed :=
      reads depth true _ rest
        (length_map_lt_following true members
          (fun member => printMember member.1 (print member.2)) '\x7d' rest)
    show (readEntries (readDocument depth) _ true _).map _ = _
    rw [inner]
    simp only [nestingOfMembers_le]
    split
    · rfl
    · rfl
  · intro steady
    rw [all steady.member, Dictionary.ofEntries_of_ascending ascending]

/-- A document is read again where its nesting is allowed. -/
theorem document_lasts {value : Json} (sound : value.Sound) :
    document.Lasts value := by
  induction sound with
  | null =>
      exact scalar_lasts _ rfl (opens_cons _ rfl (by decide))
        (fun _ _ _ _ => rfl) fun _ => rfl
  | boolean value => exact boolean_lasts value
  | number sound => exact number_lasts sound
  | text value => exact quoted_lasts value
  | array _ induction => exact array_lasts induction
  | object ascending _ induction => exact object_lasts ascending induction

/-- Only null is written as null is. -/
theorem document_shown {value : Json} (sound : value.Sound)
    (present : value ≠ .null) : document.Shown value := by
  cases sound with
  | null => exact absurd rfl present
  | boolean value =>
      cases value with
      | true => exact shown_cons rfl (by decide)
      | false => exact shown_cons rfl (by decide)
  | @number number _ =>
      obtain ⟨first, text, written, begins⟩ := print_number_cons number
      have whole : document.write (.number number) = first :: text := by
        show print _ = _
        rw [print]
        exact written
      exact shown_cons whole (ne_of_begins begins (by decide) (by decide))
  | text value => exact shown_cons rfl (by decide)
  | array _ => exact shown_cons (print_array _) (by decide)
  | object _ _ => exact shown_cons (print_object _) (by decide)

end Codec

/-! ## Documents that were read -/

theorem readItems_all
    {item : Reader Json} {claim : Json → Prop}
    (each : ∀ input value rest, item input = .ok (value, rest) → claim value)
    (fuel : Nat) {place : ArrayPlace} {values : List Json} {rest : List Char}
    (read : readItems item fuel place = .ok (values, rest)) :
    ∀ value ∈ values, claim value := by
  induction fuel generalizing place values with
  | zero => cases read
  | succ fuel induction =>
      rw [readItems] at read
      obtain ⟨next, _, read⟩ := bind_eq_ok.mp read
      cases next with
      | closed after =>
          cases read
          intro value member
          cases member
      | item input =>
          obtain ⟨⟨value, after⟩, one, read⟩ := bind_eq_ok.mp read
          obtain ⟨⟨others, last⟩, more, same⟩ := bind_eq_ok.mp read
          cases same
          rw [List.forall_mem_cons]
          exact ⟨each input value after one, induction more⟩

theorem readEntries_all
    {item : Reader α} {claim : α → Prop}
    (each : ∀ input value rest, item input = .ok (value, rest) → claim value)
    (fuel : Nat) {first : Bool} {input rest : List Char}
    {entries : List (String × α)}
    (read : readEntries item fuel first input = .ok (entries, rest)) :
    ∀ entry ∈ entries, claim entry.2 := by
  induction fuel generalizing first input entries with
  | zero => cases read
  | succ fuel induction =>
      rw [readEntries] at read
      obtain ⟨next, _, read⟩ := bind_eq_ok.mp read
      cases next with
      | closed after =>
          cases read
          intro entry member
          cases member
      | member key afterKey =>
          obtain ⟨input, _, read⟩ := bind_eq_ok.mp read
          obtain ⟨⟨value, after⟩, one, read⟩ := bind_eq_ok.mp read
          obtain ⟨⟨others, last⟩, more, same⟩ := bind_eq_ok.mp read
          cases same
          rw [List.forall_mem_cons]
          exact ⟨each input value after one, induction more⟩

/--
What is known of a document that was read from a text where so many arrays and
objects might be opened.
-/
structure ReadFrom (input : List Char) (depth : Nat) (document : Json) :
    Prop where
  sound : document.Sound
  fits : document.nesting ≤ depth
  /-- Null is read only where it stands. -/
  present : (skipBlanks input).head? ≠ some 'n' → document ≠ .null

/--
A document opens nothing, or it goes on after an opening bracket that stands
where it is read.
-/
theorem cases_of_readDocumentWith
    {array object : Reader Json} {input rest : List Char} {document : Json}
    (read : readDocumentWith array object input = .ok (document, rest)) :
    ReadFrom input 0 document ∨ (∃ after, array after = .ok (document, rest)) ∨
      ∃ after, object after = .ok (document, rest) := by
  unfold readDocumentWith at read
  split at read
  · cases read
  · next null =>
      obtain ⟨_, _, same⟩ := map_eq_ok.mp read
      cases same
      refine .inl ⟨.null, Nat.le_refl 0, ?_⟩
      intro visible
      rw [null] at visible
      exact absurd rfl visible
  · obtain ⟨_, _, same⟩ := map_eq_ok.mp read
    cases same
    exact .inl ⟨.boolean true, Nat.le_refl 0, fun _ => nofun⟩
  · obtain ⟨_, _, same⟩ := map_eq_ok.mp read
    cases same
    exact .inl ⟨.boolean false, Nat.le_refl 0, fun _ => nofun⟩
  · obtain ⟨result, _, same⟩ := map_eq_ok.mp read
    cases same
    exact .inl ⟨.text result.1, Nat.le_refl 0, fun _ => nofun⟩
  · exact .inr (.inl ⟨_, read⟩)
  · exact .inr (.inr ⟨_, read⟩)
  · split at read
    · obtain ⟨result, number, same⟩ := map_eq_ok.mp read
      cases same
      refine .inl ⟨.number (sound_of_readNumber number), ?_, fun _ => nofun⟩
      exact Nat.le_of_eq (nesting_number result.1)
    · cases read

theorem readFrom_of_readDocument
    {depth : Nat} {input rest : List Char} {document : Json}
    (read : readDocument depth input = .ok (document, rest)) :
    ReadFrom input depth document := by
  induction depth generalizing input document rest with
  | zero =>
      rcases cases_of_readDocumentWith read with
        flat | ⟨_, never⟩ | ⟨_, never⟩
      · exact flat
      · cases never
      · cases never
  | succ depth induction =>
      have inner
          {input rest : List Char} {document : Json}
          (one : readDocument depth input = .ok (document, rest)) :
          document.Sound ∧ document.nesting ≤ depth :=
        ⟨(induction one).sound, (induction one).fits⟩
      rcases cases_of_readDocumentWith read with
        flat | ⟨after, items⟩ | ⟨after, members⟩
      · exact ⟨flat.sound, Nat.le_trans flat.fits (Nat.zero_le _),
          flat.present⟩
      · obtain ⟨result, all, same⟩ := map_eq_ok.mp items
        cases same
        have each := readItems_all (fun _ _ _ one => inner one) _ all
        refine ⟨.array fun item member => (each item member).1, ?_,
          fun _ => nofun⟩
        rw [nesting, Nat.succ_le_succ_iff, nestingOfItems_le]
        exact fun item member => (each item member).2
      · obtain ⟨result, all, same⟩ := map_eq_ok.mp members
        cases same
        have each := readEntries_all (fun _ _ _ one => inner one) _ all
        refine ⟨.object (Dictionary.ascending_ofEntries _) ?_, ?_,
          fun _ => nofun⟩
        · intro member listed
          exact (each member (Dictionary.mem_of_mem_ofEntries listed)).1
        · rw [nesting, Nat.succ_le_succ_iff, nestingOfMembers_le]
          intro member listed
          exact (each member (Dictionary.mem_of_mem_ofEntries listed)).2

namespace Codec

theorem document_lasting (levels : Nat) : document.Lasting levels := by
  constructor
  · rintro depth value ⟨input, rest, read⟩
    exact document_lasts (readFrom_of_readDocument read).sound
  · rintro depth value ⟨input, rest, read⟩
    exact Nat.le_trans (readFrom_of_readDocument read).fits
      (Nat.le_max_left depth levels)
  · intro depth input rest value read visible
    obtain ⟨sound, _, present⟩ := readFrom_of_readDocument read
    exact document_shown sound (present visible)

/-! ## Dictionaries of texts -/

theorem nesting_dictionary (entries : Dictionary String) :
    (dictionary.toDocument entries).nesting = 1 := by
  have flat :
      nestingOfMembers (entries.map fun entry => (entry.1, Json.text entry.2)) ≤
        0 := by
    rw [nestingOfMembers_le]
    intro member listed
    obtain ⟨entry, _, rfl⟩ := List.mem_map.mp listed
    exact Nat.le_refl 0
  show nesting (.object _) = 1
  rw [nesting, Nat.le_zero.mp flat]

theorem write_dictionary (entries : Dictionary String) :
    dictionary.write entries =
      '\x7b' ::
        (following true
          (entries.map fun entry => printMember entry.1 (text.write entry.2)) ++
          ['\x7d']) :=
  rfl

/-- Dictionaries of texts open one object. -/
theorem dictionary_lasts
    {entries : Dictionary String} (ascending : entries.Ascending) :
    dictionary.Lasts entries := by
  obtain ⟨agains, all, reads⟩ := readEntries_following entries
    fun entry _ => (text_total 0).lasts entry.2
  obtain rfl := all fun entry _ => .text entry.2
  refine ⟨agains, ?_, fun _ => rfl⟩
  rw [nesting_dictionary, write_dictionary]
  apply rereads_bracketed rfl (by decide) (fun _ => rfl)
  intro depth rest
  have inner := reads (depth + 1) true _ rest
    (length_map_lt_following true agains
      (fun entry => printMember entry.1 (text.write entry.2)) '\x7d' rest)
  have flat :
      ∀ entry ∈ agains, (text.toDocument entry.2).nesting ≤ depth + 1 :=
    fun _ _ => Nat.zero_le _
  show (readEntries (text.read (depth + 1)) _ true _).map _ = _
  rw [inner, if_pos flat, if_pos (Nat.zero_le depth)]
  show Except.ok (Dictionary.ofEntries agains, rest) = _
  rw [Dictionary.ofEntries_of_ascending ascending]

theorem dictionary_shown (entries : Dictionary String) :
    dictionary.Shown entries :=
  shown_cons (write_dictionary entries) (by decide)

theorem ascending_of_read_dictionary
    {depth : Nat} {input rest : List Char} {entries : Dictionary String}
    (read : dictionary.read depth input = .ok (entries, rest)) :
    entries.Ascending := by
  unfold dictionary at read
  dsimp only at read
  split at read
  · split at read
    · cases read
    · obtain ⟨result, _, same⟩ := map_eq_ok.mp read
      cases same
      exact Dictionary.ascending_ofEntries _
  · obtain ⟨_, _, never⟩ := bind_eq_ok.mp read
    cases never

theorem dictionary_lasting {levels : Nat} (enough : 1 ≤ levels) :
    dictionary.Lasting levels := by
  constructor
  · rintro depth value ⟨input, rest, read⟩
    exact dictionary_lasts (ascending_of_read_dictionary read)
  · intro depth value _
    rw [nesting_dictionary]
    exact Nat.le_trans enough (Nat.le_max_right depth levels)
  · intro depth input rest value _ _
    exact dictionary_shown value

end Codec

end EventRelay.Json
