import EventRelay.Proofs.Json.Float
import EventRelay.Proofs.Json.Given
import EventRelay.Proofs.Json.Text

/-!
# Written values read again

The text of a value is read again wherever a value may end, provided that as
many arrays and objects may still be opened as the value needs.  With fewer it
is malformed, whatever else it holds.  What is read is what was written, as
long as the numbers in it are read back from their own texts; a float may
move.

A value lasts when its text is accepted in this way.  A codec is lasting when
all values that it reads last, and nest no deeper than the texts that they
were read from or than what a record opens for members that are left out.  It
is total when its values last wherever they come from.
-/

namespace EventRelay.Json

variable {α β : Type}

theorem skipBlanks_cons
    {first : Char} (visible : isBlank first = false) (rest : List Char) :
    skipBlanks (first :: rest) = first :: rest := by
  unfold skipBlanks
  rw [List.dropWhile_cons_of_neg (by rw [visible]; exact Bool.false_ne_true)]

theorem skipBlanks_skipBlanks (input : List Char) :
    skipBlanks (skipBlanks input) = skipBlanks input := by
  induction input with
  | nil => rfl
  | cons first rest induction =>
      cases blank : isBlank first with
      | false => rw [skipBlanks_cons blank, skipBlanks_cons blank]
      | true =>
          have skipped : skipBlanks (first :: rest) = skipBlanks rest :=
            List.dropWhile_cons_of_pos blank
          rw [skipped, induction]

/--
What the text of a value begins with: nothing blank and no end of an array.
-/
def Opens (text : List Char) : Prop :=
  ∃ first rest, text = first :: rest ∧ isBlank first = false ∧ first ≠ ']'

theorem opens_cons
    {first : Char} (rest : List Char) (visible : isBlank first = false)
    (item : first ≠ ']') : Opens (first :: rest) :=
  ⟨first, rest, rfl, visible, item⟩

theorem Opens.skipBlanks_append
    {text : List Char} (opens : Opens text) (rest : List Char) :
    skipBlanks (text ++ rest) = text ++ rest := by
  obtain ⟨first, others, rfl, visible, _⟩ := opens
  exact skipBlanks_cons visible (others ++ rest)

/--
A text is read again where so many arrays and objects may be opened, and not
where fewer may.
-/
structure Rereads
    (read : Nat → Reader α) (text : List Char) (levels : Nat) (again : α) :
    Prop where
  opens : Opens text
  reads : ∀ depth rest, Ends rest → read depth (text ++ rest) =
    if levels ≤ depth then .ok (again, rest) else .error .malformed

/-- A text that opens nothing is read again anywhere. -/
theorem rereads_flat
    {read : Nat → Reader α} {text : List Char} {again : α}
    (opens : Opens text)
    (reads :
      ∀ depth rest, Ends rest → read depth (text ++ rest) = .ok (again, rest)) :
    Rereads read text 0 again := by
  refine ⟨opens, ?_⟩
  intro depth rest ends
  rw [if_pos (Nat.zero_le depth)]
  exact reads depth rest ends

/-- A text between quotes is read again anywhere. -/
theorem rereads_printText {read : Nat → Reader α} {value : String} {again : α}
    (reads : ∀ depth rest content, printText value ++ rest = '"' :: content →
      readQuoted content = .ok (value, rest) →
        read depth ('"' :: content) = .ok (again, rest)) :
    Rereads read (printText value) 0 again := by
  refine rereads_flat (opens_cons _ rfl (by decide)) ?_
  intro depth rest _
  obtain ⟨content, quoted, read⟩ := readQuoted_printText value rest
  rw [quoted]
  exact reads depth rest content quoted read

/-- A text between brackets opens one level more than its content. -/
theorem rereads_bracketed
    {read : Nat → Reader α} {opening closing : Char} {content : List Char}
    {levels : Nat} {again : α} (visible : isBlank opening = false)
    (item : opening ≠ ']')
    (shallow : ∀ input, read 0 (opening :: input) = .error .malformed)
    (reads :
      ∀ depth rest,
        read (depth + 1) (opening :: (content ++ closing :: rest)) =
          if levels ≤ depth then .ok (again, rest) else .error .malformed) :
    Rereads read (opening :: (content ++ [closing])) (levels + 1) again := by
  refine ⟨opens_cons _ visible item, ?_⟩
  intro depth rest _
  rw [List.cons_append, List.append_assoc, List.singleton_append]
  cases depth with
  | zero => rw [shallow, if_neg (Nat.not_succ_le_zero levels)]
  | succ depth =>
      rw [reads]
      simp only [Nat.succ_le_succ_iff]

/-- A document whose numbers are read back from their own texts. -/
inductive Steady : Json → Prop where
  | null : Steady .null
  | boolean (value : Bool) : Steady (.boolean value)
  | number {number : Number} : number.ReadsBack → Steady (.number number)
  | text (value : String) : Steady (.text value)
  | array {items : List Json} :
      (∀ item ∈ items, Steady item) → Steady (.array items)
  | object {members : List (String × Json)} :
      (∀ member ∈ members, Steady member.2) → Steady (.object members)

theorem Steady.item
    {items : List Json} (steady : Steady (.array items)) :
    ∀ item ∈ items, item.Steady := by
  cases steady with
  | array each => exact each

theorem Steady.member
    {members : List (String × Json)} (steady : Steady (.object members)) :
    ∀ member ∈ members, member.2.Steady := by
  cases steady with
  | object each => exact each

/-! ## Beginnings of numbers -/

theorem ne_of_begins
    {first char : Char} (begins : first = '-' ∨ first.isDigit = true)
    (mark : char ≠ '-') (notDigit : char.isDigit = false) :
    first ≠ char := by
  rintro rfl
  rcases begins with sign | digit
  · exact mark sign
  · rw [notDigit] at digit
    cases digit

theorem isBlank_of_begins
    {first : Char} (begins : first = '-' ∨ first.isDigit = true) :
    isBlank first = false := by
  have space := ne_of_begins begins (show ' ' ≠ '-' by decide) (by decide)
  have tab := ne_of_begins begins (show '\t' ≠ '-' by decide) (by decide)
  have line := ne_of_begins begins (show '\n' ≠ '-' by decide) (by decide)
  have back := ne_of_begins begins (show '\r' ≠ '-' by decide) (by decide)
  simp [isBlank, space, tab, line, back]

theorem opens_of_begins
    {first : Char} (begins : first = '-' ∨ first.isDigit = true)
    (rest : List Char) :
    Opens (first :: rest) :=
  opens_cons rest (isBlank_of_begins begins)
    (ne_of_begins begins (by decide) (by decide))

/-! ## Values that last -/

namespace Codec

/--
The text of a value is accepted where the nesting of its document is allowed,
and gives the value back if the numbers in it are read back.
-/
def Lasts (codec : Codec α) (value : α) : Prop :=
  ∃ again,
    Rereads codec.read (codec.write value) (codec.toDocument value).nesting
        again ∧
      ((codec.toDocument value).Steady → again = value)

/-- The text of a value does not begin as that of null does. -/
def Shown (codec : Codec α) (value : α) : Prop :=
  (codec.write value).head? ≠ some 'n'

/--
Every value that is read lasts, and nests no deeper than its text might or
than so many levels.  Only from the text of null a value is read that is
written as null is.
-/
structure Lasting (codec : Codec α) (levels : Nat) : Prop where
  lasts : ∀ {depth : Nat} {value : α},
    codec.Yields depth value → codec.Lasts value
  fits : ∀ {depth : Nat} {value : α}, codec.Yields depth value →
    (codec.toDocument value).nesting ≤ max depth levels
  shown : ∀ {depth : Nat} {input rest : List Char} {value : α},
    codec.read depth input = .ok (value, rest) →
      (skipBlanks input).head? ≠ some 'n' → codec.Shown value

/-- Every value lasts, and nests no deeper than so many levels. -/
structure Total (codec : Codec α) (levels : Nat) : Prop where
  lasts : ∀ value, codec.Lasts value
  fits : ∀ value, (codec.toDocument value).nesting ≤ levels
  shown : ∀ value, codec.Shown value

theorem Total.lasting
    {codec : Codec α} {levels : Nat} (total : codec.Total levels) :
    codec.Lasting levels := by
  constructor
  · intro depth value _
    exact total.lasts value
  · intro depth value _
    exact Nat.le_trans (total.fits value) (Nat.le_max_right depth levels)
  · intro depth input rest value _ _
    exact total.shown value

theorem shown_cons
    {codec : Codec α} {value : α} {first : Char} {rest : List Char}
    (written : codec.write value = first :: rest) (different : first ≠ 'n') :
    codec.Shown value := by
  intro begins
  rw [written] at begins
  exact different (Option.some.inj begins)

/-! ## Texts, flags, whole numbers and names -/

theorem text_total (levels : Nat) : text.Total levels := by
  constructor
  · intro value
    exact ⟨value, rereads_printText fun _ _ _ _ read => read, fun _ => rfl⟩
  · intro value
    exact Nat.zero_le levels
  · intro value
    exact shown_cons rfl (by decide)

theorem flag_total (levels : Nat) : flag.Total levels := by
  constructor
  · intro value
    refine ⟨value, ?_, fun _ => rfl⟩
    cases value with
    | true =>
        exact rereads_flat (opens_cons _ rfl (by decide)) fun _ _ _ => rfl
    | false =>
        exact rereads_flat (opens_cons _ rfl (by decide)) fun _ _ _ => rfl
  · intro value
    exact Nat.zero_le levels
  · intro value
    cases value with
    | true => exact shown_cons rfl (by decide)
    | false => exact shown_cons rfl (by decide)

theorem integer_lasts
    {value : Int} (low : -0x8000000000000000 ≤ value)
    (high : value < 0x8000000000000000) :
    integer.Lasts value ∧ integer.Shown value := by
  obtain ⟨first, others, written, begins⟩ :=
    print_number_cons (.integer value)
  have text : integer.write value = first :: others := written
  constructor
  · refine ⟨value, ?_, fun _ => rfl⟩
    rw [text]
    refine rereads_flat (opens_of_begins begins others) ?_
    intro depth rest ends
    have back : readNumber (first :: (others ++ rest)) =
        .ok (.integer value, rest) := by
      rw [← List.cons_append, ← text]
      exact readNumber_printInteger low (by omega) ends
    unfold integer
    dsimp only
    rw [List.cons_append, skipBlanks_cons (isBlank_of_begins begins)]
    dsimp only
    rw [if_pos begins, back, ok_bind]
    dsimp only
    rw [show signedWord (.integer value) = .ok value from if_pos ⟨low, high⟩]
    rfl
  · exact shown_cons text (ne_of_begins begins (by decide) (by decide))

theorem integer_lasting (levels : Nat) : integer.Lasting levels := by
  have lasts : ∀ {depth input rest value},
      integer.read depth input = .ok (value, rest) →
        integer.Lasts value ∧ integer.Shown value := by
    intro depth input rest value read
    unfold integer at read
    dsimp only at read
    split at read
    · split at read
      · obtain ⟨⟨number, after⟩, _, read⟩ := bind_eq_ok.mp read
        obtain ⟨result, taken, same⟩ := bind_eq_ok.mp read
        cases same
        obtain ⟨low, high⟩ := signedWord_range taken
        exact integer_lasts low high
      · obtain ⟨_, _, never⟩ := bind_eq_ok.mp read
        cases never
    · cases read
  constructor
  · rintro depth value ⟨input, rest, read⟩
    exact (lasts read).1
  · intro depth value _
    exact Nat.zero_le _
  · intro depth input rest value read _
    exact (lasts read).2

section Parsed

variable {expected : String} {parse : String → Except Fault α}
  {print : α → String}

theorem parsed_lasts {value : α} (accepted : parse (print value) = .ok value) :
    (parsed expected parse print).Lasts value := by
  refine ⟨value, rereads_printText ?_, fun _ => rfl⟩
  intro depth rest content _ read
  show (readQuoted content >>= _) = _
  rw [read]
  show (parse (print value) >>= _) = _
  rw [accepted]
  rfl

theorem parsed_shown (value : α) : (parsed expected parse print).Shown value :=
  shown_cons rfl (by decide)

theorem parsed_total
    (accepts : ∀ value, parse (print value) = .ok value) (levels : Nat) :
    (parsed expected parse print).Total levels :=
  ⟨fun value => parsed_lasts (accepts value), fun _ => Nat.zero_le levels,
    parsed_shown⟩

theorem parsed_lasting
    (accepts :
      ∀ raw value, parse raw = .ok value → parse (print value) = .ok value)
    (levels : Nat) :
    (parsed expected parse print).Lasting levels := by
  constructor
  · rintro depth value ⟨input, rest, read⟩
    obtain ⟨⟨raw, after⟩, _, parsed⟩ := bind_eq_ok.mp read
    obtain ⟨result, accepted, same⟩ := bind_eq_ok.mp parsed
    cases same
    exact parsed_lasts (accepts raw value accepted)
  · intro depth value _
    exact Nat.zero_le _
  · intro depth input rest value _ _
    exact parsed_shown value

end Parsed

theorem choose_name
    {all : List α} {name : α → String} {value : α} (listed : value ∈ all)
    (own : ∀ other ∈ all, name other = name value → other = value) :
    choose all name (name value) = .ok value := by
  unfold choose
  cases found : all.find? fun other => name other == name value with
  | none =>
      have missed := List.find?_eq_none.mp found value listed
      simp at missed
  | some other =>
      have same : name other = name value := by
        simpa using List.find?_some found
      rw [own other (List.mem_of_find?_eq_some found) same]

/-- The names of a closed set that are all different. -/
theorem name_total
    {all : List α} {name : α → String} (listed : ∀ value, value ∈ all)
    (own : ∀ value ∈ all, ∀ other ∈ all, name other = name value →
      other = value)
    (levels : Nat) :
    (Codec.name all name).Total levels := by
  constructor
  · intro value
    refine ⟨value, rereads_printText ?_, fun _ => rfl⟩
    intro depth rest content _ read
    show (readQuoted content >>= _) = _
    rw [read]
    show (choose all name (name value) >>= _) = _
    rw [choose_name (listed value) (own value (listed value))]
    rfl
  · intro value
    exact Nat.zero_le levels
  · intro value
    exact shown_cons rfl (by decide)

/-! ## Values by way of others -/

section Imap

variable {codec : Codec α} {forward : α → β} {backward : β → α}

theorem imap_lasts
    {value : β} (back : forward (backward value) = value)
    (lasts : codec.Lasts (backward value)) :
    (codec.imap forward backward).Lasts value := by
  obtain ⟨again, ⟨opens, reads⟩, same⟩ := lasts
  refine ⟨forward again, ⟨opens, ?_⟩, ?_⟩
  · intro depth rest ends
    show (codec.read depth (codec.write (backward value) ++ rest) >>= _) = _
    rw [reads depth rest ends]
    show _ = if (codec.toDocument (backward value)).nesting ≤ depth then _
      else _
    split
    · rfl
    · rfl
  · intro steady
    rw [same steady, back]

theorem imap_total
    {levels : Nat} (back : ∀ value, forward (backward value) = value)
    (total : codec.Total levels) :
    (codec.imap forward backward).Total levels :=
  ⟨fun value => imap_lasts (back value) (total.lasts (backward value)),
    fun value => total.fits (backward value),
    fun value => total.shown (backward value)⟩

/--
A type whose values are made of others is lasting when making and taking apart
lose nothing.
-/
theorem imap_lasting
    {levels : Nat} (inverse : ∀ raw, backward (forward raw) = raw)
    (lasting : codec.Lasting levels) :
    (codec.imap forward backward).Lasting levels := by
  have read_imap : ∀ {depth input rest value},
      (codec.imap forward backward).read depth input = .ok (value, rest) →
        ∃ raw, codec.read depth input = .ok (raw, rest) ∧
          forward raw = value := by
    intro depth input rest value read
    obtain ⟨⟨raw, after⟩, first, same⟩ := bind_eq_ok.mp read
    cases same
    exact ⟨raw, first, rfl⟩
  constructor
  · rintro depth value ⟨input, rest, read⟩
    obtain ⟨raw, first, rfl⟩ := read_imap read
    apply imap_lasts
    · rw [inverse]
    · rw [inverse]
      exact lasting.lasts ⟨input, rest, first⟩
  · rintro depth value ⟨input, rest, read⟩
    obtain ⟨raw, first, rfl⟩ := read_imap read
    show (codec.toDocument (backward (forward raw))).nesting ≤ _
    rw [inverse]
    exact lasting.fits ⟨input, rest, first⟩
  · intro depth input rest value read visible
    obtain ⟨raw, first, rfl⟩ := read_imap read
    show codec.Shown (backward (forward raw))
    rw [inverse]
    exact lasting.shown first visible

end Imap

section Optional

variable {codec : Codec α}

theorem optional_none_lasts (codec : Codec α) : codec.optional.Lasts none :=
  ⟨none, rereads_flat (opens_cons _ rfl (by decide)) fun _ _ _ => rfl,
    fun _ => rfl⟩

/-- A text that does not begin as null does is read as a value. -/
theorem read_optional
    {input : List Char} (visible : (skipBlanks input).head? ≠ some 'n')
    (depth : Nat) :
    codec.optional.read depth input =
      (codec.read depth (skipBlanks input)).map
        fun result => (some result.1, result.2) := by
  unfold optional
  dsimp only
  split
  · next same =>
      rw [same] at visible
      exact absurd rfl visible
  · rfl

/--
A value that lasts does so where it may be null, unless it is written as null.
-/
theorem optional_some_lasts
    {value : α} (lasts : codec.Lasts value) (shown : codec.Shown value) :
    codec.optional.Lasts (some value) := by
  obtain ⟨again, ⟨opens, reads⟩, same⟩ := lasts
  refine ⟨some again, ⟨opens, ?_⟩, ?_⟩
  · intro depth rest ends
    have whole := opens.skipBlanks_append rest
    have visible :
        (skipBlanks (codec.write value ++ rest)).head? ≠ some 'n' := by
      rw [whole]
      obtain ⟨first, others, text, _⟩ := opens
      unfold Shown at shown
      rw [text] at shown ⊢
      exact shown
    show codec.optional.read depth (codec.write value ++ rest) = _
    rw [read_optional visible, whole, reads depth rest ends]
    show _ = if (codec.toDocument value).nesting ≤ depth then _ else _
    split
    · rfl
    · rfl
  · intro steady
    rw [same steady]

/-- What is read where null may stand is nothing or a value. -/
theorem cases_of_read_optional
    {depth : Nat} {input rest : List Char} {value : Option α}
    (read : codec.optional.read depth input = .ok (value, rest)) :
    ((skipBlanks input).head? = some 'n' ∧ value = none) ∨
      ((skipBlanks input).head? ≠ some 'n' ∧
        ∃ present, value = some present ∧
          codec.read depth (skipBlanks input) = .ok (present, rest)) := by
  by_cases begins : (skipBlanks input).head? = some 'n'
  · left
    refine ⟨begins, ?_⟩
    unfold optional at read
    dsimp only at read
    split at read
    · obtain ⟨_, _, same⟩ := map_eq_ok.mp read
      cases same
      rfl
    · next other =>
        obtain ⟨word, text⟩ := List.head?_eq_some_iff.mp begins
        exact absurd text (other word)
  · right
    refine ⟨begins, ?_⟩
    rw [read_optional begins] at read
    obtain ⟨⟨present, after⟩, first, same⟩ := map_eq_ok.mp read
    cases same
    exact ⟨present, rfl, first⟩

theorem optional_lasting
    {levels : Nat} (lasting : codec.Lasting levels) :
    codec.optional.Lasting levels := by
  constructor
  · rintro depth value ⟨input, rest, read⟩
    rcases cases_of_read_optional read with
      ⟨_, rfl⟩ | ⟨visible, present, rfl, first⟩
    · exact optional_none_lasts codec
    · rw [← skipBlanks_skipBlanks] at visible
      exact optional_some_lasts (lasting.lasts ⟨_, rest, first⟩)
        (lasting.shown first visible)
  · rintro depth value ⟨input, rest, read⟩
    rcases cases_of_read_optional read with
      ⟨_, rfl⟩ | ⟨_, present, rfl, first⟩
    · exact Nat.zero_le _
    · exact lasting.fits ⟨_, rest, first⟩
  · intro depth input rest value read visible
    rcases cases_of_read_optional read with
      ⟨begins, _⟩ | ⟨_, present, rfl, first⟩
    · exact absurd begins visible
    · rw [← skipBlanks_skipBlanks] at visible
      exact lasting.shown first visible

/-- Where all values of a codec last, so do those that may be null. -/
theorem Total.optional_lasts
    {levels : Nat} (total : codec.Total levels) (value : Option α) :
    codec.optional.Lasts value := by
  cases value with
  | none => exact optional_none_lasts codec
  | some present =>
      exact optional_some_lasts (total.lasts present) (total.shown present)

theorem Total.optional_fits
    {levels : Nat} (total : codec.Total levels) (value : Option α) :
    (codec.optional.toDocument value).nesting ≤ levels := by
  cases value with
  | none => exact Nat.zero_le levels
  | some present => exact total.fits present

end Optional

end Codec

end EventRelay.Json
