import EventRelay.Proofs.Json.Document

/-!
# The grammar of JSON texts

Here is what a value looks like as text, apart from what any reader makes of
it: the three words, numbers, texts between quotes, arrays and objects, with
blanks wherever they may stand.  Halves of a pair may be escaped alone, for the
grammar allows it.

The members of an object keep their order, their blanks and the spelling of
their keys, so an object can be written down again with its members in another
order, with more of them or with fewer.
-/

namespace EventRelay.Json

open EventRelay.Number

/-! ## Blanks -/

/-- A text of blanks only. -/
def Blank (text : List Char) : Prop :=
  ∀ char ∈ text, isBlank char = true

theorem blank_nil : Blank [] := by
  intro char member
  cases member

theorem Blank.append
    {left right : List Char} (first : Blank left) (second : Blank right) :
    Blank (left ++ right) := by
  intro char member
  rcases List.mem_append.mp member with before | behind
  · exact first char before
  · exact second char behind

theorem Blank.skipBlanks_append
    {blanks : List Char} (blank : Blank blanks) (rest : List Char) :
    skipBlanks (blanks ++ rest) = skipBlanks rest :=
  List.dropWhile_append_of_pos blank

theorem Blank.skipBlanks_cons
    {blanks : List Char} (blank : Blank blanks) {first : Char}
    (visible : isBlank first = false) (rest : List Char) :
    skipBlanks (blanks ++ first :: rest) = first :: rest := by
  rw [blank.skipBlanks_append, Json.skipBlanks_cons visible]

/-! ## Where a value may end -/

/--
A text in which a value may have ended: blanks, a comma or a closing bracket
follow, or nothing.
-/
def Halts (rest : List Char) : Prop :=
  ∀ char ∈ rest.head?,
    isBlank char = true ∨ char = ',' ∨ char = ']' ∨ char = '\x7d'

theorem Ends.halts {rest : List Char} (ends : Ends rest) : Halts rest :=
  fun char member => .inr (ends char member)

theorem Blank.halts_append
    {blanks rest : List Char} (blank : Blank blanks) (halts : Halts rest) :
    Halts (blanks ++ rest) := by
  cases blanks with
  | nil => exact halts
  | cons first blanks =>
      intro char member
      cases member
      exact .inl (blank first List.mem_cons_self)

/-- Where a value may end no number goes on. -/
theorem Halts.mark
    {rest : List Char} (halts : Halts rest) {char : Char}
    (member : char ∈ rest.head?) :
    char.isDigit = false ∧ char ≠ '.' ∧ ¬(char = 'e' ∨ char = 'E') := by
  rcases halts char member with blank | rfl | rfl | rfl
  · simp only [isBlank, Bool.or_eq_true, beq_iff_eq] at blank
    rcases blank with ((rfl | rfl) | rfl) | rfl <;> decide
  · decide
  · decide
  · decide

theorem Halts.stops {rest : List Char} (halts : Halts rest) : Stops rest :=
  fun _ member => (halts.mark member).1

/-! ## Texts and numbers -/

/-- What may stand between quotes. -/
inductive QuotedContent : List Char → Prop where
  | nil : QuotedContent []
  | plain {char : Char} {content : List Char} :
      char ≠ '"' → char ≠ '\\' → 0x20 ≤ char.toNat → QuotedContent content →
        QuotedContent (char :: content)
  | letter {letter : Char} {content : List Char} :
      (shortEscape? letter).isSome → QuotedContent content →
        QuotedContent ('\\' :: letter :: content)
  | unit {first second third fourth : Char} {content : List Char} :
      Text.isHex first → Text.isHex second → Text.isHex third →
        Text.isHex fourth → QuotedContent content →
          QuotedContent
            ('\\' :: 'u' :: first :: second :: third :: fourth :: content)

/-- The text that is spelled between quotes, if it is one. -/
def quotedValue? (content : List Char) : Option String :=
  ((readQuoted (content ++ ['"'])).map Prod.fst).toOption

/-- Digits of which there is at least one. -/
def Decimal (digits : List Char) : Prop :=
  digits ≠ [] ∧ ∀ char ∈ digits, char.isDigit = true

/-- An exponent, or none. -/
inductive ExponentText : List Char → Prop where
  | absent : ExponentText []
  | signed {mark : Char} {sign digits : List Char} :
      mark = 'e' ∨ mark = 'E' → sign ∈ [[], ['+'], ['-']] → Decimal digits →
        ExponentText (mark :: (sign ++ digits))

/-- A number after its sign. -/
inductive UnsignedText : List Char → Prop where
  | parts {whole exponent : List Char} {places : Option (List Char)} :
      Numeral whole → (∀ digits ∈ places, Decimal digits) →
        ExponentText exponent →
          UnsignedText (whole ++ placesText places ++ exponent)

/-! ## Values -/

/-- An item of an array with the blanks around it. -/
structure Item where
  before : List Char
  value : List Char
  after : List Char

/-- An item as it is written. -/
def Item.text (item : Item) : List Char :=
  item.before ++ item.value ++ item.after

/-- Blanks stand before and behind the value of an item. -/
structure Item.Spaced (item : Item) : Prop where
  before : Blank item.before
  after : Blank item.after

/-- A member of an object: its key as it is spelled, its value, and blanks. -/
structure Member where
  before : List Char
  key : List Char
  gap : List Char
  lead : List Char
  value : List Char
  after : List Char

namespace Member

/-- A member as it is written, with its quotes and its colon. -/
def text (member : Member) : List Char :=
  member.before ++ '"' :: (member.key ++ '"' ::
    (member.gap ++ ':' :: (member.lead ++ member.value ++ member.after)))

/-- The name that the key spells, if it spells one. -/
def name? (member : Member) : Option String :=
  quotedValue? member.key

/-- Blanks stand around the key and the value, and the key may be quoted. -/
structure Spaced (member : Member) : Prop where
  before : Blank member.before
  key : QuotedContent member.key
  gap : Blank member.gap
  lead : Blank member.lead
  after : Blank member.after

end Member

/-- An array of some items, with blanks before its end. -/
def arrayText (items : List Item) (fill : List Char) : List Char :=
  '[' :: (following true (items.map Item.text) ++ fill ++ [']'])

/-- An object of some members, with blanks before its end. -/
def objectText (members : List Member) (fill : List Char) : List Char :=
  '\x7b' :: (following true (members.map Member.text) ++ fill ++ ['\x7d'])

/-- The text of a value, without blanks around it. -/
inductive Valid : List Char → Prop where
  | null : Valid printNull
  | boolean (value : Bool) : Valid (printBoolean value)
  | unsigned {text : List Char} : UnsignedText text → Valid text
  | negative {text : List Char} : UnsignedText text → Valid ('-' :: text)
  | text {content : List Char} :
      QuotedContent content → Valid ('"' :: (content ++ ['"']))
  | array {items : List Item} {fill : List Char} :
      Blank fill → (∀ item ∈ items, item.Spaced) →
        (∀ item ∈ items, Valid item.value) → Valid (arrayText items fill)
  | object {members : List Member} {fill : List Char} :
      Blank fill → (∀ member ∈ members, member.Spaced) →
        (∀ member ∈ members, Valid member.value) →
          Valid (objectText members fill)

/-- A member that can stand in an object. -/
structure Member.Formed (member : Member) : Prop extends member.Spaced where
  value : Valid member.value

/-- A text that is an object of the given members, without blanks around it. -/
def IsObject (members : List Member) (text : List Char) : Prop :=
  (∀ member ∈ members, member.Formed) ∧
    ∃ fill, Blank fill ∧ text = objectText members fill

theorem IsObject.valid
    {members : List Member} {text : List Char}
    (object : IsObject members text) :
    Valid text := by
  obtain ⟨formed, fill, blank, rfl⟩ := object
  exact .object blank (fun member listed => (formed member listed).toSpaced)
    fun member listed => (formed member listed).value

/-! ## How values begin -/

theorem UnsignedText.begins {text : List Char} (number : UnsignedText text) :
    ∃ first others, text = first :: others ∧ first.isDigit = true := by
  obtain ⟨numeral, _, _⟩ := number
  obtain ⟨first, others, rfl, _⟩ := numeral.leading
  exact ⟨first, _, rfl, numeral.decimal first List.mem_cons_self⟩

theorem Valid.opens {text : List Char} (valid : Valid text) : Opens text := by
  cases valid with
  | null => exact opens_cons _ rfl (by decide)
  | boolean value =>
      cases value with
      | true => exact opens_cons _ rfl (by decide)
      | false => exact opens_cons _ rfl (by decide)
  | unsigned number =>
      obtain ⟨first, others, rfl, digit⟩ := number.begins
      exact opens_of_begins (.inr digit) others
  | negative number => exact opens_of_begins (.inl rfl) _
  | text content => exact opens_cons _ rfl (by decide)
  | array => exact opens_cons _ rfl (by decide)
  | object => exact opens_cons _ rfl (by decide)

/-- The first character of a value that is not blank is that of its text. -/
theorem Valid.skipBlanks_append
    {lead text : List Char} (valid : Valid text) (blank : Blank lead)
    (rest : List Char) :
    skipBlanks (lead ++ text ++ rest) = text ++ rest := by
  rw [List.append_assoc, blank.skipBlanks_append,
    valid.opens.skipBlanks_append]

/-! ## Texts of documents -/

/-- An item without blanks around it. -/
def Item.bare (value : List Char) : Item :=
  ⟨[], value, []⟩

theorem Item.bare_spaced (value : List Char) : (Item.bare value).Spaced :=
  ⟨blank_nil, blank_nil⟩

theorem Item.bare_text (value : List Char) : (Item.bare value).text = value :=
  List.append_nil value

/-- A member without blanks, its key as it is written. -/
def Member.bare (key : String) (value : List Char) : Member :=
  ⟨[], key.toList.flatMap escapedChar, [], [], value, []⟩

theorem Member.bare_text (key : String) (value : List Char) :
    (Member.bare key value).text = printMember key value := by
  simp [Member.text, Member.bare, printMember, printText]

theorem Member.bare_name? (key : String) (value : List Char) :
    (Member.bare key value).name? = some key := by
  show ((readQuoted _).map Prod.fst).toOption = _
  unfold Member.bare readQuoted
  dsimp only
  rw [scanQuoted_flatMap]
  show some (String.ofList key.toList) = _
  rw [String.ofList_toList]

theorem quotedContent_escapedChar
    (char : Char) {content : List Char} (quoted : QuotedContent content) :
    QuotedContent (escapedChar char ++ content) := by
  unfold escapedChar
  split
  · exact .letter rfl quoted
  · exact .letter rfl quoted
  · exact .letter rfl quoted
  · exact .letter rfl quoted
  · exact .letter rfl quoted
  · exact .letter rfl quoted
  · exact .letter rfl quoted
  · next notQuote notBackslash _ _ _ _ _ =>
      split
      · have hex : ∀ digit < 16, Text.isHex (Nat.digitChar digit) := by decide
        exact .unit rfl rfl (hex _ (by omega)) (hex _ (by omega)) quoted
      · next plain =>
          exact .plain notQuote notBackslash (Nat.le_of_not_lt plain) quoted

/-- What is written between quotes may stand there. -/
theorem quotedContent_flatMap (content : List Char) :
    QuotedContent (content.flatMap escapedChar) := by
  induction content with
  | nil => exact .nil
  | cons char content induction =>
      exact quotedContent_escapedChar char induction

theorem Member.bare_spaced (key : String) (value : List Char) :
    (Member.bare key value).Spaced :=
  ⟨blank_nil, quotedContent_flatMap key.toList, blank_nil, blank_nil, blank_nil⟩

theorem exponentText_valid (exponent : Option Int) :
    ExponentText (exponentText exponent) := by
  cases exponent with
  | none => exact .absent
  | some exponent =>
      obtain ⟨first, others, spelled, _⟩ := toDigits_cons exponent.natAbs
      have decimal : Decimal (Nat.toDigits 10 exponent.natAbs) :=
        ⟨spelled ▸ List.cons_ne_nil first others,
          fun _ member => isDigit_toDigits member⟩
      have signed : ∀ sign ∈ [['+'], ['-']],
          ExponentText ('e' :: (sign ++ Nat.toDigits 10 exponent.natAbs)) :=
        fun sign listed =>
          .signed (.inl rfl) (List.mem_cons_of_mem _ listed) decimal
      rw [exponentText]
      split
      · exact signed ['-'] (by decide)
      · exact signed ['+'] (by decide)

theorem Number.print_valid (amount : Number) : Valid amount.print := by
  obtain ⟨negative, parts, plain, text⟩ := print_plain amount
  have unsigned : UnsignedText parts.text :=
    .parts plain.whole plain.places (exponentText_valid parts.exponent)
  rw [text]
  cases negative with
  | true => exact .negative unsigned
  | false => exact .unsigned unsigned

/-- The written text of some members is an object of them. -/
theorem isObject_print
    {members : List (String × Json)}
    (valid : ∀ member ∈ members, Valid member.2.print) :
    IsObject (members.map fun member => Member.bare member.1 member.2.print)
      (print (.object members)) := by
  refine ⟨?_, [], blank_nil, ?_⟩
  · intro member listed
    obtain ⟨⟨key, value⟩, inside, rfl⟩ := List.mem_map.mp listed
    exact ⟨Member.bare_spaced key value.print, valid _ inside⟩
  · rw [print_object, objectText, List.map_map, List.append_nil]
    simp only [Function.comp_def, Member.bare_text]

mutual

/-- The text of a document is the text of a value. -/
theorem valid_print : (document : Json) → Valid document.print
  | .null => by
      rw [print]
      exact .null
  | .boolean value => by
      rw [print]
      exact .boolean value
  | .number amount => by
      rw [print]
      exact amount.print_valid
  | .text value => by
      rw [print]
      exact .text (quotedContent_flatMap value.toList)
  | .array items => by
      have array : Valid
          (arrayText (items.map fun item => Item.bare item.print) []) := by
        apply Valid.array blank_nil
        · intro item listed
          obtain ⟨inside, _, rfl⟩ := List.mem_map.mp listed
          exact Item.bare_spaced inside.print
        · intro item listed
          obtain ⟨inside, member, rfl⟩ := List.mem_map.mp listed
          exact valid_printItems items inside member
      rw [arrayText, List.map_map, List.append_nil] at array
      simp only [Function.comp_def, Item.bare_text] at array
      rw [print_array]
      exact array
  | .object members => (isObject_print (valid_printMembers members)).valid

theorem valid_printItems : (items : List Json) →
    ∀ item ∈ items, Valid item.print
  | [] => fun _ never => nomatch never
  | item :: items =>
      List.forall_mem_cons.mpr ⟨valid_print item, valid_printItems items⟩

theorem valid_printMembers : (members : List (String × Json)) →
    ∀ member ∈ members, Valid member.2.print
  | [] => fun _ never => nomatch never
  | (_, value) :: members =>
      List.forall_mem_cons.mpr ⟨valid_print value, valid_printMembers members⟩

end

end EventRelay.Json
