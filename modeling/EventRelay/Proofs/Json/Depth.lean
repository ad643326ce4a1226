import EventRelay.Proofs.Json.Printed

/-!
# How deep a text nests

How many arrays and objects are open at the deepest place of a text is told by
its characters alone: brackets and braces open and close, unless they stand
between quotes.  This count knows nothing of codecs or documents.

The text of a document nests as deep as the document, and what a codec writes
nests as deep as the document that it gives for the value.  Each piece of a
text is taken with whatever follows it, by the recursion of the piece.
-/

namespace EventRelay.Json

open EventRelay.Number

variable {α : Type}

/-! ## Counting open brackets -/

/-- Where in a text a character stands. -/
inductive Place where
  | outside
  | quoted
  /-- Behind a backslash between quotes. -/
  | escaped

/-- The place behind a character. -/
def Place.after : Place → Char → Place
  | .outside, '"' => .quoted
  | .outside, _ => .outside
  | .quoted, '"' => .outside
  | .quoted, '\\' => .escaped
  | .quoted, _ => .quoted
  | .escaped, _ => .quoted

/-- How many brackets are open behind a character. -/
def Place.opened : Place → Char → Nat → Nat
  | .outside, '[', opened => opened + 1
  | .outside, '\x7b', opened => opened + 1
  | .outside, ']', opened => opened - 1
  | .outside, '\x7d', opened => opened - 1
  | _, _, opened => opened

/-- The greatest number of brackets that are open anywhere in a text. -/
def deepest : Place → Nat → List Char → Nat
  | _, opened, [] => opened
  | place, opened, char :: rest =>
      max opened (deepest (place.after char) (place.opened char opened) rest)

/-- The number of arrays and objects open at the deepest place of a text. -/
def textNesting (text : String) : Nat :=
  deepest .outside 0 text.toList

theorem le_deepest (place : Place) (opened : Nat) (text : List Char) :
    opened ≤ deepest place opened text := by
  cases text with
  | nil => exact Nat.le_refl opened
  | cons char rest => exact Nat.le_max_left _ _

/-- A character that opens and closes nothing makes no place deeper. -/
theorem deepest_cons
    {place : Place} {char : Char} {opened : Nat}
    (same : place.opened char opened = opened) (rest : List Char) :
    deepest place opened (char :: rest) =
      deepest (place.after char) opened rest := by
  rw [deepest, same]
  exact Nat.max_eq_right (le_deepest _ opened rest)

/-! ## Pieces of a text -/

/--
A piece of a text that closes what it opens, and opens so many levels at its
deepest place.
-/
def Spans (text : List Char) (levels : Nat) : Prop :=
  ∀ opened rest,
    deepest .outside opened (text ++ rest) =
      max (opened + levels) (deepest .outside opened rest)

/-- Whether a count outside quotes heeds a character. -/
def isMark (char : Char) : Bool :=
  char == '"' || char == '[' || char == ']' || char == '\x7b' || char == '\x7d'

theorem spans_nil : Spans [] 0 :=
  fun opened rest => (Nat.max_eq_right (le_deepest _ opened rest)).symm

theorem Spans.append
    {first second : List Char} {left right : Nat} (here : Spans first left)
    (there : Spans second right) :
    Spans (first ++ second) (max left right) := by
  intro opened rest
  rw [List.append_assoc, here, there]
  omega

theorem deepest_plain
    {char : Char} (plain : isMark char = false) (opened : Nat)
    (rest : List Char) :
    deepest .outside opened (char :: rest) = deepest .outside opened rest := by
  simp only [isMark, Bool.or_eq_false_iff, beq_eq_false_iff_ne] at plain
  obtain ⟨⟨⟨⟨quote, opening⟩, closing⟩, left⟩, right⟩ := plain
  have outside : Place.outside.after char = .outside := by
    unfold Place.after
    split <;> first | rfl | contradiction
  have same : Place.outside.opened char opened = opened := by
    unfold Place.opened
    split <;> first | rfl | contradiction
  rw [deepest_cons same, outside]

/-- A text without marks opens nothing. -/
theorem spans_plain {text : List Char} (plain : text.any isMark = false) :
    Spans text 0 := by
  intro opened rest
  rw [Nat.add_zero, Nat.max_eq_right (le_deepest _ opened rest)]
  induction text with
  | nil => rfl
  | cons char text induction =>
      rw [List.any_cons, Bool.or_eq_false_iff] at plain
      rw [List.cons_append, deepest_plain plain.1, induction plain.2]

theorem spans_digits
    {digits : List Char} (decimal : ∀ char ∈ digits, char.isDigit = true) :
    Spans digits 0 := by
  apply spans_plain
  rw [List.any_eq_false]
  intro char member mark
  have digit := decimal char member
  simp only [isMark, Bool.or_eq_true, beq_iff_eq] at mark
  rcases mark with (((rfl | rfl) | rfl) | rfl) | rfl <;> cases digit

/-- What stands in brackets is one level deeper. -/
theorem Spans.bracketed
    {text : List Char} {levels : Nat} (spans : Spans text levels)
    {opening closing : Char}
    (brackets :
      opening = '[' ∧ closing = ']' ∨
        opening = '\x7b' ∧ closing = '\x7d') :
    Spans (opening :: (text ++ [closing])) (levels + 1) := by
  intro opened rest
  have inner := spans (opened + 1) (closing :: rest)
  have whole :
      deepest .outside opened (opening :: (text ++ closing :: rest)) =
        max opened
          (deepest .outside (opened + 1) (text ++ closing :: rest)) := by
    rcases brackets with ⟨rfl, rfl⟩ | ⟨rfl, rfl⟩
    · rfl
    · rfl
  have closed :
      deepest .outside (opened + 1) (closing :: rest) =
        max (opened + 1) (deepest .outside opened rest) := by
    rcases brackets with ⟨rfl, rfl⟩ | ⟨rfl, rfl⟩
    · rfl
    · rfl
  rw [List.cons_append, List.append_assoc, List.singleton_append, whole, inner,
    closed]
  omega

/-! ## Texts between quotes -/

/-- An escape of one letter does not end the quotes. -/
theorem deepest_letter (opened : Nat) (letter : Char) (rest : List Char) :
    deepest .quoted opened ('\\' :: letter :: rest) =
      deepest .quoted opened rest :=
  (deepest_cons rfl _).trans (deepest_cons rfl _)

/-- Between quotes only a quote and a backslash have a meaning. -/
theorem deepest_quoted
    (opened : Nat) {char : Char} (notQuote : char ≠ '"')
    (notBackslash : char ≠ '\\') (rest : List Char) :
    deepest .quoted opened (char :: rest) = deepest .quoted opened rest := by
  have inside : Place.quoted.after char = .quoted := by
    unfold Place.after
    split <;> first | rfl | contradiction
  exact (deepest_cons rfl rest).trans (by rw [inside])

private theorem digitChar_quoted :
    ∀ code < 16,
      Nat.digitChar code ≠ '"' ∧ Nat.digitChar code ≠ '\\' := by
  decide

/-- A character that is written between quotes neither opens nor closes. -/
theorem deepest_escapedChar (opened : Nat) (char : Char) (rest : List Char) :
    deepest .quoted opened (escapedChar char ++ rest) =
      deepest .quoted opened rest := by
  unfold escapedChar
  split
  · exact deepest_letter opened _ rest
  · exact deepest_letter opened _ rest
  · exact deepest_letter opened _ rest
  · exact deepest_letter opened _ rest
  · exact deepest_letter opened _ rest
  · exact deepest_letter opened _ rest
  · exact deepest_letter opened _ rest
  · next notQuote notBackslash _ _ _ _ _ =>
      split
      · next control =>
          have first := digitChar_quoted (char.toNat / 16) (by omega)
          have second := digitChar_quoted (char.toNat % 16) (by omega)
          refine (deepest_letter opened _ _).trans ?_
          refine (deepest_quoted opened (by decide) (by decide) _).trans ?_
          refine (deepest_quoted opened (by decide) (by decide) _).trans ?_
          refine (deepest_quoted opened first.1 first.2 _).trans ?_
          exact deepest_quoted opened second.1 second.2 _
      · exact deepest_quoted opened notQuote notBackslash rest

theorem spans_printText (value : String) : Spans (printText value) 0 := by
  intro opened rest
  have content (chars : List Char) :
      deepest .quoted opened (chars.flatMap escapedChar ++ '"' :: rest) =
        deepest .outside opened rest := by
    induction chars with
    | nil => exact deepest_cons rfl rest
    | cons char chars induction =>
        rw [List.flatMap_cons, List.append_assoc, deepest_escapedChar,
          induction]
  have quoted :
      printText value ++ rest =
        '"' :: (value.toList.flatMap escapedChar ++ '"' :: rest) := by
    simp [printText]
  rw [quoted, Nat.add_zero, Nat.max_eq_right (le_deepest _ opened rest)]
  exact (deepest_cons rfl _).trans (content value.toList)

/-! ## Numbers and words -/

theorem spans_parts {parts : NumberParts} (plain : parts.Plain) :
    Spans parts.text 0 := by
  have places : Spans (placesText parts.places) 0 := by
    cases given : parts.places with
    | none => exact spans_nil
    | some digits =>
        have point : Spans ['.'] 0 := spans_plain rfl
        exact point.append (spans_digits (plain.places digits given).2)
  have exponent : Spans (exponentText parts.exponent) 0 := by
    cases parts.exponent with
    | none => exact spans_nil
    | some exponent =>
        have mark : Spans ['e', if exponent < 0 then '-' else '+'] 0 := by
          split
          · exact spans_plain rfl
          · exact spans_plain rfl
        exact mark.append (spans_digits fun _ => isDigit_toDigits)
  exact ((spans_digits plain.whole.decimal).append places).append exponent

theorem spans_number (amount : Number) : Spans amount.print 0 := by
  have sign (negative : Bool) : Spans (signText negative) 0 := by
    cases negative with
    | true => exact spans_plain rfl
    | false => exact spans_nil
  obtain ⟨negative, parts, plain, text⟩ := print_plain amount
  rw [text]
  exact (sign negative).append (spans_parts plain)

theorem spans_null : Spans printNull 0 :=
  spans_plain rfl

theorem spans_boolean (value : Bool) : Spans (printBoolean value) 0 := by
  cases value with
  | true => exact spans_plain rfl
  | false => exact spans_plain rfl

/-! ## Documents -/

theorem spans_member
    (key : String) {text : List Char} {levels : Nat}
    (spans : Spans text levels) :
    Spans (printMember key text) levels := by
  have colon : Spans [':'] 0 := spans_plain rfl
  have whole := ((spans_printText key).append colon).append spans
  rw [Nat.max_self, Nat.zero_max, List.append_assoc] at whole
  exact whole

/-- A part between commas, with those behind it. -/
theorem spans_following_cons
    {part : List Char} {parts : List (List Char)} {here there : Nat}
    (first : Bool) (spans : Spans part here)
    (others : Spans (following false parts) there) :
    Spans (following first (part :: parts)) (max here there) := by
  have comma : Spans (commaText first) 0 := by
    cases first with
    | true => exact spans_nil
    | false => exact spans_plain rfl
  have whole := (comma.append spans).append others
  rw [Nat.zero_max] at whole
  rw [following_cons]
  exact whole

theorem spans_following_nil (first : Bool) : Spans (following first []) 0 := by
  cases first with
  | true => exact spans_nil
  | false => exact spans_nil

mutual

/-- The text of a document nests as deep as the document. -/
theorem spans_print : (document : Json) →
    Spans document.print document.nesting
  | .null => spans_null
  | .boolean value => spans_boolean value
  | .number amount => by
      rw [nesting_number, print]
      exact spans_number amount
  | .text value => spans_printText value
  | .array items => by
      rw [print, nesting]
      exact (spans_printItems true items).bracketed (.inl ⟨rfl, rfl⟩)
  | .object members => by
      rw [print, nesting]
      exact (spans_printMembers true members).bracketed (.inr ⟨rfl, rfl⟩)

theorem spans_printItems (first : Bool) : (items : List Json) →
    Spans (following first (printItems items)) (nestingOfItems items)
  | [] => spans_following_nil first
  | item :: items =>
      spans_following_cons first (spans_print item)
        (spans_printItems false items)

theorem spans_printMembers (first : Bool) : (members : List (String × Json)) →
    Spans (following first (printMembers members)) (nestingOfMembers members)
  | [] => spans_following_nil first
  | (key, value) :: members =>
      spans_following_cons first (spans_member key (spans_print value))
        (spans_printMembers false members)

end

/-! ## Codecs -/

/-- The text of a value nests as deep as its document. -/
theorem Codec.Printed.textNesting
    {codec : Codec α} (printed : codec.Printed) (value : α) :
    textNesting (codec.encode value) = (codec.toDocument value).nesting := by
  obtain ⟨document, written, nested⟩ := printed value
  have whole := spans_print document 0 []
  rw [List.append_nil, Nat.zero_add, nested] at whole
  unfold Json.textNesting encode
  rw [String.toList_ofList, written, whole]
  exact Nat.max_zero _

end EventRelay.Json
