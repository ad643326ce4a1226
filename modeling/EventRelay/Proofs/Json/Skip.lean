import EventRelay.Proofs.Json.Grammar
import EventRelay.Proofs.Json.Printed

/-!
# Values that are skipped as a whole

What an unknown member holds is passed without being read.  Every text of the
grammar is passed up to its end, wherever a value may end: however deep it
nests, however large its numbers are, and with halves of a pair that stand
alone.  So nothing inside it is taken for something that stands behind it.

A skip keeps the brackets that are open in a list.  What it passes leaves the
list as it was, and takes at most two steps for every character; this is what
the fuel of a skip allows for.
-/

namespace EventRelay.Json

open EventRelay.Number

variable {α : Type}

/-! ## Escapes by number -/

/-- Every character has at least one byte. -/
theorem holdsBytes_of_le_length
    {needed : Nat} {input : List Char} (enough : needed ≤ input.length) :
    holdsBytes needed input = true := by
  induction input generalizing needed with
  | nil =>
      obtain rfl := Nat.le_zero.mp enough
      rfl
  | cons char input induction =>
      cases needed with
      | zero => rfl
      | succ needed =>
          have size := char.utf8Size_pos
          rw [List.length_cons] at enough
          exact induction (by omega)

/-- What a scan does with a unit, depending on what waits for it. -/
def afterUnit
    (paired : Bool) (pending : Option Nat) (unit : Nat) (input : List Char) :
    Except Fault (List Char × List Char) :=
  match escapedUnit unit pending, paired with
  | .char meant, _ => prepend meant (scanQuoted paired .plain input)
  | .firstHalf first, true => scanQuoted paired (.half first) input
  | .unpaired, true => .error .malformed
  | _, false => prepend '\uFFFD' (scanQuoted paired .plain input)

/-- Where halves of a pair may stand alone, every unit is a character. -/
theorem afterUnit_unpaired
    (pending : Option Nat) (unit : Nat) (input : List Char) :
    ∃ meant, afterUnit false pending unit input =
      prepend meant (scanQuoted false .plain input) := by
  unfold afterUnit
  split
  · exact ⟨_, rfl⟩
  · contradiction
  · contradiction
  · exact ⟨_, rfl⟩

/--
An escape by number stands for a unit, both between characters and where the
second half of a pair is awaited.
-/
theorem scanQuoted_escaped
    {first second third fourth : Char} (hexFirst : Text.isHex first)
    (hexSecond : Text.isHex second) (hexThird : Text.isHex third)
    (hexFourth : Text.isHex fourth) :
    ∃ unit, ∀ paired input,
      scanQuoted paired .plain
          ('\\' :: 'u' :: first :: second :: third :: fourth :: input) =
        afterUnit paired none unit input ∧
      ∀ half, scanQuoted paired (.half half)
          ('\\' :: 'u' :: first :: second :: third :: fourth :: input) =
        afterUnit paired (some half) unit input := by
  obtain ⟨one, hexFirst⟩ := Option.isSome_iff_exists.mp hexFirst
  obtain ⟨two, hexSecond⟩ := Option.isSome_iff_exists.mp hexSecond
  obtain ⟨three, hexThird⟩ := Option.isSome_iff_exists.mp hexThird
  obtain ⟨four, hexFourth⟩ := Option.isSome_iff_exists.mp hexFourth
  refine ⟨(((0 * 16 + one) * 16 + two) * 16 + three) * 16 + four, ?_⟩
  intro paired input
  have enough :
      holdsBytes 4 (first :: second :: third :: fourth :: input) = true :=
    holdsBytes_of_le_length (by simp)
  have digits : ∀ pending,
      scanQuoted paired (.hex 0 0 pending)
          (first :: second :: third :: fourth :: input) =
        afterUnit paired pending
          ((((0 * 16 + one) * 16 + two) * 16 + three) * 16 + four) input := by
    intro pending
    simp only [scanQuoted, hexFirst, hexSecond, hexThird, hexFourth]
    rfl
  constructor
  · rw [scanQuoted, if_neg (by decide), if_pos rfl, scanQuoted, if_pos rfl,
      if_pos enough, digits]
  · intro half
    rw [scanQuoted, if_pos rfl, scanQuoted, if_pos rfl, if_pos enough, digits]

/-! ## Texts and numbers -/

theorem skipDigits_append
    {digits rest : List Char} (some : digits ≠ [])
    (decimal : ∀ char ∈ digits, char.isDigit = true) (stops : Stops rest) :
    skipDigits (digits ++ rest) = .ok rest := by
  unfold skipDigits
  rw [spanDigits_append decimal stops]
  cases digits with
  | nil => exact absurd rfl some
  | cons first digits => rfl

/-- Passes what may stand behind the digits before the point of a number. -/
def skipPlaces (input : List Char) : Except Fault (List Char) :=
  match input with
  | '.' :: rest => skipDigits rest >>= skipExponent
  | rest => skipExponent rest

theorem skipPlaces_append
    {places : Option (List Char)} {rest after : List Char}
    (plain :
      ∀ digits ∈ places, digits ≠ [] ∧ ∀ char ∈ digits, char.isDigit = true)
    (stops : Stops rest) (noPoint : rest.head? ≠ some '.')
    (exponent : skipExponent rest = .ok after) :
    skipPlaces (placesText places ++ rest) = .ok after := by
  cases places with
  | none =>
      show skipPlaces rest = _
      unfold skipPlaces
      split
      · exact absurd rfl noPoint
      · exact exponent
  | some digits =>
      obtain ⟨some, decimal⟩ := plain digits rfl
      show skipDigits (digits ++ rest) >>= skipExponent = _
      rw [skipDigits_append some decimal stops, ok_bind, exponent]

/-- Passing the digits before the point leaves what stands behind them. -/
theorem skipNumber_whole
    {whole rest : List Char} (numeral : Numeral whole) (stops : Stops rest) :
    skipNumber (whole ++ rest) = skipPlaces rest := by
  obtain ⟨first, others, rfl, alone⟩ := numeral.leading
  by_cases zero : first = '0'
  · obtain rfl := alone zero
    subst zero
    cases rest with
    | nil => rfl
    | cons next rest =>
        have mark : next.isDigit = false := stops next rfl
        unfold skipNumber
        simp only [List.cons_append, List.nil_append, mark, Bool.false_eq_true,
          if_false]
        rfl
  · have digits :=
      skipDigits_append (List.cons_ne_nil first others) numeral.decimal stops
    unfold skipNumber
    split
    · next same => exact absurd (List.cons.inj same).1 zero
    · rw [digits]
      rfl

/-- What stands between quotes is passed up to the closing quote. -/
theorem QuotedContent.skipQuoted
    {content : List Char} (quoted : QuotedContent content) (rest : List Char) :
    skipQuoted (content ++ '"' :: rest) = .ok rest := by
  have scanned : ∃ passed,
      scanQuoted false .plain (content ++ '"' :: rest) =
        .ok (passed, rest) := by
    induction quoted with
    | nil => exact ⟨[], by rw [List.nil_append, scanQuoted, if_pos rfl]⟩
    | @plain char content quote backslash control _ induction =>
        obtain ⟨passed, scanned⟩ := induction
        refine ⟨char :: passed, ?_⟩
        rw [List.cons_append, scanQuoted, if_neg quote, if_neg backslash,
          if_neg (Nat.not_lt.mpr control), scanned]
        rfl
    | @letter letter content short _ induction =>
        obtain ⟨passed, scanned⟩ := induction
        obtain ⟨meant, short⟩ := Option.isSome_iff_exists.mp short
        have other : letter ≠ 'u' := by
          rintro rfl
          cases short
        refine ⟨meant :: passed, ?_⟩
        rw [List.cons_append, List.cons_append, scanQuoted_letter other short,
          scanned]
        rfl
    | unit first second third fourth _ induction =>
        obtain ⟨passed, scanned⟩ := induction
        obtain ⟨unit, escaped⟩ := scanQuoted_escaped first second third fourth
        obtain ⟨meant, alone⟩ := afterUnit_unpaired none unit (_ ++ '"' :: rest)
        refine ⟨meant :: passed, ?_⟩
        simp only [List.cons_append]
        rw [(escaped false _).1, alone, scanned]
        rfl
  obtain ⟨passed, scanned⟩ := scanned
  unfold Json.skipQuoted
  rw [scanned]
  rfl

/-- An exponent is passed where a value may end behind it. -/
theorem ExponentText.skipExponent
    {exponent rest : List Char} (text : ExponentText exponent)
    (halts : Halts rest) :
    skipExponent (exponent ++ rest) = .ok rest := by
  cases text with
  | absent =>
      show Json.skipExponent rest = _
      unfold Json.skipExponent
      cases rest with
      | nil => rfl
      | cons char rest => exact if_neg (halts.mark rfl).2.2
  | @signed mark sign digits begins signs decimal =>
      have passed := skipDigits_append decimal.1 decimal.2 halts.stops
      have unsigned : ∀ char others, digits = char :: others →
          char ≠ '+' ∧ char ≠ '-' := by
        rintro char others rfl
        have digit := decimal.2 char List.mem_cons_self
        constructor
        · rintro rfl
          cases digit
        · rintro rfl
          cases digit
      unfold Json.skipExponent
      rw [List.cons_append, List.append_assoc]
      dsimp only
      rw [if_pos begins]
      simp only [List.mem_cons, List.not_mem_nil, or_false] at signs
      rcases signs with rfl | rfl | rfl
      · obtain ⟨char, others, rfl⟩ := List.exists_cons_of_ne_nil decimal.1
        obtain ⟨plus, minus⟩ := unsigned char others rfl
        rw [List.nil_append, List.cons_append]
        split
        · next same => exact absurd (List.cons.inj same).1 plus
        · next same => exact absurd (List.cons.inj same).1 minus
        · exact passed
      · exact passed
      · exact passed

/-- Neither digits nor a point follow the digits of a number. -/
theorem ExponentText.follows
    {exponent rest : List Char} (text : ExponentText exponent)
    (halts : Halts rest) :
    Stops (exponent ++ rest) ∧ (exponent ++ rest).head? ≠ some '.' := by
  cases text with
  | absent => exact ⟨halts.stops, fun point => (halts.mark point).2.1 rfl⟩
  | @signed mark sign digits begins _ _ =>
      rcases begins with rfl | rfl
      · exact ⟨stops_cons rfl _, by simp⟩
      · exact ⟨stops_cons rfl _, by simp⟩

theorem UnsignedText.skipNumber
    {text rest : List Char} (number : UnsignedText text) (halts : Halts rest) :
    skipNumber (text ++ rest) = .ok rest := by
  obtain ⟨numeral, decimal, exponent⟩ := number
  obtain ⟨stops, noPoint⟩ := exponent.follows halts
  rw [List.append_assoc, List.append_assoc,
    skipNumber_whole numeral (stops_placesText _ stops)]
  exact skipPlaces_append decimal stops noPoint (exponent.skipExponent halts)

/-! ## Blanks between the parts -/

theorem skipMark_blanks
    {blanks : List Char} (blank : Blank blanks) {mark : Char}
    (visible : isBlank mark = false) (rest : List Char) :
    skipMark mark (blanks ++ mark :: rest) = .ok rest := by
  unfold skipMark
  rw [blank.skipBlanks_cons visible]
  exact if_pos rfl

theorem skipFrom_beforeValue
    {blanks : List Char} (blank : Blank blanks) (fuel : Nat)
    (brackets : List Bracket) (input : List Char) :
    skipFrom fuel .beforeValue brackets (blanks ++ input) =
      skipFrom fuel .beforeValue brackets input := by
  cases fuel with
  | zero => rfl
  | succ fuel => rw [skipFrom, skipFrom, blank.skipBlanks_append]

theorem bracket_closing (bracket : Bracket) :
    isBlank bracket.closing = false ∧ bracket.closing ≠ ',' ∧
      (bracket.closing = ']' ∨ bracket.closing = '\x7d') := by
  cases bracket with
  | array => exact ⟨rfl, by decide, .inl rfl⟩
  | object => exact ⟨rfl, by decide, .inr rfl⟩

/-- Behind a part stand blanks and a comma or the closing bracket. -/
theorem halts_following
    {after fill : List Char} (blankAfter : Blank after) (blankFill : Blank fill)
    (parts : List (List Char)) {closing : Char}
    (bracket : closing = ']' ∨ closing = '\x7d') (rest : List Char) :
    Halts (after ++ (following false parts ++ (fill ++ closing :: rest))) := by
  apply blankAfter.halts_append
  cases parts with
  | nil =>
      apply blankFill.halts_append
      intro char member
      cases member
      exact .inr (.inr bracket)
  | cons part parts =>
      intro char member
      cases member
      exact .inr (.inl rfl)

/-! ## Steps of a skip -/

/-- The character that opens a bracket. -/
def Bracket.opening : Bracket → Char
  | .array => '['
  | .object => '\x7b'

/-- Where a skip stands before the first part in a bracket or behind a part. -/
def partPlace (first : Bool) : SkipPlace :=
  if first then .afterOpening else .afterValue

/-- Either the first part or a later one has a comma before it. -/
theorem length_commaText (first : Bool) :
    (commaText first).length + (commaText !first).length = 1 := by
  cases first with
  | true => rfl
  | false => rfl

/-- A text that is passed as one value, wherever a value may end. -/
def Ignored (text : List Char) : Prop :=
  ∃ steps ≤ 2 * text.length, ∀ fuel brackets rest, Halts rest →
    skipFrom (fuel + steps) .beforeValue brackets (text ++ rest) =
      skipFrom fuel .afterValue brackets rest

/--
A part between commas inside a bracket: a value behind its key, if there is
one, with blanks around it.
-/
structure PartOf
    (bracket : Bracket) (part value behind : List Char) : Prop where
  shorter : value.length + behind.length ≤ part.length
  blank : Blank behind
  opens : ∃ before first others, part = before ++ first :: others ∧
    Blank before ∧ isBlank first = false ∧ first ≠ bracket.closing ∧
      ∀ blanks rest, Blank blanks → ∃ lead, Blank lead ∧
        skipKey bracket (blanks ++ first :: (others ++ rest)) =
          .ok (lead ++ (value ++ (behind ++ rest)))

/-- One step leads to the value of the next part. -/
theorem PartOf.skipFrom
    {bracket : Bracket} {part value behind : List Char}
    (of : PartOf bracket part value behind) (first : Bool) (fuel : Nat)
    (brackets : List Bracket) {blanks : List Char} (blank : Blank blanks)
    (rest : List Char) :
    skipFrom (fuel + 1) (partPlace first) (bracket :: brackets)
        (blanks ++ (commaText first ++ part ++ rest)) =
      skipFrom fuel .beforeValue (bracket :: brackets)
        (value ++ (behind ++ rest)) := by
  obtain ⟨before, char, others, rfl, blankBefore, visible, inside, key⟩ :=
    of.opens
  cases first with
  | false =>
      obtain ⟨lead, blankLead, passed⟩ := key before rest blankBefore
      have whole : blanks ++ (commaText false ++ (before ++ char :: others) ++
          rest) = blanks ++ ',' :: (before ++ char :: (others ++ rest)) := by
        simp [commaText]
      show Json.skipFrom (fuel + 1) .afterValue _ _ = _
      rw [whole, Json.skipFrom, blank.skipBlanks_cons rfl]
      dsimp only
      rw [if_pos rfl, passed, ok_bind, skipFrom_beforeValue blankLead]
  | true =>
      obtain ⟨lead, blankLead, passed⟩ := key [] rest blank_nil
      have whole : blanks ++ (commaText true ++ (before ++ char :: others) ++
          rest) = (blanks ++ before) ++ char :: (others ++ rest) := by
        simp [commaText]
      rw [List.nil_append] at passed
      show Json.skipFrom (fuel + 1) .afterOpening _ _ = _
      rw [whole, Json.skipFrom,
        (blank.append blankBefore).skipBlanks_cons visible]
      dsimp only
      rw [if_neg inside, passed, ok_bind, skipFrom_beforeValue blankLead]

/-- One step passes the closing bracket. -/
theorem skipFrom_closing_blanks
    (bracket : Bracket) (first : Bool) (fuel : Nat) (brackets : List Bracket)
    {blanks : List Char} (blank : Blank blanks) (rest : List Char) :
    skipFrom (fuel + 1) (partPlace first) (bracket :: brackets)
        (blanks ++ bracket.closing :: rest) =
      skipFrom fuel .afterValue brackets rest := by
  obtain ⟨visible, noComma, _⟩ := bracket_closing bracket
  cases first with
  | false =>
      show skipFrom (fuel + 1) .afterValue _ _ = _
      rw [skipFrom, blank.skipBlanks_cons visible]
      dsimp only
      rw [if_neg noComma, if_pos rfl]
  | true =>
      show skipFrom (fuel + 1) .afterOpening _ _ = _
      rw [skipFrom, blank.skipBlanks_cons visible]
      dsimp only
      rw [if_pos rfl]

/-- All parts in a bracket are passed, and the closing bracket with them. -/
theorem ignored_following
    {bracket : Bracket} {parts : List (List Char)} {fill : List Char}
    (each : ∀ part ∈ parts,
      ∃ value behind, PartOf bracket part value behind ∧ Ignored value)
    (blankFill : Blank fill) (first : Bool) :
    ∃ steps ≤
        2 * (following first parts).length + 1 + (commaText !first).length,
      ∀ fuel brackets blanks rest, Blank blanks →
        skipFrom (fuel + steps) (partPlace first) (bracket :: brackets)
            (blanks ++
              (following first parts ++ (fill ++ bracket.closing :: rest))) =
          skipFrom fuel .afterValue brackets rest := by
  induction parts generalizing first with
  | nil =>
      refine ⟨1, by omega, ?_⟩
      intro fuel brackets blanks rest blank
      have none : following first [] = [] := by
        cases first with
        | false => rfl
        | true => rfl
      rw [none, List.nil_append, ← List.append_assoc]
      exact skipFrom_closing_blanks bracket first fuel brackets
        (blank.append blankFill) rest
  | cons part parts induction =>
      obtain ⟨here, others⟩ := List.forall_mem_cons.mp each
      obtain ⟨value, behind, of, steps, few, passes⟩ := here
      obtain ⟨later, laterFew, closes⟩ := induction others false
      refine ⟨later + steps + 1, ?_, ?_⟩
      · have one := length_commaText first
        have none : (commaText !false).length = 0 := rfl
        have shorter := of.shorter
        rw [following_cons, List.length_append, List.length_append]
        omega
      · intro fuel brackets blanks rest blank
        have halts := halts_following of.blank blankFill parts
          (bracket_closing bracket).2.2 rest
        rw [following_cons, List.append_assoc]
        rw [show fuel + (later + steps + 1) = fuel + later + steps + 1 by omega,
          of.skipFrom first _ _ blank, passes _ _ _ halts]
        exact closes fuel brackets behind rest of.blank

/-- What stands in a bracket is passed with it. -/
theorem ignored_bracketed
    (bracket : Bracket) {parts : List (List Char)} {fill : List Char}
    (each : ∀ part ∈ parts,
      ∃ value behind, PartOf bracket part value behind ∧ Ignored value)
    (blankFill : Blank fill) :
    Ignored (bracket.opening ::
      (following true parts ++ fill ++ [bracket.closing])) := by
  obtain ⟨steps, few, passes⟩ := ignored_following each blankFill true
  refine ⟨steps + 1, ?_, ?_⟩
  · rw [List.length_cons, List.length_append, List.length_append,
      List.length_singleton]
    have one : (commaText !true).length = 1 := rfl
    omega
  · intro fuel brackets rest _
    have opened : ∀ input,
        skipFrom (fuel + steps + 1) .beforeValue brackets
            (bracket.opening :: input) =
          skipFrom (fuel + steps) .afterOpening (bracket :: brackets)
            input := by
      intro input
      cases bracket with
      | array => rfl
      | object => rfl
    rw [List.cons_append, List.append_assoc, List.append_assoc,
      List.singleton_append, ← Nat.add_assoc, opened]
    exact passes fuel brackets [] rest blank_nil

/-! ## Values -/

/-- What is no bracket is passed in one step. -/
theorem ignored_scalar
    {first : Char} {others : List Char} (visible : isBlank first = false)
    (array : first ≠ '[') (object : first ≠ '\x7b')
    (passed :
      ∀ rest, Halts rest → skipScalar first (others ++ rest) = .ok rest) :
    Ignored (first :: others) := by
  refine ⟨1, by rw [List.length_cons]; omega, ?_⟩
  intro fuel brackets rest halts
  rw [List.cons_append, skipFrom, skipBlanks_cons visible]
  split
  · next same => cases same
  · next same => exact absurd (List.cons.inj same).1 array
  · next same => exact absurd (List.cons.inj same).1 object
  · next same =>
      cases same
      exact congrArg (· >>= _) (passed rest halts)

theorem UnsignedText.ignored {text : List Char} (number : UnsignedText text) :
    Ignored text := by
  obtain ⟨first, others, rfl, digit⟩ := number.begins
  have begins : first = '-' ∨ first.isDigit = true := .inr digit
  refine ignored_scalar (isBlank_of_begins begins)
    (ne_of_begins begins (by decide) (by decide))
    (ne_of_begins begins (by decide) (by decide)) ?_
  intro rest halts
  have passed := number.skipNumber halts
  unfold skipScalar
  split
  · cases digit
  · cases digit
  · cases digit
  · cases digit
  · cases digit
  · rw [if_pos digit]
    exact passed

/-- An item of an array is a part of it. -/
theorem Item.Spaced.partOf
    {item : Item} (spaced : item.Spaced) (opens : Opens item.value) :
    PartOf .array item.text item.value item.after := by
  obtain ⟨first, others, begins, visible, inside⟩ := opens
  refine ⟨?_, spaced.after, item.before, first, others ++ item.after, ?_,
    spaced.before, visible, inside, ?_⟩
  · simp [Item.text]
  · simp [Item.text, begins]
  · intro blanks rest blank
    refine ⟨blanks, blank, ?_⟩
    show Except.ok _ = _
    rw [begins]
    simp

/-- A member of an object is a part of it. -/
theorem Member.Spaced.partOf {member : Member} (spaced : member.Spaced) :
    PartOf .object member.text member.value member.after := by
  refine ⟨?_, spaced.after, member.before, '"', _, rfl, spaced.before, rfl,
    by decide, ?_⟩
  · simp [Member.text]
    omega
  · intro blanks rest blank
    refine ⟨member.lead, spaced.lead, ?_⟩
    show (skipMark '"' _ >>= fun content =>
      Json.skipQuoted content >>= skipMark ':') = _
    rw [skipMark_blanks blank rfl, ok_bind]
    simp only [List.append_assoc, List.cons_append]
    rw [spaced.key.skipQuoted, ok_bind, skipMark_blanks spaced.gap rfl]

/-- Every value is passed as a whole. -/
theorem Valid.ignored {text : List Char} (valid : Valid text) :
    Ignored text := by
  induction valid with
  | null =>
      exact ignored_scalar rfl (by decide) (by decide) fun _ _ => rfl
  | boolean value =>
      cases value with
      | true =>
          exact ignored_scalar rfl (by decide) (by decide) fun _ _ => rfl
      | false =>
          exact ignored_scalar rfl (by decide) (by decide) fun _ _ => rfl
  | unsigned number => exact number.ignored
  | negative number =>
      exact ignored_scalar rfl (by decide) (by decide)
        fun _ halts => number.skipNumber halts
  | text content =>
      refine ignored_scalar rfl (by decide) (by decide) fun rest _ => ?_
      rw [List.append_assoc]
      exact content.skipQuoted rest
  | array blank spaced valid ignored =>
      apply ignored_bracketed .array ?_ blank
      intro part listed
      obtain ⟨item, inside, rfl⟩ := List.mem_map.mp listed
      exact ⟨item.value, item.after,
        (spaced item inside).partOf (valid item inside).opens,
        ignored item inside⟩
  | object blank spaced _ ignored =>
      apply ignored_bracketed .object ?_ blank
      intro part listed
      obtain ⟨member, inside, rfl⟩ := List.mem_map.mp listed
      exact ⟨member.value, member.after, (spaced member inside).partOf,
        ignored member inside⟩

/-- A skip has fuel for what it passes. -/
theorem skipValue_of_passes
    {input rest : List Char} {steps : Nat} (few : steps ≤ 2 * input.length)
    (passes : ∀ fuel, skipFrom (fuel + steps) .beforeValue [] input =
      skipFrom fuel .afterValue [] rest) :
    skipValue input = .ok rest := by
  obtain ⟨fuel, spare⟩ : ∃ fuel, 2 * input.length + 2 = fuel + 1 + steps :=
    ⟨2 * input.length + 1 - steps, by omega⟩
  unfold Json.skipValue
  rw [spare, passes, skipFrom]

/-- A value is skipped up to its end, with the blanks before it. -/
theorem Valid.skipValue
    {lead text rest : List Char} (valid : Valid text) (blank : Blank lead)
    (halts : Halts rest) :
    skipValue (lead ++ text ++ rest) = .ok rest := by
  obtain ⟨steps, few, passes⟩ := valid.ignored
  have enough : steps ≤ 2 * (lead ++ text ++ rest).length := by
    rw [List.length_append, List.length_append]
    omega
  apply skipValue_of_passes enough
  intro fuel
  rw [List.append_assoc, skipFrom_beforeValue blank, passes _ _ _ halts]

/-! ## Skipping what was written -/

/--
A text that is passed as one value, whatever brackets are open around it.
-/
structure Skips (text : List Char) : Prop where
  opens : Opens text
  passes : ∃ steps ≤ 2 * text.length, ∀ fuel brackets rest, Ends rest →
    skipFrom (fuel + steps) .beforeValue brackets (text ++ rest) =
      skipFrom fuel .afterValue brackets rest

/-- The text of a document is passed as one value. -/
theorem skips_print (document : Json) : Skips document.print := by
  obtain ⟨steps, few, passes⟩ := (valid_print document).ignored
  refine ⟨(valid_print document).opens, steps, few, ?_⟩
  intro fuel brackets rest ends
  exact passes fuel brackets rest ends.halts

/-- What a codec writes is passed as one value. -/
theorem Codec.Printed.skips
    {codec : Codec α} (printed : codec.Printed) (value : α) :
    Skips (codec.write value) := by
  obtain ⟨document, written, _⟩ := printed value
  rw [written]
  exact skips_print document

/-- A value is skipped up to its end. -/
theorem Skips.skipValue_append
    {text rest : List Char} (skips : Skips text) (ends : Ends rest) :
    skipValue (text ++ rest) = .ok rest := by
  obtain ⟨steps, few, passes⟩ := skips.passes
  apply skipValue_of_passes ?_ fun fuel => passes fuel [] rest ends
  rw [List.length_append]
  omega

end EventRelay.Json
