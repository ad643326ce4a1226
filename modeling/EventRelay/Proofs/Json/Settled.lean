import EventRelay.Proofs.Json.Skip
import Mathlib.Tactic.FinCases

/-!
# Values are read for themselves

What a reader makes of a value does not depend on what stands behind the value,
as long as a value may end there.  A reader that accepts a value takes all of
its text and nothing more, and gives the same result wherever the value stands.
Here are the codecs without items or members of their own.
-/

namespace EventRelay.Json

open EventRelay.Number

variable {α β : Type}

/-! ## Readings that are settled -/

/-- The reader makes the value of the text, wherever a value may end. -/
def Reads (read : Reader α) (text : List Char) (value : α) : Prop :=
  ∀ rest, Halts rest → read (text ++ rest) = .ok (value, rest)

/--
If the reader accepts the text in one place, it makes the same of it in every
other.
-/
def Settled (read : Reader α) (text : List Char) : Prop :=
  ∀ rest value after, Halts rest → read (text ++ rest) = .ok (value, after) →
    after = rest ∧ Reads read text value

theorem Settled.ok_iff
    {read : Reader α} {text : List Char} (settled : Settled read text)
    {rest : List Char} (halts : Halts rest) {value : α} {after : List Char} :
    read (text ++ rest) = .ok (value, after) ↔
      after = rest ∧ Reads read text value := by
  constructor
  · exact settled rest value after halts
  · rintro ⟨rfl, reads⟩
    exact reads after halts

theorem Reads.unique
    {read : Reader α} {text : List Char} {left right : α}
    (first : Reads read text left) (second : Reads read text right) :
    left = right := by
  have same := (first [] ends_nil.halts).symm.trans (second [] ends_nil.halts)
  cases same
  rfl

/-- A reading is settled when its success is told without what stands behind. -/
theorem settled_of_iff
    {read : Reader α} {text : List Char} (accepted : α → Prop)
    (told : ∀ rest value after, Halts rest →
      (read (text ++ rest) = .ok (value, after) ↔
        after = rest ∧ accepted value)) :
    Settled read text := by
  intro rest value after halts read
  obtain ⟨same, accepts⟩ := (told rest value after halts).mp read
  refine ⟨same, ?_⟩
  intro other otherHalts
  exact (told other value other otherHalts).mpr ⟨rfl, accepts⟩

/-- A reading with the same outcome everywhere is settled. -/
theorem settled_of_eq
    {read : Reader α} {text : List Char} (outcome : Except Fault α)
    (same : ∀ rest, Halts rest →
      read (text ++ rest) = outcome.map fun value => (value, rest)) :
    Settled read text := by
  apply settled_of_iff fun value => outcome = .ok value
  intro rest value after halts
  rw [same rest halts, map_eq_ok]
  constructor
  · rintro ⟨_, accepted, equal⟩
    cases equal
    exact ⟨rfl, accepted⟩
  · rintro ⟨rfl, accepted⟩
    exact ⟨value, accepted, rfl⟩

/-- What is made of another reading is settled when that one is. -/
theorem settled_of_map
    {read : Reader β} {text : List Char} (inner : Reader α) (make : α → β)
    {accepted : α → Prop}
    (same : ∀ rest, read (text ++ rest) =
      (inner rest).map fun result => (make result.1, result.2))
    (told : ∀ rest value after, Halts rest →
      (inner rest = .ok (value, after) ↔ after = rest ∧ accepted value)) :
    Settled read text := by
  apply settled_of_iff fun made => ∃ value, accepted value ∧ made = make value
  intro rest made after halts
  rw [same, map_eq_ok]
  constructor
  · rintro ⟨⟨value, behind⟩, read, equal⟩
    cases equal
    obtain ⟨equal, accepts⟩ := (told rest value behind halts).mp read
    exact ⟨equal, value, accepts, rfl⟩
  · rintro ⟨rfl, value, accepts, rfl⟩
    exact ⟨_, (told after value after halts).mpr ⟨rfl, accepts⟩, rfl⟩

theorem mismatch_ne_ok
    (expected : String) (input : List Char) (result : α) :
    mismatch expected input ≠ .ok result := by
  intro never
  obtain ⟨_, _, error⟩ := bind_eq_ok.mp never
  cases error

/-- A reader that expects something else accepts nothing. -/
theorem settled_of_mismatch
    {read : Reader α} {text : List Char} (expected : String)
    (same : ∀ rest, read (text ++ rest) = mismatch expected (text ++ rest)) :
    Settled read text := by
  intro rest value after _ accepted
  rw [same] at accepted
  exact absurd accepted (mismatch_ne_ok _ _ _)

/-- A reading by way of another is settled when the other is. -/
theorem Settled.bind
    {read : Reader α} {text : List Char} (settled : Settled read text)
    (parse : α → Except Fault β) :
    Settled
      (fun input => do
        let (raw, rest) ← read input
        let value ← parse raw
        return (value, rest))
      text := by
  apply settled_of_iff fun value => ∃ raw, Reads read text raw ∧
    parse raw = .ok value
  intro rest value after halts
  constructor
  · intro whole
    obtain ⟨⟨raw, between⟩, first, second⟩ := bind_eq_ok.mp whole
    obtain ⟨parsed, accepted, same⟩ := bind_eq_ok.mp second
    cases same
    obtain ⟨same, reads⟩ := (settled.ok_iff halts).mp first
    exact ⟨same, raw, reads, accepted⟩
  · rintro ⟨rfl, raw, reads, accepted⟩
    dsimp only
    rw [reads after halts, ok_bind]
    dsimp only
    rw [accepted]
    rfl

/-! ## Texts between quotes -/

/-- Only what stands between the quotes decides how a text is scanned. -/
private def Fixed (scan : List Char → Except Fault (List Char × List Char)) :
    Prop :=
  ∀ rest passed after, scan rest = .ok (passed, after) →
    after = rest ∧ ∀ other, scan other = .ok (passed, other)

private theorem fixed_error {fault : Fault} : Fixed fun _ => .error fault :=
  fun _ _ _ never => nomatch never

private theorem Fixed.prepend
    {scan : List Char → Except Fault (List Char × List Char)}
    (fixed : Fixed scan) (char : Char) :
    Fixed fun rest => Json.prepend char (scan rest) := by
  intro rest passed after accepted
  obtain ⟨⟨others, behind⟩, scanned, same⟩ := map_eq_ok.mp accepted
  cases same
  obtain ⟨same, everywhere⟩ := fixed rest others behind scanned
  refine ⟨same, fun other => ?_⟩
  dsimp only
  rw [everywhere other]
  rfl

/--
Between characters and after the first half of a pair, what stands between the
quotes is scanned for itself.
-/
private theorem QuotedContent.fixed
    {content : List Char} (quoted : QuotedContent content) :
    (Fixed fun rest => scanQuoted true .plain (content ++ '"' :: rest)) ∧
      ∀ half,
        Fixed fun rest => scanQuoted true (.half half)
          (content ++ '"' :: rest) := by
  induction quoted with
  | nil =>
      constructor
      · simp only [List.nil_append, scanQuoted, if_true]
        intro rest passed after accepted
        cases accepted
        exact ⟨rfl, fun _ => rfl⟩
      · intro half
        simp only [List.nil_append, scanQuoted, if_neg (by decide : '"' ≠ '\\')]
        exact fixed_error
  | @plain char content quote backslash control _ induction =>
      constructor
      · simp only [List.cons_append, scanQuoted, if_neg quote,
          if_neg backslash, if_neg (Nat.not_lt.mpr control)]
        exact induction.1.prepend char
      · intro half
        simp only [List.cons_append, scanQuoted, if_neg backslash]
        exact fixed_error
  | @letter letter content short _ induction =>
      obtain ⟨meant, short⟩ := Option.isSome_iff_exists.mp short
      have other : letter ≠ 'u' := by
        rintro rfl
        cases short
      constructor
      · simp only [List.cons_append, scanQuoted_letter other short]
        exact induction.1.prepend meant
      · intro half
        simp only [List.cons_append, scanQuoted, if_true, if_neg other]
        exact fixed_error
  | @unit _ _ _ _ content first second third fourth _ induction =>
      obtain ⟨unit, escaped⟩ := scanQuoted_escaped first second third fourth
      have after : ∀ pending, Fixed fun rest =>
          afterUnit true pending unit (content ++ '"' :: rest) := by
        intro pending
        unfold afterUnit
        split
        · exact induction.1.prepend _
        · exact induction.2 _
        · exact fixed_error
        · contradiction
      constructor
      · simp only [List.cons_append, (escaped true _).1]
        exact after none
      · intro half
        simp only [List.cons_append, (escaped true _).2]
        exact after (some half)

/-- What stands between quotes spells the text that is read. -/
theorem QuotedContent.readQuoted_ok_iff
    {content : List Char} (quoted : QuotedContent content)
    {rest after : List Char} {value : String} :
    readQuoted (content ++ '"' :: rest) = .ok (value, after) ↔
      after = rest ∧ quotedValue? content = some value := by
  have spelled : ∀ result,
      readQuoted (content ++ ['"']) = .ok result →
        quotedValue? content = some result.1 := by
    intro result read
    unfold quotedValue?
    rw [read]
    rfl
  constructor
  · intro read
    obtain ⟨⟨chars, behind⟩, scanned, same⟩ := map_eq_ok.mp read
    cases same
    obtain ⟨same, everywhere⟩ := quoted.fixed.1 rest chars behind scanned
    have alone : readQuoted (content ++ ['"']) =
        .ok (String.ofList chars, []) :=
      map_eq_ok.mpr ⟨_, everywhere [], rfl⟩
    exact ⟨same, spelled _ alone⟩
  · rintro ⟨rfl, spells⟩
    unfold quotedValue? at spells
    cases read : readQuoted (content ++ ['"']) with
    | error fault =>
        rw [read] at spells
        cases spells
    | ok result =>
        rw [read] at spells
        cases spells
        obtain ⟨⟨chars, behind⟩, scanned, rfl⟩ := map_eq_ok.mp read
        obtain ⟨_, everywhere⟩ := quoted.fixed.1 [] chars behind scanned
        exact map_eq_ok.mpr ⟨_, everywhere after, rfl⟩

/-! ## Numbers -/

theorem ExponentText.scanExponent
    {exponent : List Char} (text : ExponentText exponent) :
    ∃ meant, ∀ rest, Halts rest →
      scanExponent (exponent ++ rest) = .ok (meant, rest) := by
  cases text with
  | absent =>
      refine ⟨none, fun rest halts => ?_⟩
      show Json.scanExponent rest = _
      unfold Json.scanExponent
      cases rest with
      | nil => rfl
      | cons char rest => exact if_neg (halts.mark rfl).2.2
  | @signed mark sign digits begins signs decimal =>
      have scanned : ∀ rest, Halts rest →
          scanDigits (digits ++ rest) = .ok (digits, rest) :=
        fun rest halts => scanDigits_append decimal.1 decimal.2 halts.stops
      obtain ⟨first, others, rfl⟩ := List.exists_cons_of_ne_nil decimal.1
      have digit := decimal.2 first List.mem_cons_self
      have unfolded : ∀ rest, Json.scanExponent
          (mark :: (sign ++ first :: others) ++ rest) =
            (scanSignedDigits (sign ++ (first :: others ++ rest))).map
              fun result => (some result.1, result.2) := by
        intro rest
        rw [List.cons_append, List.append_assoc]
        exact if_pos begins
      simp only [List.mem_cons, List.not_mem_nil, or_false] at signs
      rcases signs with rfl | rfl | rfl
      · refine ⟨some (digitsValue (first :: others) 0 : Nat), ?_⟩
        intro rest halts
        rw [unfolded, List.nil_append]
        unfold scanSignedDigits
        split
        · next same =>
            cases (List.cons.inj same).1
            cases digit
        · next same =>
            cases (List.cons.inj same).1
            cases digit
        · rw [scanned rest halts]
          rfl
      · refine ⟨some (digitsValue (first :: others) 0 : Nat), ?_⟩
        intro rest halts
        rw [unfolded]
        show ((scanDigits (first :: others ++ rest)).map _).map _ = _
        rw [scanned rest halts]
        rfl
      · refine ⟨some (-(digitsValue (first :: others) 0 : Nat)), ?_⟩
        intro rest halts
        rw [unfolded]
        show ((scanDigits (first :: others ++ rest)).map _).map _ = _
        rw [scanned rest halts]
        rfl

/-- Whether a number can be held does not depend on what stands behind it. -/
theorem UnsignedText.readUnsigned
    {text : List Char} (number : UnsignedText text) (negative : Bool) :
    ∃ outcome : Except Fault Number, ∀ rest, Halts rest →
      readUnsigned negative (text ++ rest) =
        outcome.map fun value => (value, rest) := by
  obtain @⟨whole, exponent, places, numeral, decimal, exponentText⟩ := number
  obtain ⟨meant, scanned⟩ := exponentText.scanExponent
  have parts : ∀ rest, Halts rest →
      scanNumber (whole ++ placesText places ++ exponent ++ rest) =
        .ok (⟨whole, places, meant⟩, rest) := by
    intro rest halts
    obtain ⟨stops, noPoint⟩ := exponentText.follows halts
    unfold scanNumber
    rw [List.append_assoc, List.append_assoc,
      scanWhole_append numeral (stops_placesText places stops), ok_bind]
    dsimp only
    rw [scanPlaces_append decimal stops noPoint, ok_bind]
    dsimp only
    rw [scanned rest halts]
    rfl
  unfold Json.readUnsigned
  cases held : NumberParts.value? negative ⟨whole, places, meant⟩ with
  | some value =>
      refine ⟨.ok value, fun rest halts => ?_⟩
      rw [parts rest halts, ok_bind]
      dsimp only
      rw [held]
      rfl
  | none =>
      refine ⟨.error .malformed, fun rest halts => ?_⟩
      rw [parts rest halts, ok_bind]
      dsimp only
      rw [held]
      rfl

/-! ## Codecs -/

/-- A digit is one of ten characters. -/
theorem mem_digits {char : Char} (digit : char.isDigit = true) :
    char ∈ ['0', '1', '2', '3', '4', '5', '6', '7', '8', '9'] := by
  simp only [Char.isDigit, Bool.and_eq_true, decide_eq_true_eq, ge_iff_le,
    UInt32.le_iff_toNat_le] at digit
  have all : ∀ code : Fin 10, Char.ofNat (48 + code.val) ∈
      ['0', '1', '2', '3', '4', '5', '6', '7', '8', '9'] := by
    decide
  have lower : 48 ≤ char.toNat := digit.1
  have upper : char.toNat ≤ 57 := digit.2
  have code : 48 + (char.toNat - 48) = char.toNat := by omega
  have listed := all ⟨char.toNat - 48, by omega⟩
  rwa [code, Char.ofNat_toNat] at listed

/-- What holds of a text behind each of the ten digits holds of a number. -/
theorem UnsignedText.forall_digit
    {text : List Char} (number : UnsignedText text)
    {property : List Char → Prop}
    (each : ∀ digit ∈ ['0', '1', '2', '3', '4', '5', '6', '7', '8', '9'],
      ∀ others, property (digit :: others)) :
    property text := by
  obtain ⟨first, others, rfl, digit⟩ := number.begins
  exact each first (mem_digits digit) others

namespace Codec

/--
A codec that reads each value for itself, whatever blanks stand before it and
whatever stands behind it.
-/
structure Local (codec : Codec α) : Prop where
  trims : ∀ depth input,
    codec.read depth (skipBlanks input) = codec.read depth input
  settled : ∀ depth text, Valid text → Settled (codec.read depth) text

namespace Local

variable {codec : Codec α}

theorem read_blanks
    (own : codec.Local) (depth : Nat) {blanks : List Char}
    (blank : Blank blanks) (input : List Char) :
    codec.read depth (blanks ++ input) = codec.read depth input := by
  rw [← own.trims, blank.skipBlanks_append, own.trims]

/-- Blanks before a value make no difference. -/
theorem ok_iff
    (own : codec.Local) {depth : Nat} {lead text rest : List Char}
    (blank : Blank lead) (valid : Valid text) (halts : Halts rest) {value : α}
    {after : List Char} :
    codec.read depth (lead ++ (text ++ rest)) = .ok (value, after) ↔
      after = rest ∧ Reads (codec.read depth) text value := by
  rw [own.read_blanks depth blank]
  exact (own.settled depth text valid).ok_iff halts

end Local

/-- A reader of texts accepts quoted texts only. -/
theorem readText_settled (expected : String) {content : List Char}
    (valid : Valid content) :
    Settled (readText expected) content := by
  cases valid with
  | null => exact settled_of_mismatch _ fun _ => rfl
  | boolean value =>
      cases value with
      | true => exact settled_of_mismatch _ fun _ => rfl
      | false => exact settled_of_mismatch _ fun _ => rfl
  | unsigned number =>
      refine number.forall_digit fun digit listed others => ?_
      refine settled_of_mismatch expected fun rest => ?_
      fin_cases listed <;> rfl
  | negative => exact settled_of_mismatch _ fun _ => rfl
  | @text inner quoted =>
      apply settled_of_iff fun value => quotedValue? inner = some value
      intro rest value after _
      show readQuoted (inner ++ ['"'] ++ rest) = _ ↔ _
      rw [List.append_assoc]
      exact quoted.readQuoted_ok_iff
  | array => exact settled_of_mismatch _ fun _ => rfl
  | object => exact settled_of_mismatch _ fun _ => rfl

theorem readText_skipBlanks (expected : String) (input : List Char) :
    readText expected (skipBlanks input) = readText expected input := by
  unfold readText
  rw [skipBlanks_skipBlanks]

theorem text_local : text.Local :=
  ⟨fun _ input => readText_skipBlanks expectedText input,
    fun _ _ valid => readText_settled expectedText valid⟩

theorem parsed_local
    (expected : String) (parse : String → Except Fault α)
    (print : α → String) :
    (parsed expected parse print).Local := by
  constructor
  · intro depth input
    show (readText expected (skipBlanks input) >>= _) = _
    rw [readText_skipBlanks]
    rfl
  · intro depth content valid
    exact (readText_settled expected valid).bind parse

theorem flag_local : flag.Local := by
  constructor
  · intro depth input
    unfold flag
    dsimp only
    rw [skipBlanks_skipBlanks]
  · intro depth content valid
    cases valid with
    | null => exact settled_of_mismatch _ fun _ => rfl
    | boolean value =>
        cases value with
        | true => exact settled_of_eq (.ok true) fun _ _ => rfl
        | false => exact settled_of_eq (.ok false) fun _ _ => rfl
    | unsigned number =>
        refine number.forall_digit fun digit listed others => ?_
        refine settled_of_mismatch "a boolean" fun rest => ?_
        fin_cases listed <;> rfl
    | negative => exact settled_of_mismatch _ fun _ => rfl
    | text => exact settled_of_mismatch _ fun _ => rfl
    | array => exact settled_of_mismatch _ fun _ => rfl
    | object => exact settled_of_mismatch _ fun _ => rfl

theorem refine_local
    {codec : Codec α} (own : codec.Local) (parse : α → Except Fault β)
    (print : β → α) :
    (codec.refine parse print).Local := by
  constructor
  · intro depth input
    show (codec.read depth (skipBlanks input) >>= _) = _
    rw [own.trims]
    rfl
  · intro depth text valid
    exact (own.settled depth text valid).bind parse

theorem imap_local
    {codec : Codec α} (own : codec.Local) (forward : α → β)
    (backward : β → α) :
    (codec.imap forward backward).Local :=
  refine_local own _ backward

/-- What is not null is read as a value. -/
theorem optional_settled
    {codec : Codec α} {depth : Nat} {text : List Char}
    (settled : Settled (codec.read depth) text)
    (opens : Opens text) (visible : text.head? ≠ some 'n') :
    Settled (codec.optional.read depth) text := by
  apply settled_of_map (fun rest => codec.read depth (text ++ rest)) some ?_
    fun _ _ _ halts => settled.ok_iff halts
  intro rest
  have whole := opens.skipBlanks_append rest
  obtain ⟨first, others, rfl, _, _⟩ := opens
  have begins : (skipBlanks (first :: others ++ rest)).head? ≠ some 'n' := by
    rw [whole]
    exact visible
  rw [read_optional begins, whole]

theorem reads_optional_null (codec : Codec α) (depth : Nat) :
    Reads (codec.optional.read depth) printNull none :=
  fun _ _ => rfl

theorem optional_local {codec : Codec α} (own : codec.Local) :
    codec.optional.Local := by
  constructor
  · intro depth input
    unfold optional
    dsimp only
    rw [skipBlanks_skipBlanks]
  · intro depth text valid
    by_cases null : text.head? = some 'n'
    · have word : text = printNull := by
        cases valid with
        | null => rfl
        | boolean value =>
            cases value with
            | true => cases null
            | false => cases null
        | unsigned number =>
            obtain ⟨first, others, rfl, digit⟩ := number.begins
            cases null
            cases digit
        | negative => cases null
        | text => cases null
        | array => cases null
        | object => cases null
      rw [word]
      exact settled_of_eq (.ok none) (reads_optional_null codec depth)
    · exact optional_settled (own.settled depth text valid) valid.opens null

end Codec

end EventRelay.Json
