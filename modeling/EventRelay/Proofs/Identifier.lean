import EventRelay.Identifier

/-!
# Written identifiers read back

The written form of an identifier has the hyphenated form that a reader
accepts, and the hexadecimal digits in it are those of the identifier.  So two
identifiers have different written forms, and a written form can serve as a
key.
-/

namespace EventRelay.Identifier

open EventRelay.Text

/-! ## Hexadecimal digits -/

theorem hexDigits_isHex
    {count value : Nat} {char : Char} (member : char ∈ hexDigits count value) :
    isHex char = true := by
  induction count generalizing value with
  | zero => cases member
  | succ count induction =>
      rcases List.mem_append.mp member with before | last
      · exact induction before
      · rw [List.mem_singleton.mp last]
        simp [isHex, hexValue?_digitChar _
          (Nat.mod_lt value (by decide : 0 < 16))]

theorem utf8Size_of_isHex {char : Char} (digit : isHex char = true) :
    char.utf8Size = 1 := by
  have small : char.val ≤ 0x7f := by
    unfold isHex hexValue? at digit
    split at digit
    · next range => exact UInt32.le_trans range.2 (by decide)
    · split at digit
      · next range => exact UInt32.le_trans range.2 (by decide)
      · split at digit
        · next range => exact UInt32.le_trans range.2 (by decide)
        · cases digit
  exact Char.utf8Size_eq_one_iff.mpr small

theorem byteLength_eq_length
    {chars : List Char} (single : ∀ char ∈ chars, char.utf8Size = 1) :
    byteLength chars = chars.length := by
  induction chars with
  | nil => rfl
  | cons char chars induction =>
      have counted :=
        induction fun other member =>
          single other (List.mem_cons_of_mem _ member)
      unfold byteLength at counted ⊢
      rw [List.foldr_cons, counted, single char List.mem_cons_self,
        List.length_cons, Nat.add_comm]

/--
The written digits of a number stand for the number, cut to as many digits.
-/
theorem foldl_hexDigits (count value : Nat) :
    ((hexDigits count value).filterMap hexValue?).foldl
        (fun sum digit => sum * 16 + digit) 0 =
      value % Nat.pow 16 count := by
  induction count generalizing value with
  | zero => simp [hexDigits, Nat.mod_one]
  | succ count induction =>
      have digit :=
        hexValue?_digitChar (value % 16) (Nat.mod_lt value (by decide))
      simp only [hexDigits, List.filterMap_append, List.filterMap_cons,
        List.filterMap_nil, digit, List.foldl_append, induction,
        List.foldl_cons, List.foldl_nil]
      have longer : Nat.pow 16 (count + 1) = 16 * Nat.pow 16 count :=
        Nat.pow_succ'
      rw [longer, Nat.mod_mul]
      omega

theorem ofDigits_hexDigits (identifier : Identifier) :
    ofDigits (hexDigits 32 identifier.bits.toNat) = identifier := by
  have small : identifier.bits.toNat < Nat.pow 16 32 := identifier.bits.isLt
  unfold ofDigits
  rw [foldl_hexDigits, Nat.mod_eq_of_lt small, BitVec.ofNat_toNat,
    BitVec.setWidth_eq]

/-! ## The hyphenated form -/

/-- Digits in five groups with hyphens between them. -/
def hyphenate (digits : List Char) : List Char :=
  digits.take 8 ++ '-' :: (digits.drop 8).take 4 ++ '-' ::
    (digits.drop 12).take 4 ++ '-' :: (digits.drop 16).take 4 ++ '-' ::
    digits.drop 20

theorem toText_eq (identifier : Identifier) :
    identifier.toText =
      String.ofList (hyphenate (hexDigits 32 identifier.bits.toNat)) := rfl

/-- Hyphens are no digits, so they do not change the number that is read. -/
theorem ofDigits_hyphenate (digits : List Char) :
    ofDigits (hyphenate digits) = ofDigits digits := by
  have hyphen : hexValue? '-' = none := by decide
  have groups :
      digits.take 8 ++
        ((digits.drop 8).take 4 ++
          ((digits.drop 12).take 4 ++
            ((digits.drop 16).take 4 ++ digits.drop 20))) =
        digits := by
    have joined (start : Nat) :
        (digits.drop start).take 4 ++ digits.drop (start + 4) =
          digits.drop start := by
      rw [← List.drop_drop, List.take_append_drop]
    rw [joined 16, joined 12, joined 8, List.take_append_drop]
  unfold ofDigits
  conv => rhs; rw [← groups]
  simp [hyphenate, List.filterMap_append, hyphen]

/-- What the hyphenated form asks of a character and its place. -/
private def inPlace : Char × Nat → Bool := fun (char, place) =>
  if hyphenPlaces.contains place then char == '-' else isHex char

/-- Digits that stand where no hyphen belongs are in place. -/
private theorem all_inPlace
    {group : List Char} (hexadecimal : ∀ char ∈ group, isHex char = true)
    (start length : Nat) (short : group.length = length)
    (clear :
      ∀ place ∈ List.range' start length, hyphenPlaces.contains place = false) :
    (group.zipIdx start).all inPlace = true := by
  rw [List.all_eq_true]
  rintro ⟨char, place⟩ member
  have here : place ∈ List.range' start length := by
    rw [List.mem_range'_1, ← short]
    exact ⟨List.le_snd_of_mem_zipIdx member,
      List.snd_lt_add_of_mem_zipIdx member⟩
  have digit := hexadecimal char (List.fst_mem_of_mem_zipIdx member)
  simp only [inPlace, clear place here, Bool.false_eq_true, if_false, digit]

section Form

variable {digits : List Char} (count : digits.length = 32)
include count

theorem length_hyphenate : (hyphenate digits).length = 36 := by
  simp [hyphenate, count]

variable (hexadecimal : ∀ char ∈ digits, isHex char = true)
include hexadecimal

theorem isHyphenated_hyphenate : isHyphenated (hyphenate digits) = true := by
  have first : ∀ char ∈ digits.take 8, isHex char = true :=
    fun char member => hexadecimal char (List.mem_of_mem_take member)
  have middle :
      ∀ start, ∀ char ∈ (digits.drop start).take 4, isHex char = true :=
    fun start char member =>
      hexadecimal char (List.mem_of_mem_drop (List.mem_of_mem_take member))
  have last : ∀ char ∈ digits.drop 20, isHex char = true :=
    fun char member => hexadecimal char (List.mem_of_mem_drop member)
  have places : (hyphenate digits).zipIdx.all inPlace = true := by
    simp only [hyphenate, List.zipIdx_append, List.all_append, List.zipIdx_cons,
      List.all_cons, List.length_append, List.length_cons, List.length_take,
      List.length_drop, count, Bool.and_eq_true]
    refine ⟨⟨⟨⟨?_, by decide, ?_⟩, by decide, ?_⟩, by decide, ?_⟩,
      by decide, ?_⟩
    · exact all_inPlace first _ 8 (by simp [count]) (by decide)
    · exact all_inPlace (middle 8) _ 4 (by simp [count]) (by decide)
    · exact all_inPlace (middle 12) _ 4 (by simp [count]) (by decide)
    · exact all_inPlace (middle 16) _ 4 (by simp [count]) (by decide)
    · exact all_inPlace last _ 12 (by simp [count]) (by decide)
  unfold isHyphenated
  rw [length_hyphenate count]
  exact places

/-- The hyphenated form is plain text: each character takes one byte. -/
theorem byteLength_hyphenate : byteLength (hyphenate digits) = 36 := by
  have single : ∀ char ∈ hyphenate digits, char.utf8Size = 1 := by
    intro char member
    have digitOrHyphen : char ∈ digits ∨ char = '-' := by
      simp only [hyphenate, List.mem_append, List.mem_cons] at member
      rcases member with
        ((((first | rfl | group) | rfl | group) | rfl | group) | rfl | group)
      all_goals
        first
        | exact .inr rfl
        | exact .inl (List.mem_of_mem_take first)
        | exact .inl (List.mem_of_mem_drop (List.mem_of_mem_take group))
        | exact .inl (List.mem_of_mem_drop group)
    rcases digitOrHyphen with digit | rfl
    · exact utf8Size_of_isHex (hexadecimal char digit)
    · decide
  rw [byteLength_eq_length single, length_hyphenate count]

end Form

/-- The written form of an identifier is read as the identifier. -/
@[simp]
theorem parse_toText (identifier : Identifier) :
    parse identifier.toText = .ok identifier := by
  have count : (hexDigits 32 identifier.bits.toNat).length = 32 :=
    length_hexDigits _ _
  have hexadecimal := fun char => @hexDigits_isHex 32 identifier.bits.toNat char
  unfold parse
  simp only [toText_eq, String.toList_ofList,
    byteLength_hyphenate count hexadecimal, hyphenatedPart?]
  simp [isHyphenated_hyphenate count hexadecimal, ofDigits_hyphenate,
    ofDigits_hexDigits]

theorem toText_injective : Function.Injective toText := by
  intro left right same
  have parsed : parse left.toText = parse right.toText := by rw [same]
  rw [parse_toText, parse_toText] at parsed
  exact Except.ok.inj parsed

end EventRelay.Identifier
