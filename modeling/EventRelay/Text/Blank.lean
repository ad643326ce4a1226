/-!
# White space and trimming

A blank is a character with the Unicode property `White_Space`.  Settings are
trimmed of blanks at both ends, and times may carry blanks between their
parts.
-/

namespace EventRelay.Text

/-- Whether a character has the property `White_Space`. -/
def isBlank (char : Char) : Bool :=
  let code := char.toNat
  (9 ≤ code && code ≤ 13) || code == 0x20 || code == 0x85 || code == 0xA0 ||
    code == 0x1680 || (0x2000 ≤ code && code ≤ 0x200A) || code == 0x2028 ||
    code == 0x2029 || code == 0x202F || code == 0x205F || code == 0x3000

/-- A text without its leading blanks. -/
def trimStart (text : List Char) : List Char :=
  text.dropWhile isBlank

/-- A text without the blanks at both ends. -/
def trim (text : String) : String :=
  String.ofList (trimStart (trimStart text.toList).reverse).reverse

/-- A text with its ASCII capitals made small. -/
def lowercase (text : String) : String :=
  String.ofList (text.toList.map Char.toLower)

/-! ## What trimming leaves -/

/-- Characters that are all blank. -/
def Blanks (chars : List Char) : Prop :=
  ∀ char ∈ chars, isBlank char = true

theorem Blanks.append
    {left right : List Char} (first : Blanks left) (second : Blanks right) :
    Blanks (left ++ right) := by
  intro char member
  rcases List.mem_append.mp member with member | member
  · exact first char member
  · exact second char member

theorem Blanks.reverse {chars : List Char} (blank : Blanks chars) :
    Blanks chars.reverse :=
  fun char member => blank char (List.mem_reverse.mp member)

/-- The padded text is the other one with blanks around it. -/
def Pads (text padded : String) : Prop :=
  ∃ front back, padded.toList = front ++ (text.toList ++ back) ∧
    Blanks front ∧ Blanks back

theorem Pads.trans {first second third : String}
    (inner : Pads first second) (outer : Pads second third) :
    Pads first third := by
  rcases inner with ⟨front, back, inner, blank, blankBack⟩
  rcases outer with ⟨lead, trail, outer, blankLead, blankTrail⟩
  refine ⟨lead ++ front, back ++ trail, ?_, blankLead.append blank,
    blankBack.append blankTrail⟩
  rw [outer, inner]
  simp

/--
What is left of a text without the blanks around it: only blanks are cut, and
what is left neither begins nor ends with one.
-/
structure Trims (text trimmed : String) : Prop where
  cut : Pads trimmed text
  first : ∀ char ∈ trimmed.toList.head?, isBlank char = false
  last : ∀ char ∈ trimmed.toList.getLast?, isBlank char = false

theorem trimStart_cons
    {first : Char} (visible : isBlank first = false) (rest : List Char) :
    trimStart (first :: rest) = first :: rest :=
  List.dropWhile_cons_of_neg (by simp [visible])

/-- The leading blanks end where a text goes on with something else. -/
theorem trimStart_append {front rest : List Char} (blank : Blanks front)
    (first : ∀ char ∈ rest.head?, isBlank char = false) :
    trimStart (front ++ rest) = rest := by
  have dropped : trimStart (front ++ rest) = trimStart rest :=
    List.dropWhile_append_of_pos blank
  rw [dropped]
  cases rest with
  | nil => rfl
  | cons char rest => exact trimStart_cons (first char rfl) rest

/-- Only blanks are cut from the start of a text, and all of them. -/
theorem exists_trimStart (text : List Char) :
    ∃ front, text = front ++ trimStart text ∧ Blanks front ∧
      ∀ char ∈ (trimStart text).head?, isBlank char = false := by
  refine ⟨text.takeWhile isBlank, List.takeWhile_append_dropWhile.symm,
    List.all_eq_true.mp List.all_takeWhile, ?_⟩
  intro char first
  have stops := List.head?_dropWhile_not isBlank text
  rw [show (text.dropWhile isBlank).head? = some char from first] at stops
  exact stops

theorem trims_trim (text : String) : Trims text (trim text) := by
  rcases exists_trimStart text.toList with ⟨front, cut, blank, first⟩
  rcases exists_trimStart (trimStart text.toList).reverse with
    ⟨back, cutBack, blankBack, last⟩
  have left :
      (trim text).toList =
        (trimStart (trimStart text.toList).reverse).reverse := by
    simp [trim]
  have rest : trimStart text.toList = (trim text).toList ++ back.reverse := by
    rw [left, ← List.reverse_append, ← cutBack, List.reverse_reverse]
  rw [rest] at cut
  refine ⟨⟨front, back.reverse, cut, blank, blankBack.reverse⟩, ?_, ?_⟩
  · intro char member
    apply first
    rw [rest, List.head?_append, Option.mem_def.mp member]
    rfl
  · intro char member
    rw [left, List.getLast?_reverse] at member
    exact last char member

theorem Trims.trim_eq {text trimmed : String} (trims : Trims text trimmed) :
    trim text = trimmed := by
  rcases trims with ⟨⟨front, back, cut, blank, blankBack⟩, first, last⟩
  rw [← String.toList_inj, trim, String.toList_ofList, cut]
  generalize trimmed.toList = rest at first last
  cases rest with
  | nil =>
      -- Of a text of blanks nothing is left by the first cut.
      have start : trimStart (front ++ back ++ []) = [] :=
        trimStart_append (blank.append blankBack) (by simp)
      rw [List.append_nil] at start
      rw [List.nil_append, start]
      rfl
  | cons char rest =>
      have start :
          trimStart (front ++ (char :: rest ++ back)) = char :: rest ++ back :=
        trimStart_append blank first
      have ending :
          trimStart (back.reverse ++ (char :: rest).reverse) =
            (char :: rest).reverse :=
        trimStart_append blankBack.reverse (List.head?_reverse ▸ last)
      rw [start, List.reverse_append, ending, List.reverse_reverse]

/-- Trimming leaves exactly what is left without the blanks around a text. -/
theorem trim_eq_iff {text trimmed : String} :
    trim text = trimmed ↔ Trims text trimmed :=
  ⟨fun same => same ▸ trims_trim text, Trims.trim_eq⟩

/-- Blanks around a text make no difference once it is trimmed. -/
theorem trim_padded {text padded : String} (pads : Pads text padded) :
    trim padded = trim text := by
  have trims := trims_trim text
  exact Trims.trim_eq ⟨trims.cut.trans pads, trims.first, trims.last⟩

end EventRelay.Text
