import Mathlib.Data.List.Lex
import Mathlib.Data.Char

/-!
# The order of texts and of their bytes

Texts are compared character by character, by code point.  The bytes of a text
compare in the same way: of two different characters the one with the smaller
code point has the smaller bytes, and neither is a beginning of the other, so
what follows them does not matter.
-/

namespace EventRelay.Text

/-- The UTF-8 bytes of a text. -/
def bytes (text : String) : List UInt8 :=
  text.toUTF8.data.toList

theorem bytes_eq (text : String) :
    bytes text = text.toList.flatMap String.utf8EncodeChar := by
  unfold bytes String.toUTF8
  rw [← String.utf8Encode_toList]
  simp [List.utf8Encode]

/--
The code of a character: its code point in digits of six bits, the first of
them marked with the number of bytes.
-/
inductive Coded (char : Char) : List UInt8 → Prop where
  | one {first : Nat} (point : char.val.toNat = first) (small : first < 0x80) :
      Coded char [.ofNat first]
  | two {first second : Nat} (point : char.val.toNat = first * 64 + second)
      (large : 0x80 ≤ char.val.toNat) (lead : first < 0x20)
      (digit : second < 64) :
      Coded char [.ofNat (first + 0xc0), .ofNat (second + 0x80)]
  | three {first second third : Nat}
      (point : char.val.toNat = (first * 64 + second) * 64 + third)
      (large : 0x800 ≤ char.val.toNat) (lead : first < 0x10)
      (digits : second < 64 ∧ third < 64) :
      Coded char [.ofNat (first + 0xe0), .ofNat (second + 0x80),
        .ofNat (third + 0x80)]
  | four {first second third fourth : Nat}
      (point :
        char.val.toNat =
          ((first * 64 + second) * 64 + third) * 64 + fourth)
      (large : 0x10000 ≤ char.val.toNat) (lead : first < 0x8)
      (digits : second < 64 ∧ third < 64 ∧ fourth < 64) :
      Coded char [.ofNat (first + 0xf0), .ofNat (second + 0x80),
        .ofNat (third + 0x80), .ofNat (fourth + 0x80)]

theorem coded (char : Char) : Coded char (String.utf8EncodeChar char) := by
  have bound : char.val.toNat < 0x110000 := by
    rcases char.valid with low | ⟨-, high⟩
    · exact Nat.lt_trans low (by decide)
    · exact high
  unfold String.utf8EncodeChar
  dsimp only
  split
  · exact .one rfl (by omega)
  · split
    · exact .two (by omega) (by omega) (by omega) (by omega)
    · split
      · exact .three (by omega) (by omega) (by omega) (by omega)
      · exact .four (by omega) (by omega) (by omega) (by omega)

/--
Of two characters the smaller one has the smaller bytes: longer codes begin
with greater bytes, and equally long ones compare digit by digit.
-/
theorem utf8EncodeChar_append_lt
    {left right : Char} (below : left < right) (rest other : List UInt8) :
    String.utf8EncodeChar left ++ rest <
      String.utf8EncodeChar right ++ other := by
  have smaller : left.val.toNat < right.val.toNat := below
  have code := coded left
  have code' := coded right
  generalize String.utf8EncodeChar left = bytes at code ⊢
  generalize String.utf8EncodeChar right = bytes' at code' ⊢
  cases code <;> cases code' <;>
    simp only [List.cons_append, List.nil_append, List.cons_lt_cons_iff,
      UInt8.lt_iff_toNat_lt, ← UInt8.toNat_inj, UInt8.toNat_ofNat'] <;>
    omega

/-- Texts with smaller characters have smaller bytes. -/
theorem flatMap_utf8EncodeChar_lt {left right : List Char}
    (below : left < right) :
    left.flatMap String.utf8EncodeChar <
      right.flatMap String.utf8EncodeChar := by
  induction left generalizing right with
  | nil =>
      cases right with
      | nil => exact absurd below (List.lt_irrefl [])
      | cons char rest =>
          obtain ⟨first, others, shape⟩ := List.exists_cons_of_ne_nil
            (String.utf8EncodeChar_ne_nil (c := char))
          rw [List.flatMap_nil, List.flatMap_cons, shape]
          exact List.nil_lt_cons _ _
  | cons char chars induction =>
      cases right with
      | nil => exact absurd below (List.not_lt_nil _)
      | cons other others =>
          rw [List.flatMap_cons, List.flatMap_cons]
          rcases List.cons_lt_cons_iff.mp below with first | ⟨rfl, later⟩
          · exact utf8EncodeChar_append_lt first _ _
          · exact List.append_left_lt (induction later)

/-- The order of texts is that of their bytes. -/
theorem lt_iff_bytes_lt {left right : String} :
    left < right ↔ bytes left < bytes right := by
  rw [bytes_eq, bytes_eq]
  refine ⟨flatMap_utf8EncodeChar_lt, ?_⟩
  intro below
  rcases lt_trichotomy left.toList right.toList with less | same | greater
  · exact less
  · rw [same] at below
    exact absurd below (List.lt_irrefl _)
  · exact absurd below (List.lt_asymm (flatMap_utf8EncodeChar_lt greater))

end EventRelay.Text
