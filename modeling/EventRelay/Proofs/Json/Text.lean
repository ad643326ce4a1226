import EventRelay.Json.Scan
import EventRelay.Json.Value

/-!
# Written texts read again

Between quotes a quote, a backslash and a control character are escaped; every
escape is read as the character it was written for, so a text between quotes
is read as itself.  No half of a pair is escaped, so it makes no difference
whether these must follow each other.
-/

namespace EventRelay.Json

variable {paired : Bool}

theorem scanQuoted_digit
    {digits value digit : Nat} {char : Char} (early : digits < 3)
    (meant : Text.hexValue? char = some digit) (input : List Char) :
    scanQuoted paired (.hex digits value none) (char :: input) =
      scanQuoted paired (.hex (digits + 1) (value * 16 + digit) none)
        input := by
  rw [scanQuoted, meant]
  exact if_pos early

theorem scanQuoted_lastDigit
    {value digit : Nat} {char meant : Char}
    (read : Text.hexValue? char = some digit)
    (complete : escapedUnit (value * 16 + digit) none = .char meant)
    (input : List Char) :
    scanQuoted paired (.hex 3 value none) (char :: input) =
      prepend meant (scanQuoted paired .plain input) := by
  rw [scanQuoted, read]
  dsimp only
  rw [if_neg (Nat.lt_irrefl 3), complete]

private theorem utf8Size_digits :
    ∀ code < 0x20, (Nat.digitChar (code / 16)).utf8Size = 1 ∧
      (Nat.digitChar (code % 16)).utf8Size = 1 := by
  decide

/-- A control character that is escaped by its number is read as itself. -/
theorem scanQuoted_control
    {char : Char} (control : char.toNat < 0x20) (input : List Char) :
    scanQuoted paired .plain
        (['\\', 'u', '0', '0'] ++ controlDigits char.toNat ++ input) =
      prepend char (scanQuoted paired .plain input) := by
  obtain ⟨first, second⟩ := utf8Size_digits char.toNat control
  have enough : holdsBytes 4 ('0' :: '0' :: Nat.digitChar (char.toNat / 16) ::
      Nat.digitChar (char.toNat % 16) :: input) = true := by
    simp [holdsBytes, first, second, show '0'.utf8Size = 1 from rfl]
  have opened :
      scanQuoted paired .plain
          (['\\', 'u', '0', '0'] ++ controlDigits char.toNat ++ input) =
        scanQuoted paired (.hex 0 0 none)
          ('0' :: '0' :: Nat.digitChar (char.toNat / 16) ::
            Nat.digitChar (char.toNat % 16) :: input) := by
    show scanQuoted paired .plain
      ('\\' :: 'u' :: '0' :: '0' :: Nat.digitChar (char.toNat / 16) ::
        Nat.digitChar (char.toNat % 16) :: input) = _
    rw [scanQuoted, if_neg (by decide), if_pos rfl, scanQuoted, if_pos rfl,
      if_pos enough]
  have zero : Text.hexValue? '0' = some 0 := by decide
  have complete : escapedUnit
      ((((0 * 16 + 0) * 16 + 0) * 16 + char.toNat / 16) * 16 +
          char.toNat % 16) none =
        .char char := by
    have code : (((0 * 16 + 0) * 16 + 0) * 16 + char.toNat / 16) * 16 +
        char.toNat % 16 =
        char.toNat := by omega
    unfold escapedUnit
    dsimp only
    rw [code, if_neg (by omega), if_neg (by omega), Char.ofNat_toNat]
  rw [opened, scanQuoted_digit (by decide) zero,
    scanQuoted_digit (by decide) zero,
    scanQuoted_digit (by decide) (Text.hexValue?_digitChar _ (by omega)),
    scanQuoted_lastDigit (Text.hexValue?_digitChar _ (by omega)) complete]

/-- A character that is escaped by one letter is read as itself. -/
theorem scanQuoted_letter {letter meant : Char} (other : letter ≠ 'u')
    (short : shortEscape? letter = some meant) (input : List Char) :
    scanQuoted paired .plain ('\\' :: letter :: input) =
      prepend meant (scanQuoted paired .plain input) := by
  rw [scanQuoted, if_neg (by decide), if_pos rfl, scanQuoted, if_neg other,
    short]

/-- However a character is written between quotes, it is read as itself. -/
theorem scanQuoted_escapedChar (char : Char) (input : List Char) :
    scanQuoted paired .plain (escapedChar char ++ input) =
      prepend char (scanQuoted paired .plain input) := by
  unfold escapedChar
  split
  · exact scanQuoted_letter (by decide) rfl input
  · exact scanQuoted_letter (by decide) rfl input
  · exact scanQuoted_letter (by decide) rfl input
  · exact scanQuoted_letter (by decide) rfl input
  · exact scanQuoted_letter (by decide) rfl input
  · exact scanQuoted_letter (by decide) rfl input
  · exact scanQuoted_letter (by decide) rfl input
  · next notQuote notBackslash _ _ _ _ _ =>
      split
      · next control => exact scanQuoted_control control input
      · next plain =>
          show scanQuoted paired .plain (char :: input) = _
          rw [scanQuoted, if_neg notQuote, if_neg notBackslash, if_neg plain]

theorem scanQuoted_flatMap (content rest : List Char) :
    scanQuoted paired .plain (content.flatMap escapedChar ++ '"' :: rest) =
      .ok (content, rest) := by
  induction content with
  | nil =>
      show scanQuoted paired .plain ('"' :: rest) = _
      rw [scanQuoted, if_pos rfl]
  | cons char content induction =>
      rw [List.flatMap_cons, List.append_assoc, scanQuoted_escapedChar,
        induction]
      rfl

/-- A text between quotes is read as itself. -/
theorem readQuoted_printText (value : String) (rest : List Char) :
    ∃ content,
      printText value ++ rest = '"' :: content ∧
        readQuoted content = .ok (value, rest) := by
  refine ⟨value.toList.flatMap escapedChar ++ '"' :: rest, ?_, ?_⟩
  · simp [printText]
  · unfold readQuoted
    rw [scanQuoted_flatMap]
    show Except.ok (String.ofList value.toList, rest) = _
    rw [String.ofList_toList]

end EventRelay.Json
