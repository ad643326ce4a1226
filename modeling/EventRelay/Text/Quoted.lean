import EventRelay.Text.Hidden

/-!
# Quoted texts in messages

Descriptions show a text between double quotes, so that blanks and quotes
inside it can be told from the message around it.  Common controls have a
letter, a character without a visible form shows its number in braces, and
every other character stands for itself.
-/

namespace EventRelay.Text

/-- The hexadecimal digits of a character's number, between braces. -/
def numbered (char : Char) : List Char :=
  ['\\', 'u', '\x7b'] ++ Nat.toDigits 16 char.toNat ++ ['\x7d']

/-- The quoted form of one character. -/
def quotedChar (char : Char) : List Char :=
  match char with
  | '\x00' => ['\\', '0']
  | '\t' => ['\\', 't']
  | '\r' => ['\\', 'r']
  | '\n' => ['\\', 'n']
  | '"' => ['\\', '"']
  | '\\' => ['\\', '\\']
  | char => if isHidden char then numbered char else [char]

/-- A text between double quotes. -/
def quoted (text : String) : String :=
  String.ofList ('"' :: text.toList.flatMap quotedChar ++ ['"'])

end EventRelay.Text
