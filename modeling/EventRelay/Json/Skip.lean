import EventRelay.Json.Scan

/-!
# Skipping a value

The value of an unknown member is not kept, but it must be well formed up to
three liberties: halves of a pair may stand alone, a number may have any size,
and arrays and objects may be open to any depth.  The brackets still open are
kept in a list, so depth costs no recursion; every step either takes a
character or follows one that did.
-/

namespace EventRelay.Json

/-- A bracket that is still open. -/
inductive Bracket where
  | array
  | object
  deriving DecidableEq

/-- The character that closes a bracket. -/
def Bracket.closing : Bracket → Char
  | .array => ']'
  | .object => '\x7d'

/-- Where a skip stands. -/
inductive SkipPlace where
  | beforeValue
  | afterValue
  | afterOpening

/-- Passes digits of which there must be at least one. -/
def skipDigits (input : List Char) : Except Fault (List Char) :=
  match Number.spanDigits input with
  | ([], _) => .error .malformed
  | (_, rest) => .ok rest

/-- Passes the exponent of a number, if there is one. -/
def skipExponent (input : List Char) : Except Fault (List Char) :=
  match input with
  | [] => .ok []
  | mark :: rest =>
    if mark = 'e' ∨ mark = 'E' then
      match rest with
      | '+' :: digits => skipDigits digits
      | '-' :: digits => skipDigits digits
      | digits => skipDigits digits
    else .ok (mark :: rest)

/-- Passes a number after its sign; one that ends too early is malformed. -/
def skipNumber (input : List Char) : Except Fault (List Char) := do
  let afterWhole ←
    match input with
    | '0' :: rest =>
      match rest with
      | next :: _ => if next.isDigit then .error .malformed else .ok rest
      | [] => .ok rest
    | input => skipDigits input
  match afterWhole with
  | '.' :: rest => skipDigits rest >>= skipExponent
  | rest => skipExponent rest

/-- Passes the content of a quoted text after its opening quote. -/
def skipQuoted (input : List Char) : Except Fault (List Char) :=
  (scanQuoted false .plain input).map Prod.snd

/--
Passes a value that is neither an array nor an object and begins with the
given character.
-/
def skipScalar (char : Char) (rest : List Char) : Except Fault (List Char) :=
  match char with
  | 'n' => expectWord ['u', 'l', 'l'] rest
  | 't' => expectWord ['r', 'u', 'e'] rest
  | 'f' => expectWord ['a', 'l', 's', 'e'] rest
  | '"' => skipQuoted rest
  | '-' => skipNumber rest
  | char =>
      if char.isDigit then skipNumber (char :: rest) else .error .malformed

/-- Passes one expected character after blanks. -/
def skipMark (mark : Char) (input : List Char) : Except Fault (List Char) :=
  match skipBlanks input with
  | [] => .error .truncated
  | char :: rest => if char = mark then .ok rest else .error .malformed

/-- Passes the key and the colon before a value inside an object. -/
def skipKey (bracket : Bracket) (input : List Char) :
    Except Fault (List Char) :=
  match bracket with
  | .array => .ok input
  | .object => do
    let content ← skipMark '"' input
    let rest ← skipQuoted content
    skipMark ':' rest

/-- Passes what is left of a value, given the brackets that are open. -/
def skipFrom :
    Nat → SkipPlace → List Bracket → List Char → Except Fault (List Char)
  | 0, _, _, _ => .error .malformed
  | _ + 1, .afterValue, [], input => .ok input
  | fuel + 1, .beforeValue, brackets, input =>
    match skipBlanks input with
    | [] => .error .truncated
    | '[' :: rest => skipFrom fuel .afterOpening (.array :: brackets) rest
    | '\x7b' :: rest => skipFrom fuel .afterOpening (.object :: brackets) rest
    | char :: rest => do
      let rest ← skipScalar char rest
      skipFrom fuel .afterValue brackets rest
  | fuel + 1, .afterValue, bracket :: brackets, input =>
    match skipBlanks input with
    | [] => .error .truncated
    | char :: rest =>
      if char = ',' then do
        let rest ← skipKey bracket rest
        skipFrom fuel .beforeValue (bracket :: brackets) rest
      else if char = bracket.closing then
        skipFrom fuel .afterValue brackets rest
      else .error .malformed
  | _ + 1, .afterOpening, [], input => .ok input
  | fuel + 1, .afterOpening, bracket :: brackets, input =>
    match skipBlanks input with
    | [] => .error .truncated
    | char :: rest =>
      if char = bracket.closing then skipFrom fuel .afterValue brackets rest
      else do
        let rest ← skipKey bracket (char :: rest)
        skipFrom fuel .beforeValue (bracket :: brackets) rest

/-- Skips one value; there is fuel for two steps at each character. -/
def skipValue (input : List Char) : Except Fault (List Char) :=
  skipFrom (2 * input.length + 2) .beforeValue [] input

end EventRelay.Json
