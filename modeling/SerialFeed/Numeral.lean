/-
This file reads decimal numbers that have an upper limit: an optional plus sign, then digits of
ASCII. Every other text is refused with the first trouble that shows when the digits are taken from
the left: a character that is no digit is seen before the overflow it would have caused, and an
overflow before anything to the right of it.

A number on a command line is trimmed before it is read: blanks at both ends of its text, that is
characters with the Unicode property `White_Space`, are taken away, whichever script they come from.
-/

namespace SerialFeed.Text

/-- The characters with the Unicode property `White_Space`. -/
def isBlank (character : Char) : Bool :=
  let code := character.toNat
  (0x9 ≤ code && code ≤ 0xD) || code == 0x20 || code == 0x85 || code == 0xA0 || code == 0x1680 ||
    (0x2000 ≤ code && code ≤ 0x200A) || code == 0x2028 || code == 0x2029 || code == 0x202F ||
    code == 0x205F || code == 0x3000

/-- The text without the blanks at its two ends. -/
def trim (text : List Char) : List Char :=
  ((text.dropWhile isBlank).reverse.dropWhile isBlank).reverse

end SerialFeed.Text

namespace SerialFeed.Numeral

/-- Why a text is not a number in its range. -/
inductive Trouble where
  | empty
  | invalidDigit
  | tooLarge
  | zero
  deriving DecidableEq, Repr

/-- What is said of each trouble. -/
def Trouble.message : Trouble → String
  | empty => "cannot parse integer from empty string"
  | invalidDigit => "invalid digit found in string"
  | tooLarge => "number too large to fit in target type"
  | zero => "number would be zero for non-zero type"

/-- The value of an ASCII digit. -/
def digit? (character : Char) : Option Nat :=
  if character.isDigit then some (character.toNat - 48) else none

/-- The number that begins with `value` and goes on with the given digits. -/
def extend (limit value : Nat) : List Char → Except Trouble Nat
  | [] => .ok value
  | character :: rest =>
    match digit? character with
    | none => .error .invalidDigit
    | some digit =>
      let longer := value * 10 + digit
      if longer ≤ limit then extend limit longer rest else .error .tooLarge

/-- Reads a number between zero and the limit. A sign alone is an invalid digit, and so is a minus
sign anywhere. -/
def read (limit : Nat) : List Char → Except Trouble Nat
  | [] => .error .empty
  | ['+'] => .error .invalidDigit
  | '+' :: digits => extend limit 0 digits
  | digits => extend limit 0 digits

/-- Reads a number between one and the limit, with blanks around it. -/
def readPositive (limit : Nat) (text : List Char) :
    Except Trouble { value : Nat // 0 < value } := do
  let value ← read limit (Text.trim text)
  if positive : 0 < value then .ok ⟨value, positive⟩ else .error .zero

end SerialFeed.Numeral
