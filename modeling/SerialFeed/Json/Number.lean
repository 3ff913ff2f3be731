/-
This file reads numbers. The spelling of a number is first taken apart; what it stands for follows
from the parts. A spelling without a fraction and an exponent is an integer as long as it fits 64
bits, and all others are floating point numbers.

A floating point number is computed from as many digits as fit 64 bits and from a power of ten. The
digits that do not fit count only by their number: in front of the point they raise the power, and
behind it they are passed over.
-/

import SerialFeed.Json.Reader

namespace SerialFeed.Json

/-- What a number stands for. -/
inductive Number where
  | integer (value : Int)
  | floating (value : Float)

def Number.found : Number → Found
  | integer value => .integer value
  | floating value => .floating value

namespace Number

/-- The largest number of 64 bits. -/
def largest : Nat := UInt64.size - 1

/-- Appends digits to a number until it would not fit the limit; the second part is how many digits
are left over. -/
def append (limit value : Nat) : List Char → Nat × Nat
  | [] => (value, 0)
  | digit :: rest =>
    let longer := value * 10 + (digit.toNat - 48)
    if longer ≤ limit then append limit longer rest else (value, rest.length + 1)

/-! ### The value of a floating point number -/

/-- The double nearest to a power of ten. -/
def powerOfTen (exponent : Nat) : Float :=
  Float.ofScientific 1 false exponent

/-- The largest exponent of a power of ten that a double holds. -/
def largestPower : Nat := 308

/-- Divides by a power of ten, step by step if no double holds the power. -/
def scaleDown (value : Float) (exponent : Nat) : Float :=
  if exponent ≤ largestPower then value / powerOfTen exponent
  else if value == 0 then value
  else scaleDown (value / powerOfTen largestPower) (exponent - largestPower)
termination_by exponent
decreasing_by
  have : largestPower = 308 := rfl
  omega

/-- Multiplies by a power of ten, if the product is in the range of a double. -/
def scaleUp? (value : Float) (exponent : Nat) : Option Float :=
  if exponent ≤ largestPower then
    let product := value * powerOfTen exponent
    if product.isInf then none else some product
  else if value == 0 then some value
  else none

/-- The double for a significand and a power of ten, if it is in range. -/
def scaled? (significand : Nat) (exponent : Int) : Option Float :=
  let value := (UInt64.ofNat significand).toFloat
  match exponent with
  | .ofNat power => scaleUp? value power
  | .negSucc power => some (scaleDown value (power + 1))

/-- A floating point number with a sign. -/
def signed (negative : Bool) (value : Float) : Number :=
  floating (if negative then -value else value)

/-! ### The parts of a spelling -/

/-- The digits that come next, which are passed. -/
def digits : Reader (List Char) := do
  let digits := (← Reader.rest).takeWhile Char.isDigit
  Reader.skip digits.length
  return digits

/-- Reads the digits in front of the point. Only zero itself begins with a zero. -/
def wholeDigits : Reader (List Char) := do
  match ← Reader.rest with
  | [] => Reader.failEnd .value
  | '0' :: second :: _ =>
    Reader.skip 1
    if second.isDigit then Reader.failNext .invalidNumber else return ['0']
  | character :: _ =>
    if character.isDigit then digits else Reader.failNext .invalidNumber

/-- Reads digits of which there has to be one. -/
def someDigits : Reader (List Char) := do
  match ← Reader.peek with
  | none => Reader.failEnd .value
  | some character =>
    if character.isDigit then digits else Reader.failNext .invalidNumber

/-- Reads the sign of an exponent; says whether it is a minus. -/
def exponentSign : Reader Bool := do
  match ← Reader.peek with
  | some '+' =>
    Reader.skip 1
    return false
  | some '-' =>
    Reader.skip 1
    return true
  | _ => return false

/-- The largest exponent that is told apart from an overflow: that of a signed word of 32 bits. -/
def largestExponent : Nat := UInt32.size / 2 - 1

/-- Gives the double for a significand and a power of ten. -/
def conclude (negative : Bool) (significand : Nat) (exponent : Int) : Reader Number :=
  match scaled? significand exponent with
  | some value => return signed negative value
  | none => Reader.fail .numberOutOfRange

/-- Reads the exponent behind its letter and gives the number. An exponent that is too large by
itself makes the number zero or puts it out of range, at the first digit too many. -/
def exponentPart (negative : Bool) (significand : Nat) (exponent : Int) : Reader Number := do
  Reader.skip 1
  let down ← exponentSign
  let start ← get
  let written ← someDigits
  match append largestExponent 0 written with
  | (power, 0) =>
    if down then conclude negative significand (exponent - power)
    else conclude negative significand (exponent + power)
  | (_, left) =>
    if significand ≠ 0 ∧ !down then
      set (start.drop (written.length - left + 1))
      Reader.fail .numberOutOfRange
    else return signed negative 0

/-- Reads an exponent, if one comes next, and gives the number. -/
def withExponent (negative : Bool) (significand : Nat) (exponent : Int) : Reader Number := do
  match ← Reader.peek with
  | some 'e' => exponentPart negative significand exponent
  | some 'E' => exponentPart negative significand exponent
  | _ => conclude negative significand exponent

/-- Reads a number without its sign. A minus zero is no integer, and neither is a number below
`- 2 ^ 63`. -/
def unsigned (negative : Bool) : Reader Number := do
  let (significand, left) := append largest 0 (← wholeDigits)
  match ← Reader.peek with
  | some '.' =>
    Reader.skip 1
    let fraction ← someDigits
    let (significand, passed) := append largest significand fraction
    withExponent negative significand (left - (fraction.length - passed))
  | some 'e' => exponentPart negative significand left
  | some 'E' => exponentPart negative significand left
  | _ =>
    if left ≠ 0 then conclude negative significand left
    else if !negative then return integer significand
    else if significand = 0 ∨ UInt64.size / 2 < significand then
      return signed true (UInt64.ofNat significand).toFloat
    else return integer (-significand)

/-- Reads a number. -/
def read : Reader Number := do
  match ← Reader.peek with
  | some '-' =>
    Reader.skip 1
    unsigned true
  | _ => unsigned false

/-- Whether a number begins with this character. -/
def begins (character : Char) : Bool :=
  character == '-' || character.isDigit

end Number

end SerialFeed.Json
