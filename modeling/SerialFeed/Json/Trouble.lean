/-
This file holds what can be wrong with a text that is read as a value of a known form, and the words
for it. A complaint is a trouble at a position.

A message that repeats text writes it between double quotes, so that every character of it is seen:
the quote and the backslash stand behind a backslash, the usual control characters have a letter,
and every other hidden character stands by its number.
-/

import SerialFeed.Decimal.Shortest
import SerialFeed.Json.Cursor
import SerialFeed.Text.Hidden

namespace SerialFeed.Text.Quoted

/-- The lower-case hexadecimal digits of a number, without leading zeros. -/
def hexadecimal (number : Nat) : List Char :=
  Nat.toDigits 16 number

/-- A character as it stands in quoted text. -/
def encodeChar (character : Char) : List Char :=
  if character = '\x00' then ['\\', '0']
  else if character = '\t' then ['\\', 't']
  else if character = '\r' then ['\\', 'r']
  else if character = '\n' then ['\\', 'n']
  else if character = '\\' then ['\\', '\\']
  else if character = '"' then ['\\', '"']
  else if isHidden character then
    ['\\', 'u', '\x7b'] ++ hexadecimal character.toNat ++ ['\x7d']
  else [character]

/-- The text between double quotes. -/
def encode (text : List Char) : List Char :=
  '"' :: (text.flatMap encodeChar ++ ['"'])

end SerialFeed.Text.Quoted

namespace SerialFeed.Json

/-- A part of a text that its end can cut off. -/
inductive Unfinished where
  | value
  | list
  | object
  | string
  deriving DecidableEq, Repr

def Unfinished.name : Unfinished → String
  | value => "a value"
  | list => "a list"
  | object => "an object"
  | string => "a string"

/-- What stands in a text where something else is needed. -/
inductive Found where
  | null
  | boolean (value : Bool)
  | integer (value : Int)
  | floating (value : Float)
  | string (text : List Char)
  | sequence
  | map

def Found.description : Found → String
  | null => "null"
  | boolean value => s!"boolean `{value}`"
  | integer value => s!"integer `{value}`"
  | floating value => s!"floating point `{String.ofList (Decimal.shortestText value)}`"
  | string text => s!"string {String.ofList (Text.Quoted.encode text)}"
  | sequence => "sequence"
  | map => "map"

/-- Everything that can be wrong. -/
inductive Trouble where
  | endWithin (unfinished : Unfinished)
  | expectedValue
  | expectedWord
  | expectedColon
  | expectedCommaOrBrace
  | expectedCommaOrBracket
  | keyNoString
  | trailingComma
  | trailingCharacters
  | invalidNumber
  | numberOutOfRange
  | controlCharacter
  | invalidEscape
  /-- The first half of a pair of escapes has no second half. -/
  | unfinishedPair
  /-- A half of a pair of escapes stands where it cannot. -/
  | lonePart
  | unknownField (name : String) (known : List String)
  | duplicateField (name : String)
  | unknownVariant (name : String) (known : List String)
  | invalidType (found : Found) (expected : String)
  | invalidValue (number : Int) (expected : String)
  | invalidLength (length : Nat) (expected : String)

/-- Some names in quotes, with commas between them. -/
def quotedNames (names : List String) : String :=
  String.intercalate ", " (names.map fun name => s!"`{name}`")

def Trouble.message : Trouble → String
  | endWithin unfinished => s!"EOF while parsing {unfinished.name}"
  | expectedValue => "expected value"
  | expectedWord => "expected ident"
  | expectedColon => "expected `:`"
  | expectedCommaOrBrace => "expected `,` or `\x7d`"
  | expectedCommaOrBracket => "expected `,` or `]`"
  | keyNoString => "key must be a string"
  | trailingComma => "trailing comma"
  | trailingCharacters => "trailing characters"
  | invalidNumber => "invalid number"
  | numberOutOfRange => "number out of range"
  | controlCharacter => "control character (\\u0000-\\u001F) found while parsing a string"
  | invalidEscape => "invalid escape"
  | unfinishedPair => "unexpected end of hex escape"
  | lonePart => "lone leading surrogate in hex escape"
  | unknownField name known => s!"unknown field `{name}`, expected one of {quotedNames known}"
  | duplicateField name => s!"duplicate field `{name}`"
  | unknownVariant name known => s!"unknown variant `{name}`, expected one of {quotedNames known}"
  | invalidType found expected => s!"invalid type: {found.description}, expected {expected}"
  | invalidValue number expected => s!"invalid value: integer `{number}`, expected {expected}"
  | invalidLength length expected => s!"invalid length {length}, expected {expected}"

/-- A trouble at a position. -/
structure Complaint where
  trouble : Trouble
  position : Position

def Complaint.message (complaint : Complaint) : String :=
  let ⟨line, column⟩ := complaint.position
  s!"{complaint.trouble.message} at line {line} column {column}"

end SerialFeed.Json
