/-
This file reads settings from the text of a settings file. The usual form is an object whose members
are fields, in any order, each at most once and none that is unknown; the values of all fields may
also stand in a list, in order. A field is absent if its member is missing or null. The bits are
integers of eight bits and the times integers of 64 bits; parity and flow control are names, each of
which may also stand as the only key of an object whose value is null.

Where a value of another type stands, it is read as far as its type and, for simple values, its
content can be told; a trouble on the way is reported instead.
-/

import SerialFeed.Json.Number
import SerialFeed.Json.Quote
import SerialFeed.Settings.Basic

namespace SerialFeed.Json

/-- What comes next in the text, of which the first character is given; lists and objects are not
read. -/
def found (character : Char) : Reader Found := do
  if character = 'n' then
    Reader.skip 1
    Reader.word ['u', 'l', 'l']
    return .null
  else if character = 't' then
    Reader.skip 1
    Reader.word ['r', 'u', 'e']
    return .boolean true
  else if character = 'f' then
    Reader.skip 1
    Reader.word ['a', 'l', 's', 'e']
    return .boolean false
  else if Number.begins character then return (← Number.read).found
  else if character = '"' then return .string (← Quote.read)
  else if character = '[' then return .sequence
  else if character = '\x7b' then return .map
  else Reader.failNext .expectedValue

/-- Complains that the value that comes next is not of the expected type. -/
def mismatch {Value : Type} (character : Char) (expected : String) : Reader Value := do
  let found ← found character
  Reader.fail (.invalidType found expected)

end SerialFeed.Json

namespace SerialFeed.Settings

open Json

/-! ### Values -/

/-- Reads a value or null, which stands for none. -/
def readOptional {Value : Type} (reader : Reader Value) : Reader (Option Value) := do
  match ← Reader.peekBehindBlanks with
  | some 'n' =>
    Reader.skip 1
    Reader.word ['u', 'l', 'l']
    return none
  | _ => return some (← reader)

/-- Reads an integer from zero up to a limit; `expected` names its type. -/
def readInteger (limit : Nat) (expected : String) : Reader Nat := do
  match ← Reader.peekBehindBlanks with
  | none => Reader.failEnd .value
  | some character =>
    if Number.begins character then
      match ← Number.read with
      | .floating value => Reader.fail (.invalidType (.floating value) expected)
      | .integer value =>
        if 0 ≤ value ∧ value ≤ limit then return value.toNat
        else Reader.fail (.invalidValue value expected)
    else mismatch character expected

def readBits : Reader UInt8 :=
  return UInt8.ofNat (← readInteger (UInt8.size - 1) "u8")

def readTime : Reader UInt64 :=
  return UInt64.ofNat (← readInteger (UInt64.size - 1) "u64")

/-- Reads one of some names, whose opening quote comes next. -/
def readName {Value : Type} (name : Value → String) (all : List Value) : Reader Value := do
  let written := String.ofList (← Quote.read)
  match all.find? fun value => name value == written with
  | some value => return value
  | none => Reader.fail (.unknownVariant written (all.map name))

/-- Reads the null that belongs to a name. -/
def readNothing : Reader Unit := do
  match ← Reader.peekBehindBlanks with
  | none => Reader.failEnd .value
  | some character =>
    if character = 'n' then
      Reader.skip 1
      Reader.word ['u', 'l', 'l']
    else mismatch character "unit"

/-- Reads one of some names behind an opening brace, where it is the only key. -/
def readNameAsKey {Value : Type} (name : Value → String) (all : List Value) : Reader Value := do
  match ← Reader.peekBehindBlanks with
  | none => Reader.failEnd .object
  | some '\x7d' => Reader.failNext .expectedValue
  | some '"' =>
    let value ← readName name all
    Reader.colon
    readNothing
    match ← Reader.peekBehindBlanks with
    | none => Reader.failEnd .object
    | some '\x7d' =>
      Reader.skip 1
      return value
    | some _ => Reader.fail .expectedValue
  | some _ => Reader.failNext .keyNoString

/-- Reads one of some names in either form. -/
def readChoice {Value : Type} (name : Value → String) (all : List Value) : Reader Value := do
  match ← Reader.peekBehindBlanks with
  | none => Reader.failEnd .value
  | some '"' => readName name all
  | some '\x7b' =>
    Reader.skip 1
    readNameAsKey name all
  | some _ => Reader.failNext .expectedValue

/-- Reads the value of a field into the settings. -/
def readField (settings : Settings) : Field → Reader Settings
  | .dataBits => do
    let dataBits ← readOptional readBits
    return { settings with dataBits }
  | .parity => do
    let parity ← readOptional (readChoice Parity.name Parity.all)
    return { settings with parity }
  | .stopBits => do
    let stopBits ← readOptional readBits
    return { settings with stopBits }
  | .flowControl => do
    let flowControl ← readOptional (readChoice FlowControl.name FlowControl.all)
    return { settings with flowControl }
  | .timeout => do
    let timeout ← readOptional readTime
    return { settings with timeout }
  | .settle => do
    let settle ← readOptional readTime
    return { settings with settle }

/-! ### The object -/

/-- Reads the key of the next member, if there is one; the closing brace is passed. -/
def readKey (first : Bool) : Reader (Option String) := do
  match ← Reader.peekBehindBlanks with
  | none => Reader.failEnd .object
  | some '\x7d' =>
    Reader.skip 1
    return none
  | some character =>
    if first then
      if character = '"' then return some (String.ofList (← Quote.read))
      else Reader.failNext .keyNoString
    else if character = ',' then
      Reader.skip 1
      match ← Reader.peekBehindBlanks with
      | none => Reader.failEnd .value
      | some '"' => return some (String.ofList (← Quote.read))
      | some '\x7d' => Reader.failNext .trailingComma
      | some _ => Reader.failNext .keyNoString
    else Reader.failNext .expectedCommaOrBrace

/-- Complains about the key that was just read; the blanks behind it, and a closing brace behind
them, still count as read. -/
def refuseKey {Value : Type} (trouble : Trouble) : Reader Value := do
  if (← Reader.peekBehindBlanks) = some '\x7d' then Reader.skip 1
  Reader.fail trouble

/-- Reads the members of an object up to its closing brace; `unmet` are the fields that have had no
member yet. -/
def readMembers (first : Bool) (unmet : List Field) (settings : Settings) : Reader Settings := do
  match ← readKey first with
  | none => return settings
  | some key =>
    match Field.ofKey? key with
    | none => refuseKey (.unknownField key (Field.all.map Field.key))
    | some field =>
      if _ : field ∈ unmet then
        Reader.colon
        readMembers false (unmet.erase field) (← readField settings field)
      else refuseKey (.duplicateField key)
termination_by unmet.length
decreasing_by
  rename_i awaited _
  have positive := List.length_pos_of_mem awaited
  have erased := List.length_erase_of_mem awaited
  omega

/-! ### The list -/

/-- What a list of settings should be. -/
def listDescription : String :=
  "struct Settings with 6 elements"

/-- Passes the closing bracket behind the last value. -/
def readListEnd : Reader Unit := do
  match ← Reader.peekBehindBlanks with
  | none => Reader.failEnd .list
  | some ']' => Reader.skip 1
  | some ',' =>
    Reader.skip 1
    match ← Reader.peekBehindBlanks with
    | some ']' => Reader.failNext .trailingComma
    | _ => Reader.failNext .trailingCharacters
  | some _ => Reader.failNext .trailingCharacters

/-- Goes to the next value of a list, of which so many have been read. -/
def readSeparator (count : Nat) : Reader Unit := do
  match ← Reader.peekBehindBlanks with
  | none => Reader.failEnd .list
  | some ']' =>
    Reader.skip 1
    Reader.fail (.invalidLength count listDescription)
  | some character =>
    if count = 0 then return
    else if character = ',' then
      Reader.skip 1
      match ← Reader.peekBehindBlanks with
      | none => Reader.failEnd .value
      | some ']' => Reader.failNext .trailingComma
      | some _ => return
    else Reader.failNext .expectedCommaOrBracket

/-- Reads the values of some fields, of which so many have been read before, and the end of the
list. -/
def readValues (count : Nat) (settings : Settings) : List Field → Reader Settings
  | [] => do
    readListEnd
    return settings
  | field :: rest => do
    readSeparator count
    readValues (count + 1) (← readField settings field) rest

/-! ### The file -/

/-- Reads settings in either form. -/
def read : Reader Settings := do
  match ← Reader.peekBehindBlanks with
  | none => Reader.failEnd .value
  | some '[' =>
    Reader.skip 1
    readValues 0 {} Field.all
  | some '\x7b' =>
    Reader.skip 1
    readMembers true Field.all {}
  | some character => mismatch character "struct Settings"

/-- The settings that a text stands for. -/
def ofText (text : String) : Except Complaint Settings :=
  Reader.runAll read text

end SerialFeed.Settings
