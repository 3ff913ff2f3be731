/-
This file reads quoted strings. Within the quotes a backslash begins an escape: a letter for a
common character, or four hexadecimal digits for a unit of UTF-16, of which two in a row make a pair
when the first is a high half and the second a low half. Control characters have to be escaped.
-/

import SerialFeed.Json.Reader

namespace SerialFeed.Json.Quote

/-- The character that a letter behind a backslash stands for. -/
def letter? : Char → Option Char
  | '"' => some '"'
  | '\\' => some '\\'
  | '/' => some '/'
  | 'b' => some '\x08'
  | 'f' => some '\x0c'
  | 'n' => some '\n'
  | 'r' => some '\r'
  | 't' => some '\t'
  | _ => none

/-- The number that four hexadecimal digits stand for. -/
def unit? : List Char → Option Nat
  | [first, second, third, fourth] => do
    let first ← Text.Hex.value? first
    let second ← Text.Hex.value? second
    let third ← Text.Hex.value? third
    let fourth ← Text.Hex.value? fourth
    return ((first * 16 + second) * 16 + third) * 16 + fourth
  | _ => none

/-- Reads the four digits of a unit. Anything else of four bytes is no escape. -/
def unit (cursor : Cursor) : Except Complaint Nat :=
  match unit? (cursor.rest.take 4) with
  | some value => .ok value
  | none =>
    match cursor.position.afterBytes? 4 cursor.rest with
    | some position => .error ⟨.invalidEscape, position⟩
    | none => .error ⟨.endWithin .string, cursor.atEnd.position⟩

def isHighHalf (value : Nat) : Bool :=
  0xD800 ≤ value && value ≤ 0xDBFF

def isLowHalf (value : Nat) : Bool :=
  0xDC00 ≤ value && value ≤ 0xDFFF

/-- The character that a pair of halves stands for. -/
def ofPair (high low : Nat) : Char :=
  Char.ofNat (0x10000 + (high - 0xD800) * 0x400 + (low - 0xDC00))

/-- Reads the second half of a pair; the result counts the characters of both. -/
def secondHalf (high : Nat) (cursor : Cursor) : Except Complaint (Char × Nat) :=
  let unfinished (cursor : Cursor) : Complaint :=
    ⟨.unfinishedPair, cursor.position.onNextByte cursor.rest⟩
  let ended : Complaint := ⟨.endWithin .string, cursor.atEnd.position⟩
  match cursor.rest with
  | [] => .error ended
  | '\\' :: [] => .error ended
  | '\\' :: 'u' :: _ => do
    let low ← unit (cursor.drop 2)
    if isLowHalf low then .ok (ofPair high low, 11)
    else .error ⟨.lonePart, (cursor.drop 6).position⟩
  | '\\' :: _ => .error (unfinished (cursor.drop 1))
  | _ => .error (unfinished cursor)

/-- Reads what follows a backslash: the character that is meant, and of how many characters the
escape consists. -/
def escape (cursor : Cursor) : Except Complaint (Char × Nat) :=
  match cursor.rest with
  | [] => .error ⟨.endWithin .string, cursor.position⟩
  | 'u' :: _ => do
    let value ← unit (cursor.drop 1)
    if isLowHalf value then .error ⟨.lonePart, (cursor.drop 5).position⟩
    else if isHighHalf value then secondHalf value (cursor.drop 5)
    else .ok (Char.ofNat value, 5)
  | character :: _ =>
    match letter? character with
    | some meant => .ok (meant, 1)
    | none => .error ⟨.invalidEscape, cursor.position.onNextByte cursor.rest⟩

/-- Reads up to the closing quote, which is passed. -/
def body (position : Position) : List Char → Except Complaint (List Char × Cursor)
  | [] => .error ⟨.endWithin .string, position⟩
  | character :: rest =>
    let next := position.advance character
    if character = '"' then .ok ([], ⟨rest, next⟩)
    else if character = '\\' then do
      let (meant, count) ← escape ⟨rest, next⟩
      let (others, cursor) ← body (next.advanceAll (rest.take count)) (rest.drop count)
      return (meant :: others, cursor)
    else if character.toNat < 0x20 then
      .error ⟨.controlCharacter, position.onNextByte (character :: rest)⟩
    else do
      let (others, cursor) ← body next rest
      return (character :: others, cursor)
termination_by text => text.length
decreasing_by
  · simp only [List.length_drop, List.length_cons]
    omega
  · exact Nat.lt_succ_self _

/-- Reads a string whose opening quote comes next. -/
def read : Reader (List Char) := do
  Reader.skip 1
  fun cursor => body cursor.position cursor.rest

end SerialFeed.Json.Quote
