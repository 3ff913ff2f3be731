/-
This file holds the readers of parts of a text, and the smallest of them. A reader starts at a place
and either gives a value and the place behind it or complains. Most complaints are about the next
byte, and their position is the one behind that byte; the others are about what was just read.
-/

import SerialFeed.Json.Trouble

namespace SerialFeed.Json

/-- A reader of a value. -/
abbrev Reader (Value : Type) := StateT Cursor (Except Complaint) Value

namespace Reader

variable {Value : Type}

/-- Complains about what was just read. -/
def fail (trouble : Trouble) : Reader Value := fun cursor =>
  .error ⟨trouble, cursor.position⟩

/-- Complains about the next byte. -/
def failNext (trouble : Trouble) : Reader Value := fun cursor =>
  .error ⟨trouble, cursor.position.onNextByte cursor.rest⟩

/-- Complains that the text has ended. -/
def failEnd (unfinished : Unfinished) : Reader Value :=
  fail (.endWithin unfinished)

/-- What is still to be read. -/
def rest : Reader (List Char) := do
  return (← get).rest

/-- The next character, which is not passed. -/
def peek : Reader (Option Char) := do
  return (← get).rest.head?

/-- The next character behind the blanks, which are passed. -/
def peekBehindBlanks : Reader (Option Char) := do
  modify Cursor.skipBlanks
  peek

/-- Passes so many characters. -/
def skip (count : Nat) : Reader Unit :=
  modify fun cursor => cursor.drop count

/-- Passes the rest of a word whose first letter has announced it. -/
def word : List Char → Reader Unit
  | [] => return
  | expected :: others => do
    match ← peek with
    | none => failEnd .value
    | some character =>
      if character = expected then
        skip 1
        word others
      else failNext .expectedWord

/-- Passes the colon behind a key. -/
def colon : Reader Unit := do
  match ← peekBehindBlanks with
  | none => failEnd .object
  | some ':' => skip 1
  | some _ => failNext .expectedColon

/-- Makes sure that only blanks are left. -/
def finish : Reader Unit := do
  match ← peekBehindBlanks with
  | none => return
  | some _ => failNext .trailingCharacters

/-- What a reader makes of a whole text. -/
def runAll (reader : Reader Value) (text : String) : Except Complaint Value :=
  StateT.run' (do
    let value ← reader
    finish
    return value) (Cursor.ofText text)

end Reader

end SerialFeed.Json
