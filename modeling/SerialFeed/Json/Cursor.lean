/-
This file holds the place of a reader in a text: what it has still to read, and its position, which
counts lines, and the bytes of the current line as UTF-8 writes them.
-/

import SerialFeed.Text.Hex

namespace SerialFeed.Json

/-- A position in a text: the line, counted from one, and how many bytes of it lie behind. -/
structure Position where
  line : Nat := 1
  column : Nat := 0
  deriving DecidableEq, Repr

namespace Position

/-- The position behind a character. -/
def advance (position : Position) (character : Char) : Position :=
  if character = '\n' then ⟨position.line + 1, 0⟩
  else ⟨position.line, position.column + character.utf8Size⟩

/-- The position behind a text. -/
def advanceAll (position : Position) (text : List Char) : Position :=
  text.foldl advance position

/-- The position behind the next byte of a text, or the same position at its end. -/
def onNextByte (position : Position) : List Char → Position
  | [] => position
  | character :: _ =>
    if character = '\n' then ⟨position.line + 1, 0⟩ else ⟨position.line, position.column + 1⟩

/-- The position so many bytes further on in a text, or none if there are not so many. The last of
the bytes may be in the middle of a character. -/
def afterBytes? (position : Position) : Nat → List Char → Option Position
  | 0, _ => some position
  | _ + 1, [] => none
  | count + 1, character :: rest =>
    if character.utf8Size ≤ count + 1 then
      (position.advance character).afterBytes? (count + 1 - character.utf8Size) rest
    else some ⟨position.line, position.column + (count + 1)⟩

end Position

/-- A place in a text: what is still to be read, and where that begins. -/
structure Cursor where
  rest : List Char
  position : Position := {}
  deriving DecidableEq, Repr

namespace Cursor

/-- The start of a text. -/
def ofText (text : String) : Cursor :=
  { rest := text.toList }

/-- The place behind the next so many characters. -/
def drop (cursor : Cursor) (count : Nat) : Cursor :=
  ⟨cursor.rest.drop count, cursor.position.advanceAll (cursor.rest.take count)⟩

/-- The place at the end of the text. -/
def atEnd (cursor : Cursor) : Cursor :=
  ⟨[], cursor.position.advanceAll cursor.rest⟩

/-- The characters that separate the parts of a text and mean nothing. -/
def isBlank (character : Char) : Bool :=
  character == ' ' || character == '\t' || character == '\n' || character == '\r'

/-- The place behind the blanks that come next. -/
def skipBlanks (cursor : Cursor) : Cursor :=
  cursor.drop (cursor.rest.takeWhile isBlank).length

end Cursor

end SerialFeed.Json
