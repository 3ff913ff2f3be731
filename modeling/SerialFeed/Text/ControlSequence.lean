/-
This file takes out of a text what a terminal obeys and does not show: control characters, and the
control sequences that an escape character begins. The character behind the escape character says
which kind of sequence it is: one of a few characters, one with numbers up to a last letter, a
command for the terminal's own program, or a string for a device. Line ends, tabs and form feeds are
shown, also in the middle of a sequence that is no string.

There are two ways to go on behind such a blank. In a message it ends the sequence. In a log it only
interrupts it: what follows is shown up to the next control character, and there the sequence goes
on. Where no control character is, the text is left as it is.
-/

namespace SerialFeed.Text

/-- The part of a text in which a character stands. -/
inductive Region where
  /-- Outside all control sequences. -/
  | plain
  /-- Behind an escape character. -/
  | escape
  /-- Behind an escape character and marks, of which the last character is still to come. -/
  | marks
  /-- In a sequence of numbers and marks that ends with a letter. -/
  | numbers
  /-- At the head of a string for a device, where the head's numbers may come. -/
  | deviceHead
  | deviceNumbers
  | deviceMarks
  /-- In a string for a device or for a program, which ends with the byte 0x9C. -/
  | string
  /-- In a command for the terminal's own program, which ends with a bell. -/
  | command
  deriving DecidableEq, Repr

namespace Region

/-- Whether the code point of a character is in a range. -/
def within (first last : Nat) (character : Char) : Bool :=
  first ≤ character.toNat && character.toNat ≤ last

/-- Line ends, tabs and form feeds. -/
def isSpacing (character : Char) : Bool :=
  character == '\t' || character == '\n' || character == '\x0c' || character == '\r'

/-- Whether a character ends a string: some character beyond ASCII whose encoding has the byte
0x9C. -/
def endsString (character : Char) : Bool :=
  (String.utf8EncodeChar character).contains 0x9C

/-- Whether a character of a region is shown. -/
def shows (region : Region) (character : Char) : Bool :=
  match region with
  | plain => isSpacing character || (0x20 ≤ character.toNat && character != '\x7f')
  | escape => isSpacing character
  | marks => isSpacing character
  | numbers => isSpacing character
  | _ => false

/-- The region behind a character that is not shown. The escape character begins a new sequence
everywhere, and two control characters end every sequence. -/
def next (region : Region) (character : Char) : Region :=
  if character = '\x1b' then escape
  else if character = '\x18' ∨ character = '\x1a' then plain
  else
    match region with
    | plain => plain
    | escape =>
      if character = '[' then numbers
      else if character = ']' then command
      else if character = 'P' then deviceHead
      else if character = 'X' ∨ character = '^' ∨ character = '_' then string
      else if within 0x20 0x2F character then marks
      else if within 0x30 0x7E character then plain
      else escape
    | marks => if within 0x30 0x7E character then plain else marks
    | numbers => if within 0x40 0x7E character then plain else numbers
    | deviceHead =>
      if within 0x20 0x2F character then deviceMarks
      else if within 0x30 0x3F character then deviceNumbers
      else if within 0x40 0x7E character then string
      else deviceHead
    | deviceNumbers =>
      if within 0x20 0x2F character then deviceMarks
      else if within 0x3C 0x7E character then string
      else deviceNumbers
    | deviceMarks => if within 0x30 0x7E character then string else deviceMarks
    | string => if endsString character then plain else string
    | command => if character = '\x07' then plain else command

end Region

/-- What is shown of a text that begins in a region, if what is shown ends every sequence. -/
def shownFrom (region : Region) : List Char → List Char
  | [] => []
  | character :: rest =>
    if region.shows character then character :: shownFrom .plain rest
    else shownFrom (region.next character) rest

/-- What a message shows of a text. -/
def shown (text : List Char) : List Char :=
  shownFrom .plain text

/-- What is shown of a text that begins in a region, if a blank of ASCII only interrupts a sequence;
`interrupted` says whether one has done so. Other characters that are shown in between are shown as
outside of all sequences, and one beyond ASCII ends the sequence after all. -/
def loggedFrom (region : Region) (interrupted : Bool) : List Char → List Char
  | [] => []
  | character :: rest =>
    if region.shows character || (interrupted && Region.plain.shows character) then
      character :: loggedFrom (if character.toNat < 0x80 then region else .plain) true rest
    else loggedFrom (region.next character) false rest

/-- What a log shows of a text. -/
def logged (text : List Char) : List Char :=
  loggedFrom .plain false text

end SerialFeed.Text
