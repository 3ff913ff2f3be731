/-
This file tells by its first characters what a text of a command line is: the name of an option,
flags given by their letters, or a value. A text that begins with a hyphen and goes on like a number
can be a value too.
-/

namespace SerialFeed.CommandLine

/-- What a text looks like in front of the two hyphens that end all options. -/
inductive Shape where
  /-- Two hyphens. -/
  | escape
  /-- Two hyphens and a name, with the value behind an equals sign, if there is one. -/
  | long (name : List Char) (value : Option (List Char))
  /-- A hyphen and letters. -/
  | short (letters : List Char)
  /-- Everything else; a single hyphen is such a text. -/
  | word
  deriving DecidableEq, Repr

def Shape.ofText : List Char → Shape
  | ['-', '-'] => escape
  | '-' :: '-' :: rest =>
    match rest.dropWhile fun character => character != '=' with
    | [] => long rest none
    | _ :: value => long (rest.takeWhile fun character => character != '=') (some value)
  | '-' :: first :: rest => short (first :: rest)
  | _ => word

/-- Whether the letters behind a hyphen look like a number: digits with at most one point, which is
not the first character, and after that at most one exponent mark, which is neither the first nor
the last character. -/
def looksNumeric (text : List Char) : Bool :=
  scan 0 false false text
where
  /-- Goes on behind so many characters, with or without a point and an exponent mark in them. -/
  scan (passed : Nat) (point mark : Bool) : List Char → Bool
    | [] => true
    | character :: rest =>
      if character.isDigit then scan (passed + 1) point mark rest
      else if character = '.' then
        0 < passed && !point && !mark && scan (passed + 1) true mark rest
      else if character = 'e' then
        0 < passed && !mark && !rest.isEmpty && scan (passed + 1) point true rest
      else false

end SerialFeed.CommandLine
