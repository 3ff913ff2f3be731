/-
This file measures how alike two texts are. Characters match if they are equal and not too far
apart; every character of the first text is matched with the first free character of the second. Two
texts are the more alike the more of their characters match and the fewer of the matched ones stand
in another order.
-/

namespace SerialFeed.Text

/-- How far apart two characters may stand to match, for texts of these lengths. -/
def matchRange (first second : Nat) : Nat :=
  max first second / 2 - 1

/-- The position of the first free character of a text that equals the given one and stands within
the range of its position. Free are the characters that are not used yet. -/
def matchFor? (range position : Nat) (character : Char) (used : List Nat) (text : List Char) :
    Option Nat :=
  (List.range (min text.length (position + range + 1))).find? fun other =>
    position - range ≤ other && text[other]? == some character && !used.contains other

/-- The positions of the characters of a second text that match those of the first; `position` is
that of the next character of the first text. -/
def matchesFrom (range position : Nat) (used : List Nat) (second : List Char) :
    List Char → List (Char × Nat)
  | [] => []
  | character :: rest =>
    match matchFor? range position character used second with
    | none => matchesFrom range (position + 1) used second rest
    | some other =>
      (character, other) :: matchesFrom range (position + 1) (other :: used) second rest

/-- How alike two texts are: one if they are equal, zero if no characters match. -/
def similarity (first second : List Char) : Float :=
  let range := matchRange first.length second.length
  let pairs := matchesFrom range 0 [] second first
  let count := pairs.length
  if first.isEmpty && second.isEmpty then 1
  else if count = 0 then 0
  else
    let positions := pairs.map Prod.snd
    let inOrder := (List.range second.length).filter positions.contains
    let displaced := ((pairs.map Prod.fst).zip inOrder).countP fun pair =>
      second[pair.2]? != some pair.1
    let swaps := displaced / 2
    (count.toFloat / first.length.toFloat + count.toFloat / second.length.toFloat +
      (count - swaps).toFloat / count.toFloat) / 3

end SerialFeed.Text
