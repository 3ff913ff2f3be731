/-
This file holds trees of files and the way down a path. A tree says what lies at each place, a place
being the names that lead to it from the root, and what lies there may be guarded. A path is walked
name after name: every name but the last has to lead to a directory that may be passed, and the
first name at which that fails decides what is said.
-/

import SerialFeed.ForwardError
import SerialFeed.Text.Hex

namespace SerialFeed

/-- What the operating system and the serial driver say to those whom they refuse: those who read,
those who pass on their way to another place, and those who open a port. -/
structure Guard where
  reading : Option SystemError := none
  passing : Option SystemError := none
  opening : Option OpenFault := none
  deriving DecidableEq

/-- What can lie at a place. -/
inductive Node where
  | file (contents : Bytes)
  | directory
  /-- A device that is no terminal; reading it gives these bytes. -/
  | device (contents : Bytes)
  /-- A terminal, which is what a serial port is. -/
  | terminal
  /-- Something that can be seen, but that its guard keeps from some or all uses. -/
  | guarded (node : Node) (guard : Guard)
  deriving DecidableEq

namespace Node

/-- Reads what lies at a place. Nobody types at a terminal. -/
def read : Node → Except SystemError Bytes
  | file contents => .ok contents
  | directory => .error .isADirectory
  | device contents => .ok contents
  | terminal => .ok []
  | guarded node guard =>
    match guard.reading with
    | some error => .error error
    | none => node.read

/-- Whether it is a regular file, which can be seen even if it may not be read. -/
def isFile : Node → Bool
  | file _ => true
  | guarded node _ => node.isFile
  | _ => false

/-- What keeps those from passing who are on their way to another place, if anything does. -/
def barrier? : Node → Option SystemError
  | directory => none
  | guarded node guard => node.barrier? <|> guard.passing
  | _ => some .notADirectory

end Node

/-- The names that lead from the root to a place. -/
abbrev Place := List String

/-- What lies at each place, if anything does. -/
abbrev FileTree := Place → Option Node

namespace Path

/-- The pieces of a text between its slashes. -/
def pieces : List Char → List (List Char)
  | [] => [[]]
  | character :: rest =>
    if character = '/' then [] :: pieces rest
    else
      match pieces rest with
      | [] => [[character]]
      | first :: others => (character :: first) :: others

/-- The names on a path. Slashes in a row count once; a slash at the end asks for a directory, as a
dot behind it would. -/
def names (path : String) : List String :=
  let pieces := pieces path.toList
  let last := pieces.getLastD []
  (pieces.dropLast.filter fun piece => piece ≠ []).map String.ofList ++
    [if last = [] then "." else String.ofList last]

/-- Whether a path starts at the root. -/
def isAbsolute (path : String) : Bool :=
  path.toList.head? == some '/'

/-- The path of an entry of a directory. -/
def join (directory name : String) : String :=
  if directory = "" ∨ directory.toList.getLast? = some '/' then directory ++ name
  else s!"{directory}/{name}"

end Path

namespace FileTree

/-- The most bytes that a name may have. -/
def maxName : Nat := 255

/-- The place to which some names lead. -/
def walk (tree : FileTree) (place : Place) : List String → Except SystemError Place
  | [] => .ok place
  | name :: rest =>
    match (tree place).map Node.barrier? with
    | none => .error .noSuchEntry
    | some (some error) => .error error
    | some none =>
      if name = "." then walk tree place rest
      else if name = ".." then walk tree place.dropLast rest
      else if maxName < name.utf8ByteSize then .error .nameTooLong
      else if tree (place ++ [name]) = none then .error .noSuchEntry
      else walk tree (place ++ [name]) rest

/-- What lies where some names lead. -/
def find (tree : FileTree) (start : Place) (names : List String) : Except SystemError Node := do
  match tree (← walk tree start names) with
  | none => .error .noSuchEntry
  | some node => .ok node

end FileTree

end SerialFeed
