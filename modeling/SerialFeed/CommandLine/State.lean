/-
This file reads a command line. Its texts are taken from left to right, and the first one that is
wrong decides. An option with a value, and a positional value, are held back until the next argument
is recognised: only then is it checked that the option has a value, that it was not given before,
and that its value is one. What arguments exclude or need each other is looked at after the last
text.
-/

import SerialFeed.CommandLine.Arguments
import SerialFeed.CommandLine.Shape
import SerialFeed.Text.Similarity

namespace SerialFeed.CommandLine

/-- Why the reading of a command line stops early. -/
inductive Stop where
  | help
  | version
  | misuse (misuse : Misuse)
  deriving DecidableEq, Repr

/-- An argument that is held back. Only an option can still be without its value. -/
inductive Pending where
  | positional (position : Positional) (value : String)
  | setting (option : Setting) (value : Option String)
  deriving DecidableEq, Repr

/-- What is known between two texts: the values so far, the arguments used so far in the order of
their last occurrence, the one that is held back, the positional values that are still free, and
whether the options have ended. -/
structure State where
  values : Arguments := {}
  used : List Argument := []
  pending : Option Pending := none
  free : List Positional := Positional.all
  ended : Bool := false
  deriving DecidableEq, Repr

namespace State

/-- The state without an argument that is held back: it is checked and its value is taken over. -/
def commit (state : State) : Except Misuse State :=
  match state.pending with
  | none => .ok state
  | some (.positional position value) =>
    .ok
      { state with
        values := state.values.withPositional value position
        used := state.used ++ [.positional position]
        pending := none }
  | some (.setting option none) => .error (.valueMissing option)
  | some (.setting option (some value)) => do
    if state.used.contains (.setting option) then .error (.repeated (.setting option))
    else
      let values ← state.values.withSetting value option
      return { state with values, used := state.used ++ [.setting option], pending := none }

/-- The arguments that count as used when another text turns out to be wrong. The argument that is
held back is one of them, whether or not its value is good; an option that is repeated is none. -/
def usedAtFault (state : State) : List Argument :=
  match state.pending with
  | none => state.used
  | some (.positional position _) => state.used ++ [.positional position]
  | some (.setting _ none) => state.used
  | some (.setting option (some _)) =>
    if state.used.contains (.setting option) then state.used.erase (.setting option)
    else state.used ++ [.setting option]

/-- Takes a flag. -/
def takeFlag (state : State) (flag : Flag) : Except Stop State := do
  let state ← state.commit.mapError .misuse
  match flag with
  | .help => .error .help
  | .version => .error .version
  | .list =>
    if state.used.contains (.flag .list) then .error (.misuse (.repeated (.flag .list)))
    else
      .ok
        { state with
          values := { state.values with list := true }
          used := state.used ++ [.flag .list] }
  | .verbose =>
    .ok
      { state with
        values :=
          { state.values with verbose := min (state.values.verbose + 1) Arguments.maxVerbose }
        used := state.used.erase (.flag .verbose) ++ [.flag .verbose] }

/-- Takes flags that are given by their letters. -/
def takeLetters (state : State) : List Char → Except Stop State
  | [] => .ok state
  | letter :: rest =>
    match Flag.ofLetter? letter with
    | some flag => do (← state.takeFlag flag).takeLetters rest
    | none => .error (.misuse (.unknown (String.ofList ['-', letter]) .asValue []))

/-- Takes the next positional value. -/
def takeWord (state : State) (text : String) : Except Stop State :=
  match state.free with
  | [] => .error (.misuse (.unknown text .none []))
  | position :: free => do
    let state ← state.commit.mapError .misuse
    return { state with pending := some (.positional position text), free }

/-- Takes a value: it belongs to an option that waits for one, or else is the next positional
value. -/
def takeValue (state : State) (text : String) : Except Stop State :=
  match state.pending with
  | some (.setting option none) =>
    .ok { state with pending := some (.setting option (some text)) }
  | _ => state.takeWord text

/-- How alike two names have to be for one to be offered for the other. -/
def alike : Float := 0.7

/-- The option whose name is most like a name, if one is alike enough; of several the last. -/
def similar? (name : List Char) : Option Argument :=
  let closer (best : Option (Argument × Float)) (argument : Argument) :=
    let measure := Text.similarity name (argument.longName?.getD "").toList
    let beaten := best.all fun found => found.2 <= measure
    if alike < measure && beaten then some (argument, measure) else best
  (Argument.options.foldl closer none).map Prod.fst

/-- What is said of a name that no option has. An option that is offered for it counts as used. -/
def unknownName (state : State) (name : List Char) : Misuse :=
  let used := state.usedAtFault
  let text := String.ofList ('-' :: '-' :: name)
  match similar? name with
  | none => .unknown text .asValue used
  | some argument =>
    .unknown text (.similar argument) (if used.contains argument then used else used ++ [argument])

/-- Takes an option that is given by its name. -/
def takeName (state : State) (name : List Char) (value : Option (List Char)) :
    Except Stop State :=
  match Argument.ofLongName? (String.ofList name), value with
  | some (.flag flag), none => state.takeFlag flag
  | some (.flag flag), some value =>
    .error (.misuse (.unexpectedValue (String.ofList value) flag state.used))
  | some (.setting option), none => do
    let state ← state.commit.mapError .misuse
    return { state with pending := some (.setting option none) }
  | some (.setting option), some value => do
    let state ← state.commit.mapError .misuse
    let pending := Pending.setting option (some (String.ofList value))
    (State.commit { state with pending := some pending }).mapError .misuse
  | _, _ => .error (.misuse (state.unknownName name))

/-- Whether the next positional value may look like a negative number. -/
def negativeIsNext (state : State) : Bool :=
  state.free.head?.any Positional.takesNegative

/-- Takes the next text. -/
def take (state : State) (text : String) : Except Stop State :=
  if state.ended then state.takeWord text
  else
    match Shape.ofText text.toList with
    | .escape => .ok { state with ended := true }
    | .long name value => state.takeName name value
    | .short letters =>
      if state.negativeIsNext && looksNumeric letters then state.takeValue text
      else state.takeLetters letters
    | .word => state.takeValue text

/-! ### The end of a command line -/

/-- The positional values that are used. -/
def usedPositionals (state : State) : List Argument :=
  state.used.filter Argument.isPositional

/-- What is said of a command line that has the list flag and positional values. The argument that
stands first is said to exclude the others. -/
def conflict? (state : State) : Option Misuse :=
  let list : Argument := .flag .list
  let positionals := state.usedPositionals
  if !state.used.contains list || positionals.isEmpty then none
  else
    match state.used.find? fun argument => argument == list || argument.isPositional with
    | some (.flag _) =>
      some (.conflict list positionals (state.used.filter fun argument => !argument.isPositional))
    | some argument => some (.conflict argument [list] (state.used.erase list))
    | none => none

/-- What is said of a command line that lacks positional values; with the list flag there need not
be any. -/
def missing? (state : State) : Option Misuse :=
  let missing := Positional.all.filter fun positional =>
    !state.used.contains (.positional positional)
  if state.used.contains (.flag .list) || missing.isEmpty then none
  else some (.missing missing state.used)

/-- The arguments of a command line whose last text has been taken. -/
def finish (state : State) : Except Stop Arguments := do
  let state ← state.commit.mapError .misuse
  match state.conflict? <|> state.missing? with
  | some misuse => .error (.misuse misuse)
  | none => .ok state.values

end State

/-- The arguments for which the texts of a command line stand. -/
def Arguments.ofTexts (texts : List String) : Except Stop Arguments := do
  (← texts.foldlM State.take {}).finish

end SerialFeed.CommandLine
