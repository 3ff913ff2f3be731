/-
This file holds the arguments that the command line knows: three positional values, which are given
in order, options with a value, and flags. Messages call an argument by its label; in a usage line a
positional value that has to be given stands in angle brackets.
-/

namespace SerialFeed.CommandLine

/-- A value that is known by its position. -/
inductive Positional where
  | serialPort
  | baudRate
  | blockSize
  deriving DecidableEq, Repr

namespace Positional

def name : Positional → String
  | serialPort => "SERIAL_PORT"
  | baudRate => "BAUD_RATE"
  | blockSize => "BLOCK_SIZE"

/-- Every positional value, in order. -/
def all : List Positional :=
  [serialPort, baudRate, blockSize]

/-- How a value that has to be given is shown. -/
def requiredLabel (positional : Positional) : String :=
  s!"<{positional.name}>"

def label (positional : Positional) : String :=
  s!"[{positional.name}]"

/-- Whether a text that looks like a negative number may stand for the value. -/
def takesNegative : Positional → Bool
  | serialPort => false
  | baudRate => true
  | blockSize => true

end Positional

/-- An option with a value. -/
inductive Setting where
  | config
  | settle
  deriving DecidableEq, Repr

/-- An option without a value. -/
inductive Flag where
  | list
  | verbose
  | help
  | version
  deriving DecidableEq, Repr

/-- An argument. -/
inductive Argument where
  | positional (value : Positional)
  | setting (option : Setting)
  | flag (option : Flag)
  deriving DecidableEq, Repr

def Setting.longName : Setting → String
  | config => "config"
  | settle => "settle-ms"

def Setting.label : Setting → String
  | config => "--config <PATH>"
  | settle => "--settle-ms <MS>"

def Flag.longName : Flag → String
  | list => "list"
  | verbose => "verbose"
  | help => "help"
  | version => "version"

/-- The letter of a flag, if it has one. -/
def Flag.letter? : Flag → Option Char
  | list => none
  | verbose => some 'v'
  | help => some 'h'
  | version => some 'V'

/-- Dots show that a flag may be given more than once. -/
def Flag.label : Flag → String
  | verbose => "--verbose..."
  | flag => s!"--{flag.longName}"

/-- Every flag. -/
def Flag.all : List Flag :=
  [list, verbose, help, version]

def Flag.ofLetter? (letter : Char) : Option Flag :=
  all.find? fun flag => flag.letter? == some letter

namespace Argument

def label : Argument → String
  | positional value => value.label
  | setting option => option.label
  | flag option => option.label

/-- The name behind two hyphens, if the argument has one. -/
def longName? : Argument → Option String
  | positional _ => none
  | setting option => some option.longName
  | flag option => some option.longName

/-- Every option, in the order in which the help lists them. -/
def options : List Argument :=
  [flag .list, setting .config, setting .settle, flag .verbose, flag .help, flag .version]

def ofLongName? (name : String) : Option Argument :=
  options.find? fun argument => argument.longName? == some name

def isPositional : Argument → Bool
  | positional _ => true
  | _ => false

end Argument

/-! ### Usage -/

/-- The usage line for a command line on which some arguments are used: their options in order and
the positional values, those that are used as ones that have to be given. Without a used argument it
shows that there are options. -/
def usage (used : List Argument) : String :=
  let options := (used.filter fun argument => !argument.isPositional).eraseDups.map Argument.label
  let positionals := Positional.all.map fun positional =>
    if used.contains (.positional positional) then positional.requiredLabel else positional.label
  let options := if used.isEmpty then ["[OPTIONS]"] else options
  String.intercalate " " ("Usage: blocksend" :: (options ++ positionals))

/-- All arguments but help and version, as alternatives. -/
def alternatives : String :=
  let options : List Argument :=
    [.flag .list, .setting .config, .setting .settle, .flag .verbose]
  let names := Positional.all.map Positional.name ++ options.map Argument.label
  let list := String.intercalate "|" names
  s!"<{list}>"

/-- The usage line for a flag to which a value was given. Once other arguments are used it shows all
arguments as alternatives, and in front of them the flag if it is none of them. -/
def usageOfFlag (flag : Flag) (used : List Argument) : String :=
  if used.isEmpty then usage [.flag flag]
  else
    match flag with
    | .list => s!"Usage: blocksend {alternatives}"
    | .verbose => s!"Usage: blocksend {alternatives}"
    | .help => s!"Usage: blocksend {flag.label} {alternatives}"
    | .version => s!"Usage: blocksend {flag.label} {alternatives}"

end SerialFeed.CommandLine
