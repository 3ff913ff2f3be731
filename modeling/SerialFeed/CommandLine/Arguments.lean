/-
This file holds the values that a command line gives: the positional values and the values of the
options, as texts where they are looked at later, and how often the verbose flag occurs.
-/

import SerialFeed.CommandLine.Misuse
import SerialFeed.Note

namespace SerialFeed.CommandLine

/-- A command line that was understood. -/
structure Arguments where
  serialPort : Option String := none
  baudRate : Option String := none
  blockSize : Option String := none
  list : Bool := false
  config : Option String := none
  settle : Option UInt64 := none
  verbose : Nat := 0
  deriving DecidableEq, Repr

namespace Arguments

/-- The three positional values, if all are given. -/
def positional? (arguments : Arguments) : Option (String × String × String) := do
  return (← arguments.serialPort, ← arguments.baudRate, ← arguments.blockSize)

/-- The most occurrences of the verbose flag that are counted. -/
def maxVerbose : Nat := 255

/-- How much is logged: only warnings, and more with each occurrence of the verbose flag. -/
def verbosity (arguments : Arguments) : Verbosity :=
  match arguments.verbose with
  | 0 => some .warn
  | 1 => some .info
  | 2 => some .debug
  | _ => some .trace

/-- The arguments with a positional value. -/
def withPositional (arguments : Arguments) (value : String) : Positional → Arguments
  | .serialPort => { arguments with serialPort := some value }
  | .baudRate => { arguments with baudRate := some value }
  | .blockSize => { arguments with blockSize := some value }

/-- The arguments with the value of an option. A path is not empty, and a time is a number of 64
bits. -/
def withSetting (arguments : Arguments) (value : String) :
    Setting → Except Misuse Arguments
  | .config =>
    if value = "" then .error (.valueMissing .config)
    else .ok { arguments with config := some value }
  | .settle =>
    match Numeral.read (UInt64.size - 1) value.toList with
    | .error trouble => .error (.invalidValue value .settle trouble)
    | .ok time => .ok { arguments with settle := some (UInt64.ofNat time) }

end Arguments

end SerialFeed.CommandLine
