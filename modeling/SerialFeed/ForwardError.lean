/-
This file holds every way in which sending a stream to a port can fail. An error is its cause; the
words for it are in one place. The message of an error does not repeat what lies underneath it:
that is the list of its causes, the outermost first.
-/

import SerialFeed.Fault
import SerialFeed.Numeral

namespace SerialFeed

/-- The largest block size that a configuration accepts: 64 MiB. -/
def maxBlockSize : Nat := 64 * 1024 * 1024

/-- The two numbers of a command line. -/
inductive NumberName where
  | baudRate
  | blockSize
  deriving DecidableEq, Repr

def NumberName.text : NumberName → String
  | baudRate => "baud rate"
  | blockSize => "block size"

/-- Why a number is refused: it cannot be read, or it is a block size above the cap. -/
inductive NumberTrouble where
  | unreadable (trouble : Numeral.Trouble)
  | overCap
  deriving DecidableEq, Repr

def NumberTrouble.message : NumberTrouble → String
  | unreadable trouble => trouble.message
  | overCap => s!"larger than {maxBlockSize} bytes"

/-- The kinds of failure to open a port. -/
inductive OpenFaultKind where
  | noDevice
  | invalidInput
  | unknown
  | system (kind : FaultKind)
  deriving DecidableEq, Repr

def OpenFaultKind.name : OpenFaultKind → String
  | noDevice => "NoDevice"
  | invalidInput => "InvalidInput"
  | unknown => "Unknown"
  | system kind => s!"Io({kind.name})"

/-- What the serial driver says when a port cannot be opened. -/
structure OpenFault where
  kind : OpenFaultKind
  message : String
  deriving DecidableEq, Repr

/-- Why a buffer cannot be had: no buffer may be so large, or the allocator gives none of the
size. -/
inductive Shortage where
  | capacity
  | allocator
  deriving DecidableEq, Repr

def Shortage.message : Shortage → String
  | capacity =>
    "memory allocation failed because the computed capacity exceeded the collection's maximum"
  | allocator => "memory allocation failed because the memory allocator returned an error"

/-- How many bytes an address space of 48 bits has. -/
def addressSpace : Nat := 0x1000000000000

/-- What stands in the way of a buffer of a size. A buffer is addressed by signed words of 64 bits,
and one as large as the address space cannot be had. -/
def Shortage.ofSize? (size : Nat) : Option Shortage :=
  if UInt64.size / 2 ≤ size then some capacity
  else if addressSpace ≤ size then some allocator
  else none

/-- Every way in which a forwarding run can fail. -/
inductive ForwardError where
  | invalidNumber (name : NumberName) (value : String) (trouble : NumberTrouble)
  | openFailed (port : String) (fault : OpenFault)
  | bufferFailed (size : Nat) (shortage : Shortage)
  | readFailed (fault : Fault)
  | writeFailed (fault : Fault)
  | flushFailed (fault : Fault)
  /-- The background worker went away without an outcome. -/
  | workerLost
  deriving DecidableEq, Repr

namespace ForwardError

def message : ForwardError → String
  | invalidNumber name value trouble => s!"invalid {name.text} '{value}': {trouble.message}"
  | openFailed port _ => s!"could not open port '{port}'"
  | bufferFailed size _ => s!"could not allocate a {size}-byte block buffer"
  | readFailed _ => "read from input failed"
  | writeFailed _ => "write to port failed"
  | flushFailed _ => "flush of port failed"
  | workerLost => "transfer worker stopped unexpectedly"

/-- The messages of what lies underneath, the outermost first. -/
def causes : ForwardError → List String
  | openFailed _ fault => [fault.message]
  | bufferFailed _ shortage => [shortage.message]
  | readFailed fault => [fault.message]
  | writeFailed fault => [fault.message]
  | flushFailed fault => [fault.message]
  | invalidNumber .. => []
  | workerLost => []

end ForwardError

end SerialFeed
