/-
This file holds the configuration of a forwarding run and of the forwarder that carries it out. A
configuration is built from three texts: the name of a port, a speed and a block size; the speed is
checked first. Later steps change the settle delay and the write deadline. A write deadline also
shortens the slice in which the port waits, so that the slice never outlasts the deadline.
-/

import SerialFeed.ForwardError
import SerialFeed.Line

namespace SerialFeed

/-- The number of bytes in a full block; there is at least one. -/
structure BlockSize where
  bytes : Nat
  positive : 0 < bytes
  deriving DecidableEq

/-- The pause between the two closing flushes if no other is asked for, in milliseconds. -/
def defaultSettle : Nat := 1000

/-- The block copier: how large a block is, how long the output may settle, and how long one block
may take to be written. Times are in milliseconds; without a write timeout a block waits for the
device for as long as it takes. -/
structure Forwarder where
  blockSize : BlockSize
  settle : Nat := defaultSettle
  writeTimeout : Option Nat := none
  deriving DecidableEq

/-- Everything that one forwarding run needs. -/
structure ForwardConfig where
  serial : SerialConfig
  blockSize : BlockSize
  settle : Nat := defaultSettle
  writeTimeout : Option Nat := none
  deriving DecidableEq

namespace ForwardConfig

/-- The largest speed: one that fits 32 bits. -/
def maxBaud : Nat := UInt32.size - 1

/-- The largest block size that can be told apart from an overflow: one that fits 64 bits. -/
def maxReadable : Nat := UInt64.size - 1

/-- Reads a positive number, or says which number it was and what is wrong with its text. -/
def readNumber (name : NumberName) (limit : Nat) (text : String) :
    Except ForwardError { value : Nat // 0 < value } :=
  (Numeral.readPositive limit text.toList).mapError fun trouble =>
    .invalidNumber name text (.unreadable trouble)

/-- Reads a block size. One that can be read but is over the cap is reported as the number that it
is, and not as the text that stood for it. -/
def readBlockSize (text : String) : Except ForwardError BlockSize := do
  let ⟨bytes, positive⟩ ← readNumber .blockSize maxReadable text
  if bytes ≤ maxBlockSize then .ok ⟨bytes, positive⟩
  else .error (.invalidNumber .blockSize (toString bytes) .overCap)

/-- Builds a configuration from the three texts of a command line. -/
def ofTexts (port baud block : String) : Except ForwardError ForwardConfig := do
  let baud ← readNumber .baudRate maxBaud baud
  let blockSize ← readBlockSize block
  return { serial := { port, baud := baud.val }, blockSize }

/-- The configuration with another settle delay. -/
def withSettle (config : ForwardConfig) (settle : Nat) : ForwardConfig :=
  { config with settle }

/-- The configuration with a deadline for each block, and a polling slice that fits it. -/
def withWriteTimeout (config : ForwardConfig) (limit : Nat) : ForwardConfig :=
  { config with
    writeTimeout := some limit
    serial := { config.serial with timeout := min limit pollingSlice } }

end ForwardConfig

namespace Forwarder

/-- The forwarder of a configuration. -/
def ofConfig (config : ForwardConfig) : Forwarder :=
  ⟨config.blockSize, config.settle, config.writeTimeout⟩

/-- Whether a block that the port has not taken in time may go on waiting, so many milliseconds
after its first byte was offered. -/
def mayWait (forwarder : Forwarder) (elapsed : Nat) : Bool :=
  match forwarder.writeTimeout with
  | none => true
  | some limit => elapsed < limit

end Forwarder

end SerialFeed
