/-
This file holds the settings of a serial line: the frame of a character on the wire, the way in
which the two ends hold each other up, the speed, and how long one write waits for the device.
-/

namespace SerialFeed

/-- How many bits of a character are data. -/
inductive DataBits where
  | five
  | six
  | seven
  | eight
  deriving DecidableEq, Repr

namespace DataBits

def toNat : DataBits → Nat
  | five => 5
  | six => 6
  | seven => 7
  | eight => 8

def ofNat? : Nat → Option DataBits
  | 5 => some five
  | 6 => some six
  | 7 => some seven
  | 8 => some eight
  | _ => none

theorem ofNat?_toNat (bits : DataBits) : ofNat? bits.toNat = some bits := by
  cases bits <;> rfl

end DataBits

/-- How many bits close a character. -/
inductive StopBits where
  | one
  | two
  deriving DecidableEq, Repr

namespace StopBits

def toNat : StopBits → Nat
  | one => 1
  | two => 2

def ofNat? : Nat → Option StopBits
  | 1 => some one
  | 2 => some two
  | _ => none

theorem ofNat?_toNat (bits : StopBits) : ofNat? bits.toNat = some bits := by
  cases bits <;> rfl

end StopBits

/-- The check bit of a character. -/
inductive Parity where
  | none
  | odd
  | even
  deriving DecidableEq, Repr

namespace Parity

def name : Parity → String
  | .none => "none"
  | odd => "odd"
  | even => "even"

/-- Every parity, in the order in which messages list them. -/
def all : List Parity :=
  [.none, odd, even]

def ofName? (name : String) : Option Parity :=
  all.find? fun parity => parity.name == name

theorem ofName?_name (parity : Parity) : ofName? parity.name = some parity := by
  cases parity <;> decide

end Parity

/-- How a receiver holds up its sender. -/
inductive FlowControl where
  | none
  | software
  | hardware
  deriving DecidableEq, Repr

namespace FlowControl

def name : FlowControl → String
  | .none => "none"
  | software => "software"
  | hardware => "hardware"

/-- Every flow control, in the order in which messages list them. -/
def all : List FlowControl :=
  [.none, software, hardware]

def ofName? (name : String) : Option FlowControl :=
  all.find? fun flow => flow.name == name

theorem ofName?_name (flow : FlowControl) : ofName? flow.name = some flow := by
  cases flow <;> decide

end FlowControl

/-- How long one port write waits before it hands control back, in milliseconds. It is a slice of
waiting and no deadline: a write that ends with it is tried again. -/
def pollingSlice : Nat := 1000

/-- What is needed to open a serial line. Times are in milliseconds. -/
structure SerialConfig where
  port : String := ""
  baud : Nat := 115200
  dataBits : DataBits := .eight
  parity : Parity := .none
  stopBits : StopBits := .one
  flowControl : FlowControl := .none
  timeout : Nat := pollingSlice
  deriving DecidableEq, Repr

end SerialFeed
