/-
This file holds the settings of a line that rarely change between runs, each of them optional, and
their application to a configuration. They are applied one after the other; the first one that does
not suit a serial line ends that, and what was applied before it stays.
-/

import SerialFeed.Config

namespace SerialFeed

/-- The contents of a settings file. Times are in milliseconds. -/
structure Settings where
  dataBits : Option UInt8 := none
  parity : Option Parity := none
  stopBits : Option UInt8 := none
  flowControl : Option FlowControl := none
  timeout : Option UInt64 := none
  settle : Option UInt64 := none
  deriving DecidableEq, Repr

namespace Settings

/-- The fields of a settings file. -/
inductive Field where
  | dataBits
  | parity
  | stopBits
  | flowControl
  | timeout
  | settle
  deriving DecidableEq, Repr

namespace Field

/-- The key of a field. -/
def key : Field → String
  | dataBits => "data_bits"
  | parity => "parity"
  | stopBits => "stop_bits"
  | flowControl => "flow_control"
  | timeout => "timeout_ms"
  | settle => "settle_ms"

/-- Every field, in the order in which a list of values gives them. -/
def all : List Field :=
  [dataBits, parity, stopBits, flowControl, timeout, settle]

def ofKey? (key : String) : Option Field :=
  all.find? fun field => field.key == key

theorem ofKey?_key (field : Field) : ofKey? field.key = some field := by
  cases field <;> decide

end Field

/-- A setting that does not suit a serial line. -/
inductive Unsuitable where
  | dataBits (number : UInt8)
  | stopBits (number : UInt8)
  deriving DecidableEq, Repr

def Unsuitable.message : Unsuitable → String
  | dataBits number => s!"data_bits must be 5, 6, 7 or 8, not {number}"
  | stopBits number => s!"stop_bits must be 1 or 2, not {number}"

/-- The configuration with the data bits that are set, if any are. -/
def withDataBits (settings : Settings) (config : ForwardConfig) :
    Except Unsuitable ForwardConfig :=
  match settings.dataBits with
  | none => .ok config
  | some number =>
    match DataBits.ofNat? number.toNat with
    | none => .error (.dataBits number)
    | some dataBits => .ok { config with serial := { config.serial with dataBits } }

/-- The configuration with the stop bits that are set, if any are. -/
def withStopBits (settings : Settings) (config : ForwardConfig) :
    Except Unsuitable ForwardConfig :=
  match settings.stopBits with
  | none => .ok config
  | some number =>
    match StopBits.ofNat? number.toNat with
    | none => .error (.stopBits number)
    | some stopBits => .ok { config with serial := { config.serial with stopBits } }

/-- The configuration with the parity that is set, if one is. -/
def withParity (settings : Settings) (config : ForwardConfig) : ForwardConfig :=
  match settings.parity with
  | none => config
  | some parity => { config with serial := { config.serial with parity } }

/-- The configuration with the flow control that is set, if one is. -/
def withFlowControl (settings : Settings) (config : ForwardConfig) : ForwardConfig :=
  match settings.flowControl with
  | none => config
  | some flowControl => { config with serial := { config.serial with flowControl } }

/-- The configuration with the times that are set, if any are. -/
def withTimes (settings : Settings) (config : ForwardConfig) : ForwardConfig :=
  let config :=
    match settings.timeout with
    | none => config
    | some limit => config.withWriteTimeout limit.toNat
  match settings.settle with
  | none => config
  | some settle => config.withSettle settle.toNat

/-- Applies all settings, and says whether one of them did not suit. -/
def apply (settings : Settings) (config : ForwardConfig) :
    ForwardConfig × Except Unsuitable Unit :=
  match settings.withDataBits config with
  | .error unsuitable => (config, .error unsuitable)
  | .ok config =>
    match settings.withStopBits config with
    | .error unsuitable => (config, .error unsuitable)
    | .ok config =>
      (settings.withTimes (settings.withFlowControl (settings.withParity config)), .ok ())

end Settings

end SerialFeed
