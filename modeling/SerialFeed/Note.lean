/-
This file holds the log records of the program. A record is what it tells of; its severity, the
part of the program that it comes from and its words follow from that. A verbosity is the least
severe kind of record that is written down.
-/

import SerialFeed.Text.ControlSequence
import SerialFeed.Text.Hex

namespace SerialFeed

/-- What a completed transfer has sent: blocks, each with one write, and bytes. Both are counted in
64 bits. -/
structure Report where
  blocks : UInt64 := 0
  bytes : UInt64 := 0
  deriving DecidableEq, Repr

/-- The report after one more block. -/
def Report.add (report : Report) (block : Bytes) : Report :=
  ⟨report.blocks + 1, report.bytes + UInt64.ofNat block.length⟩

/-- How severe a record is. -/
inductive Severity where
  | error
  | warn
  | info
  | debug
  | trace
  deriving DecidableEq, Repr

namespace Severity

/-- The position of a severity, the gravest first. -/
def rank : Severity → Nat
  | error => 0
  | warn => 1
  | info => 2
  | debug => 3
  | trace => 4

def name : Severity → String
  | error => "ERROR"
  | warn => "WARN"
  | info => "INFO"
  | debug => "DEBUG"
  | trace => "TRACE"

end Severity

/-- The least severe kind of record that is written down; without one, no record is. -/
abbrev Verbosity := Option Severity

namespace Verbosity

def shows (verbosity : Verbosity) (severity : Severity) : Bool :=
  verbosity.any fun least => severity.rank ≤ least.rank

/-- The lower-case word for a verbosity. -/
def word : Verbosity → String
  | none => "off"
  | some .error => "error"
  | some .warn => "warn"
  | some .info => "info"
  | some .debug => "debug"
  | some .trace => "trace"

/-- Every verbosity, the quietest first. -/
def all : List Verbosity :=
  [none, some .error, some .warn, some .info, some .debug, some .trace]

/-- The verbosity that a word asks for. Capitals are as good as small letters, and a word that names
no verbosity lets nothing through. -/
def ofWord (word : String) : Verbosity :=
  (all.find? fun verbosity => verbosity.word == word.toLower).getD none

end Verbosity

/-- One log record. -/
inductive Note where
  /-- Settings were read from a file. -/
  | settingsLoaded (path : String)
  /-- The command line is understood and the port is about to be opened. -/
  | forwarding (port : String) (baud blockSize : Nat)
  | portOpened (port : String) (baud : Nat)
  /-- The port took nothing in time, and so many bytes of the block are still to be written. -/
  | portBusy (pending : Nat)
  | blockSent (block : Bytes)
  | inputExhausted (report : Report)
  | portClosed (port : String)
  | sent (report : Report)
  deriving DecidableEq, Repr

namespace Note

def severity : Note → Severity
  | settingsLoaded _ => .debug
  | forwarding .. => .info
  | portOpened .. => .info
  | portBusy _ => .debug
  | blockSent _ => .trace
  | inputExhausted _ => .debug
  | portClosed _ => .debug
  | sent _ => .info

/-- The part of the program that a record comes from. -/
def source : Note → String
  | settingsLoaded _ => "blocksend::settings"
  | forwarding .. => "blocksend"
  | portOpened .. => "blocksend_core::connection"
  | portBusy _ => "blocksend_core::forwarder"
  | blockSent _ => "blocksend_core::forwarder"
  | inputExhausted _ => "blocksend_core::forwarder"
  | portClosed _ => "blocksend_core::connection"
  | sent _ => "blocksend"

def text : Note → String
  | settingsLoaded path => s!"loaded settings from {path}"
  | forwarding port baud blockSize =>
    s!"forwarding stdin to {port} at {baud} baud in {blockSize}-byte blocks"
  | portOpened port baud => s!"opened {port} at {baud} baud"
  | portBusy pending => s!"port busy, {pending} bytes of block pending"
  | blockSent block => s!"tx {Text.Hex.text block}"
  | inputExhausted report =>
    s!"input exhausted after {report.blocks} blocks ({report.bytes} bytes)"
  | portClosed port => s!"closed {port}"
  | sent report => s!"sent {report.bytes} bytes in {report.blocks} blocks"

/-- The lines of a text after the first are set in by four blanks. -/
def setIn (text : String) : String :=
  String.ofList (text.toList.flatMap fun character =>
    if character = '\n' then '\n' :: List.replicate 4 ' ' else [character])

/-- The line of a record, with the severity padded to five characters and the time left out. -/
def line (note : Note) : String :=
  let name := note.severity.name
  let padding := String.ofList (List.replicate (5 - name.length) ' ')
  s!"[{name}{padding} {note.source}] {setIn note.text}"

/-- What the program writes for a record: its line and the line end, without control sequences. One
that the line leaves open takes the line end with it. -/
def written (note : Note) : String :=
  String.ofList (Text.logged (s!"{note.line}\n").toList)

end Note

end SerialFeed
