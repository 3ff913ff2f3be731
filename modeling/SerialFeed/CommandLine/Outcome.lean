/-
This file runs the program: from the texts of a command line, a machine and the standard input to
what is printed, what is logged and what the port has received. The stages of a run come one after
the other, each only if the one before it went well: the numbers are read, the settings are found
and applied, the port is opened, and the input is sent. A failure is reported in one line with all
its causes and is no reason for the program to fail itself.
-/

import SerialFeed.CommandLine.State
import SerialFeed.PortInfo
import SerialFeed.Session
import SerialFeed.Settings.Load

namespace SerialFeed.CommandLine

/-! ### What the program says about itself -/

/-- What the program does. -/
def summary : String :=
  "Send standard input to a serial port in fixed-size blocks"

/-- The answer to the version flag. -/
def versionText : String :=
  "blocksend 0.1.0\n"

/-- The answer to the help flag. -/
def helpText : String :=
  String.intercalate "\n"
    [summary,
      "",
      usage [],
      "",
      "Arguments:",
      "  [SERIAL_PORT]  Serial device, e.g. /dev/ttyUSB0 or COM3",
      "  [BAUD_RATE]    Line speed in bits per second",
      "  [BLOCK_SIZE]   Bytes per read and per write",
      "",
      "Options:",
      "      --list            Print the available serial ports and exit",
      "      --config <PATH>   JSON settings file (defaults to <config dir>/blocksend/config.json)",
      "      --settle-ms <MS>  Pause between the final two flushes, in milliseconds",
      "  -v, --verbose...      More log output on stderr (-v info, -vv debug, -vvv trace)",
      "  -h, --help            Print help",
      "  -V, --version         Print version",
      ""]

/-! ### What comes of a run -/

/-- Why the input could not be sent. -/
inductive Failure where
  /-- A positional value is not given. -/
  | incomplete
  | settings (error : SettingsError)
  | unsuitable (setting : Settings.Unsuitable)
  | forward (error : ForwardError)

namespace Failure

def message : Failure → String
  | incomplete => "serial port, baud rate and block size are required"
  | settings error => error.message
  | unsuitable setting => setting.message
  | forward error => error.message

/-- The messages of what lies underneath. -/
def causes : Failure → List String
  | incomplete => []
  | settings error => error.causes
  | unsuitable _ => []
  | forward error => error.causes

/-- The message and all its causes in one line. -/
def line (failure : Failure) : String :=
  String.intercalate ": " (failure.message :: failure.causes)

end Failure

/-- How a run of the program ends. -/
inductive Conclusion where
  | help
  | version
  | misused (misuse : Misuse)
  /-- The ports of the machine are listed. -/
  | listed (ports : List PortInfo)
  | sent (report : Report)
  | failed (failure : Failure)
  /-- A device crashed and took the program with it. -/
  | crashed

namespace Conclusion

/-- The lines that list some ports. -/
def portLines : List PortInfo → List String
  | [] => ["No serial ports found."]
  | ports => ports.map PortInfo.display

/-- What is printed. -/
def printed : Conclusion → String
  | help => helpText
  | version => versionText
  | misused misuse => misuse.text
  | listed ports => String.join ((portLines ports).map fun line => s!"{line}\n")
  | sent _ => "Data sent successfully.\n"
  | failed failure => s!"An error occurred: {failure.line}\n"
  | crashed => ""

/-- The code with which the program exits. -/
def exitCode : Conclusion → Nat
  | misused _ => 1
  | crashed => 101
  | _ => 0

end Conclusion

/-- A run of the program: how it ended, what is left of the standard input and what happened. -/
structure Outcome where
  conclusion : Conclusion
  source : Source
  history : History Progress

namespace Outcome

/-- The outcome that begins with more history. -/
def after (history : History Progress) (outcome : Outcome) : Outcome :=
  { outcome with history := history ++ outcome.history }

/-- What is written into the log. -/
def logText (outcome : Outcome) : String :=
  String.join (outcome.history.notes.map Note.written)

end Outcome

/-! ### The stages of a run -/

/-- How the program ends when a session has ended, and what it logs of that. -/
def conclude (observer : Observer) : Ending → Conclusion × History Progress
  | .sent report => (.sent report, observer.note (.sent report))
  | .failed error => (.failed (.forward error), [])
  | .crashed => (.crashed, [])

/-- Sends the input with a configuration that is complete. -/
def send (observer : Observer) (host : Host) (input : Source) (config : ForwardConfig) : Outcome :=
  let session :=
    (Forwarder.ofConfig config).forward observer input (host.openLine config.serial)
  let (conclusion, last) := conclude observer session.ending
  { conclusion
    source := session.source
    history :=
      observer.note (.forwarding config.serial.port config.serial.baud config.blockSize.bytes) ++
        (session.history ++ last) }

/-- Finds the settings, applies them to a configuration and sends the input. A settle delay on the
command line counts for more than one in the settings. -/
def configure (observer : Observer) (host : Host) (input : Source) (arguments : Arguments)
    (config : ForwardConfig) : Outcome :=
  match Settings.load host arguments.config with
  | .error error => ⟨.failed (.settings error), input, []⟩
  | .ok found =>
    Outcome.after (found.history observer) <|
      match found.settings.apply config with
      | (_, .error setting) => ⟨.failed (.unsuitable setting), input, []⟩
      | (config, .ok ()) =>
        match arguments.settle with
        | none => send observer host input config
        | some settle => send observer host input (config.withSettle settle.toNat)

/-- Sends the input as a command line asks. -/
def forward (observer : Observer) (host : Host) (input : Source) (arguments : Arguments) :
    Outcome :=
  match arguments.positional? with
  | none => ⟨.failed .incomplete, input, []⟩
  | some (port, baud, block) =>
    match ForwardConfig.ofTexts port baud block with
    | .error error => ⟨.failed (.forward error), input, []⟩
    | .ok config => configure observer host input arguments config

/-- Runs the program. A verbosity of the environment counts for more than the command line. -/
def run (environment : Option Verbosity) (host : Host) (ports : List PortInfo) (input : Source)
    (texts : List String) : Outcome :=
  match Arguments.ofTexts texts with
  | .error .help => ⟨.help, input, []⟩
  | .error .version => ⟨.version, input, []⟩
  | .error (.misuse misuse) => ⟨.misused misuse, input, []⟩
  | .ok arguments =>
    if arguments.list then ⟨.listed ports, input, []⟩
    else
      forward ⟨environment.getD arguments.verbosity, false⟩ host input arguments

end SerialFeed.CommandLine
