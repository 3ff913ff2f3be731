/-
This file is the program. It looks at the machine, as far as the command line asks for that, lets
the library compute the run, and carries the run out: it writes the bytes that the port accepts,
pauses, logs and prints. The standard input is read only if the run gets as far as sending.
-/

import SerialFeed.CommandLine.Outcome

namespace SerialFeed.CommandLine

/-- Reads all of a stream. -/
def readAll (stream : IO.FS.Stream) : IO Bytes := do
  let mut bytes := ByteArray.empty
  repeat
    let piece ← stream.read 65536
    if piece.isEmpty then break
    bytes := bytes ++ piece
  return bytes.toList

/-- The number of an error that the operating system gives when it refuses what is there. -/
def refusal? : IO.Error → Option Nat
  | .permissionDenied _ number _ => some number.toNat
  | .resourceBusy number _ => some number.toNat
  | .hardwareFault number _ => some number.toNat
  | _ => none

/-- What lies at a path that is read. -/
def lookAtFile (path : String) : IO (Option Node) := do
  try
    return some (.file (← IO.FS.readBinFile path).toList)
  catch
    | .noFileOrDirectory .. => return none
    | error =>
      match refusal? error with
      | some number => return some (.guarded (.file []) { reading := some (.ofNumber number) })
      | none => return some .directory

/-- What lies at a path that is opened as a port, and the port if it is one. -/
def lookAtPort (path : String) : IO (Option Node × Option IO.FS.Handle) := do
  try
    let handle ← IO.FS.Handle.mk path .readWrite
    if ← handle.isTty then return (some .terminal, some handle)
    else return (some (.device []), none)
  catch
    | .noFileOrDirectory .. => return (none, none)
    | error =>
      match refusal? error with
      | some number =>
        let fault := Host.portFault (.ofNumber number)
        return (some (.guarded .terminal { opening := some fault }), none)
      | none => return (some .directory, none)

/-- The name under which a machine keeps its working directory. -/
def workingDirectory : Place := ["working directory"]

/-- The place of a path. -/
def placeOf (path : String) : Place :=
  if Path.isAbsolute path then Path.names path else workingDirectory ++ Path.names path

/-- The machine on which some paths lead to what was found there, and all other names that lead to
them to directories. -/
def machine (found : List (String × Node)) (configHome : Option String) : Host where
  tree place :=
    match found.find? fun entry => placeOf entry.1 = place with
    | some entry => some entry.2
    | none =>
      let leads := (workingDirectory :: found.map fun entry => placeOf entry.1).any fun longer =>
        place.isPrefixOf longer
      if leads then some .directory else none
  workingDirectory := workingDirectory
  configHome := configHome

/-- Looks at the settings file and at the port of a command line. -/
def lookAround (texts : List String) : IO (Host × Option IO.FS.Handle) := do
  let configHome :=
    Host.configHome? (← IO.getEnv "XDG_CONFIG_HOME") (← IO.getEnv "HOME")
  match Arguments.ofTexts texts with
  | .error _ => return (machine [] configHome, none)
  | .ok arguments =>
    let file? := arguments.config <|> (machine [] configHome).userFile?
    let settings ← file?.toList.filterMapM fun path => do
      return (← lookAtFile path).map fun node => (path, node)
    match arguments.serialPort with
    | none => return (machine settings configHome, none)
    | some port =>
      let (node, handle) ← lookAtPort port
      let ports := node.toList.map fun node => (port, node)
      return (machine (settings ++ ports) configHome, handle)

/-- Does what an entry of a history tells of. -/
def carryOut (port : IO.FS.Handle) : Entry Progress → IO Unit
  | .write offered (.gave count) _ => port.write (offered.take count).toByteArray
  | .flush _ => port.flush
  | .pause milliseconds => IO.sleep milliseconds.toUInt32
  | .note record => IO.eprint record.written
  | _ => return

end SerialFeed.CommandLine

open SerialFeed CommandLine in
/-- Runs the program on the texts of its command line. -/
def main (texts : List String) : IO UInt32 := do
  let environment := (← IO.getEnv "RUST_LOG").map Verbosity.ofWord
  let (host, port?) ← lookAround texts
  let runOn (input : Bytes) : Outcome := run environment host [] { pending := input } texts
  let outcome ←
    match port?, (runOn []).conclusion with
    | some _, .sent _ => runOn <$> (do readAll (← IO.getStdin))
    | _, _ => pure (runOn [])
  match port? with
  | some port => outcome.history.forM (carryOut port)
  | none => IO.eprint outcome.logText
  IO.print outcome.conclusion.printed
  return outcome.conclusion.exitCode.toUInt32
