/-
This file holds the machine that the program runs on, as far as the program looks at it: a tree of
files, the directory in which it runs, the directory for per-user configuration, and what is
connected to its terminals. From it come the texts of settings files, and it decides which paths can
be opened as serial ports.
-/

import SerialFeed.Device
import SerialFeed.FileTree

namespace SerialFeed

/-- A machine. -/
structure Host where
  tree : FileTree
  workingDirectory : Place := []
  /-- The path of the directory for per-user configuration, if there is one. -/
  configHome : Option String := none
  /-- How an opened terminal behaves; by default it accepts every write whole. -/
  line : Link := {}

namespace Host

/-- The directory for per-user configuration: the one that is asked for, if its path is absolute,
and otherwise one in the home directory. -/
def configHome? (wanted home : Option String) : Option String :=
  wanted.filter Path.isAbsolute <|> home.map fun home => Path.join home ".config"

/-- The number of bytes from which on a path is too long. -/
def pathLimit : Nat := 4096

/-- Whether a path has a NUL, which ends a path early for the operating system. -/
def hasNul (path : String) : Bool :=
  path.toList.contains '\x00'

/-- What lies at a path without a NUL. -/
def find (host : Host) (path : String) : Except SystemError Node :=
  if path = "" then .error .noSuchEntry
  else if pathLimit ≤ path.utf8ByteSize then .error .nameTooLong
  else
    host.tree.find (if Path.isAbsolute path then [] else host.workingDirectory) (Path.names path)

/-! ### Reading files -/

/-- What is said of a file name with a NUL. -/
def unexpectedNul : Fault :=
  ⟨.invalidInput, "file name contained an unexpected NUL byte"⟩

/-- What is said of contents that are no text. -/
def invalidText : Fault :=
  ⟨.invalidData, "stream did not contain valid UTF-8"⟩

/-- The text for which some bytes stand in UTF-8. -/
def decodeText (bytes : Bytes) : Except Fault String :=
  match String.fromUTF8? bytes.toByteArray with
  | none => .error invalidText
  | some text => .ok text

/-- Reads all of a file as text. -/
def readText (host : Host) (path : String) : Except Fault String :=
  if hasNul path then .error unexpectedNul
  else
    match host.find path >>= Node.read with
    | .error error => .error error.fault
    | .ok bytes => decodeText bytes

/-- Whether a path leads to a regular file. -/
def isFile (host : Host) (path : String) : Bool :=
  !hasNul path &&
    match host.find path with
    | .ok node => node.isFile
    | .error _ => false

/-! ### Opening ports -/

/-- What the serial driver says when the operating system refuses a port. It has a kind of its own
for a port that is not there. -/
def portFault (error : SystemError) : OpenFault :=
  ⟨if error = .noSuchEntry then .system .notFound else .unknown, error.text⟩

/-- Opens what lies at a place as a port. Only a terminal is one. -/
def openNode : Node → Except OpenFault Unit
  | .terminal => .ok ()
  | .directory => .error (portFault .isADirectory)
  | .file _ => .error (portFault .notATerminal)
  | .device _ => .error (portFault .notATerminal)
  | .guarded node guard =>
    match guard.opening with
    | some fault => .error fault
    | none => openNode node

/-- Opens a port. -/
def openPort (host : Host) (port : String) : Except OpenFault Unit :=
  if hasNul port then .error (portFault .invalidArgument)
  else (host.find port).mapError portFault >>= openNode

end Host

end SerialFeed
