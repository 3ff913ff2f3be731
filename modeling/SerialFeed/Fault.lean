/-
This file holds what a device or the operating system says when a call fails: a kind, by which the
program decides whether to try again, and a message, which it hands on without reading it. A fault
known by its kind alone has the kind's own description for a message; a fault of the operating
system has the text of its error number, and the number.
-/

namespace SerialFeed

/-- The kinds of failure that are told apart. -/
inductive FaultKind where
  | notFound
  | permissionDenied
  | connectionReset
  | notConnected
  | brokenPipe
  | alreadyExists
  | wouldBlock
  | notADirectory
  | isADirectory
  | invalidInput
  | invalidData
  | timedOut
  | writeZero
  | storageFull
  | invalidFilename
  | interrupted
  | unsupported
  | unexpectedEof
  | outOfMemory
  | inputOutput
  | other
  | uncategorized
  deriving DecidableEq, Repr, Inhabited

namespace FaultKind

/-- The name of a kind, as a record of calls shows it. -/
def name : FaultKind → String
  | notFound => "NotFound"
  | permissionDenied => "PermissionDenied"
  | connectionReset => "ConnectionReset"
  | notConnected => "NotConnected"
  | brokenPipe => "BrokenPipe"
  | alreadyExists => "AlreadyExists"
  | wouldBlock => "WouldBlock"
  | notADirectory => "NotADirectory"
  | isADirectory => "IsADirectory"
  | invalidInput => "InvalidInput"
  | invalidData => "InvalidData"
  | timedOut => "TimedOut"
  | writeZero => "WriteZero"
  | storageFull => "StorageFull"
  | invalidFilename => "InvalidFilename"
  | interrupted => "Interrupted"
  | unsupported => "Unsupported"
  | unexpectedEof => "UnexpectedEof"
  | outOfMemory => "OutOfMemory"
  | inputOutput => "InputOutputError"
  | other => "Other"
  | uncategorized => "Uncategorized"

/-- What a fault says of which nothing but the kind is known. -/
def description : FaultKind → String
  | notFound => "entity not found"
  | permissionDenied => "permission denied"
  | connectionReset => "connection reset"
  | notConnected => "not connected"
  | brokenPipe => "broken pipe"
  | alreadyExists => "entity already exists"
  | wouldBlock => "operation would block"
  | notADirectory => "not a directory"
  | isADirectory => "is a directory"
  | invalidInput => "invalid input parameter"
  | invalidData => "invalid data"
  | timedOut => "timed out"
  | writeZero => "write zero"
  | storageFull => "no storage space"
  | invalidFilename => "invalid filename"
  | interrupted => "operation interrupted"
  | unsupported => "unsupported"
  | unexpectedEof => "unexpected end of file"
  | outOfMemory => "out of memory"
  | inputOutput => "input/output error"
  | other => "other error"
  | uncategorized => "uncategorized error"

/-- Every kind. -/
def all : List FaultKind :=
  [notFound, permissionDenied, connectionReset, notConnected, brokenPipe, alreadyExists, wouldBlock,
    notADirectory, isADirectory, invalidInput, invalidData, timedOut, writeZero, storageFull,
    invalidFilename, interrupted, unsupported, unexpectedEof, outOfMemory, inputOutput, other,
    uncategorized]

/-- The kind of a name. -/
def ofName? (name : String) : Option FaultKind :=
  all.find? fun kind => kind.name == name

end FaultKind

/-- A failure of one call. -/
structure Fault where
  kind : FaultKind
  message : String
  deriving DecidableEq, Repr, Inhabited

/-- An error of the operating system: its number, the kind it counts as and its text. -/
structure SystemError where
  number : Nat
  kind : FaultKind
  text : String
  deriving DecidableEq, Repr

namespace SystemError

def noSuchEntry : SystemError := ⟨2, .notFound, "No such file or directory"⟩

def notADirectory : SystemError := ⟨20, .notADirectory, "Not a directory"⟩

def isADirectory : SystemError := ⟨21, .isADirectory, "Is a directory"⟩

def invalidArgument : SystemError := ⟨22, .invalidInput, "Invalid argument"⟩

def notATerminal : SystemError := ⟨25, .uncategorized, "Not a typewriter"⟩

def nameTooLong : SystemError := ⟨36, .invalidFilename, "File name too long"⟩

/-- The errors that are known by number. -/
def known : List SystemError :=
  [⟨1, .permissionDenied, "Operation not permitted"⟩,
    noSuchEntry,
    ⟨4, .interrupted, "Interrupted system call"⟩,
    ⟨5, .inputOutput, "Input/output error"⟩,
    ⟨9, .uncategorized, "Bad file descriptor"⟩,
    ⟨11, .wouldBlock, "Resource temporarily unavailable"⟩,
    ⟨12, .outOfMemory, "Cannot allocate memory"⟩,
    ⟨13, .permissionDenied, "Permission denied"⟩,
    ⟨17, .alreadyExists, "File exists"⟩,
    ⟨19, .uncategorized, "No such device"⟩,
    notADirectory,
    isADirectory,
    invalidArgument,
    notATerminal,
    ⟨28, .storageFull, "No space left on device"⟩,
    ⟨32, .brokenPipe, "Broken pipe"⟩,
    nameTooLong,
    ⟨104, .connectionReset, "Connection reset by peer"⟩,
    ⟨107, .notConnected, "Transport endpoint is not connected"⟩,
    ⟨110, .timedOut, "Connection timed out"⟩]

/-- The error of a number; one that is not known belongs to no kind. -/
def ofNumber (number : Nat) : SystemError :=
  (known.find? fun error => error.number == number).getD
    ⟨number, .uncategorized, s!"Unknown error {number}"⟩

/-- The fault of a call that the operating system answers with this error. -/
def fault (error : SystemError) : Fault :=
  ⟨error.kind, s!"{error.text} (os error {error.number})"⟩

end SystemError

namespace Fault

/-- A fault of which only the kind is known. -/
def ofKind (kind : FaultKind) : Fault :=
  ⟨kind, kind.description⟩

/-- The fault of an error number of the operating system. -/
def ofNumber (number : Nat) : Fault :=
  (SystemError.ofNumber number).fault

end Fault

end SerialFeed
