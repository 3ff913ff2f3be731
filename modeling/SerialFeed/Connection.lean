/-
This file holds the connection: a port that is held under a name until it is let go. Writing to a
connection is writing to its port. Letting it go writes a record and releases the port.
-/

import SerialFeed.Writing

namespace SerialFeed

/-- A port that is held under a name. -/
structure Connection (π : Type) where
  name : String
  port : π
  deriving DecidableEq

namespace Connection

variable {π : Type} [Port π] {Event : Type}

instance : Port (Connection π) where
  write connection offered :=
    let (port, reply) := Port.write connection.port offered
    ({ connection with port }, reply)
  flush connection :=
    let (port, reply) := Port.flush connection.port
    ({ connection with port }, reply)
  clock connection := Port.clock connection.port
  patience connection := Port.patience connection.port
  accepted_le answer := Port.accepted_le answer
  patience_lt answer := Port.patience_lt answer

/-- What happens when a connection of this name is let go. -/
def close (observer : Observer) (name : String) : History Event :=
  observer.note (.portClosed name) ++ [.release]

end Connection

/-! ### A connection that is called step by step -/

/-- A call on a connection. -/
inductive Call where
  | write (bytes : Bytes)
  | writeAll (bytes : Bytes)
  | flush
  | name
  /-- Lets the connection go; no call after it does anything. -/
  | drop
  deriving DecidableEq

/-- What a call gives back. -/
inductive CallValue where
  | count (bytes : Nat)
  | done
  | name (text : String)
  deriving DecidableEq

/-- A call that was made: its answer and what happened during it. -/
structure CallRecord (Event : Type) where
  answer : Reply CallValue
  history : History Event

namespace Connection

variable {π : Type} [Port π] {Event : Type}

/-- Makes one call. -/
def perform (observer : Observer) (connection : Connection π) :
    Call → Connection π × CallRecord Event
  | .write bytes =>
    let started := Port.clock connection
    match Port.write connection bytes with
    | (next, .gave count) =>
      (next, ⟨.gave (.count count), [.write bytes (.gave count) (Port.since next started)]⟩)
    | (next, .failed fault) =>
      (next, ⟨.failed fault, [.write bytes (.failed fault) (Port.since next started)]⟩)
    | (next, .crashed) =>
      (next, ⟨.crashed, [.write bytes .crashed (Port.since next started)]⟩)
  | .writeAll bytes =>
    match Port.writeAll (Port.clock connection) connection bytes with
    | ⟨next, .gave (), history⟩ => (next, ⟨.gave .done, history⟩)
    | ⟨next, .failed fault, history⟩ => (next, ⟨.failed fault, history⟩)
    | ⟨next, .crashed, history⟩ => (next, ⟨.crashed, history⟩)
  | .flush =>
    match Port.flush connection with
    | (next, .gave ()) => (next, ⟨.gave .done, [.flush (.gave ())]⟩)
    | (next, .failed fault) => (next, ⟨.failed fault, [.flush (.failed fault)]⟩)
    | (next, .crashed) => (next, ⟨.crashed, [.flush .crashed]⟩)
  | .name => (connection, ⟨.gave (.name connection.name), []⟩)
  | .drop => (connection, ⟨.gave .done, close observer connection.name⟩)

/-- Makes calls one after the other, until the connection is let go. The second part is what happens
when a connection that no call has let go is let go at the end. -/
def performAll (observer : Observer) (connection : Connection π) :
    List Call → List (CallRecord Event) × History Event
  | [] => ([], close observer connection.name)
  | .drop :: _ => ([(connection.perform observer .drop).2], [])
  | call :: rest =>
    let (next, record) := connection.perform observer call
    let (records, ending) := next.performAll observer rest
    (record :: records, ending)

end Connection

end SerialFeed
