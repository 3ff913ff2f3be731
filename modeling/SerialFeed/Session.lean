/-
This file holds the session: a link is asked for, the input is sent over it, and the link is let go
again. Whichever way the transfer ends, the link is let go right after it; when no link can be had,
nothing is read from the input. On a machine, the link is the serial line of a configuration.
-/

import SerialFeed.Connection
import SerialFeed.Host
import SerialFeed.Transfer

namespace SerialFeed

/-- What came of asking for a link. -/
inductive Opening (π : Type) where
  /-- There is a link. A serial line has a speed, and its opening is recorded. -/
  | opened (connection : Connection π) (speed : Option Nat)
  /-- There is no link. Whoever was asked may have held a port already, and then lets it go. -/
  | refused (error : ForwardError) (discarded : Bool)
  /-- Whoever was asked crashed, and may have held a port already. -/
  | crashed (discarded : Bool)
  deriving DecidableEq

namespace Opening

variable {π Event : Type}

/-- What happens while a link is asked for. -/
def history (observer : Observer) : Opening π → History Event
  | opened connection (some speed) => .opening :: observer.note (.portOpened connection.name speed)
  | opened _ none => [.opening]
  | refused _ discarded => .opening :: if discarded then [.release] else []
  | crashed discarded => .opening :: if discarded then [.release] else []

end Opening

/-- Opens the port of a serial line, under its own name. -/
def Host.openLine (host : Host) (serial : SerialConfig) : Opening Link :=
  match host.openPort serial.port with
  | .ok () => .opened ⟨serial.port, host.line⟩ (some serial.baud)
  | .error fault => .refused (.openFailed serial.port fault) false

/-- A session that has come to its end: the source and the port as they were left, how the session
ended, and all that happened. -/
structure Session (π : Type) where
  source : Source
  port : Option π
  ending : Ending
  history : History Progress

/-- Sends all of a source over a link, and lets the link go. -/
def Forwarder.forward {π : Type} [Port π] (forwarder : Forwarder) (observer : Observer)
    (source : Source) (opening : Opening π) : Session π :=
  match opening with
  | .opened connection _ =>
    let run := forwarder.transfer observer source connection
    { source := run.source
      port := some run.port.port
      ending := run.ending
      history := opening.history observer ++ run.history ++
        Connection.close observer connection.name }
  | .refused error _ => ⟨source, none, .failed error, opening.history observer⟩
  | .crashed _ => ⟨source, none, .crashed, opening.history observer⟩

end SerialFeed
