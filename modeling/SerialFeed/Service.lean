/-
This file holds the service: a session that runs in the background and reports its progress by
events. It reports the opened link, the progress of the transfer, and, after the link has been let
go, the outcome and the end. When a device crashes the background worker is lost: the link is let go
all the same, but neither an outcome nor an end is reported.
-/

import SerialFeed.Session

namespace SerialFeed

/-- What a service reports. -/
inductive ServiceEvent where
  | opened (name : String)
  /-- A block of so many bytes was sent. -/
  | sent (size : Nat)
  | settling
  | done (report : Report)
  | error (message : String)
  /-- The link has been let go; nothing is reported after this. -/
  | closed
  deriving DecidableEq, Repr

/-- The progress of a transfer as a service reports it. -/
def ServiceEvent.ofProgress : Progress → ServiceEvent
  | .block size => sent size
  | .settling => settling

namespace Ending

/-- What a service reports when a session has ended. A worker that was lost reports nothing. -/
def events : Ending → List ServiceEvent
  | sent report => [.done report, .closed]
  | failed error => [.error error.message, .closed]
  | crashed => []

/-- What whoever waits for the service is given. -/
def result : Ending → Except ForwardError Report
  | sent report => .ok report
  | failed error => .error error
  | crashed => .error .workerLost

end Ending

/-- A service that has come to its end. -/
structure Service (π : Type) where
  source : Source
  port : Option π
  result : Except ForwardError Report
  history : History ServiceEvent

/-- Runs a service to its end. -/
def Forwarder.serve {π : Type} [Port π] (forwarder : Forwarder) (observer : Observer)
    (source : Source) (opening : Opening π) : Service π :=
  let conclude (port : Option π) (source : Source) (ending : Ending)
      (history : History ServiceEvent) : Service π :=
    ⟨source, port, ending.result, history ++ ending.events.map .event⟩
  match opening with
  | .opened connection _ =>
    let run := forwarder.transfer { observer with events := true } source connection
    conclude (some run.port.port) run.source run.ending
      (opening.history observer ++ .event (.opened connection.name) ::
        (run.history.translate .ofProgress ++ Connection.close observer connection.name))
  | .refused error _ => conclude none source (.failed error) (opening.history observer)
  | .crashed _ => conclude none source .crashed (opening.history observer)

end SerialFeed
