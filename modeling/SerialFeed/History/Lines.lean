/-
This file writes a history down, a line for each thing that happened. A line of a call shows what
the call was given and, behind an arrow, what it answered. Pauses leave no line.
-/

import SerialFeed.History

namespace SerialFeed

/-- The answer of a call as a line shows it. -/
def Reply.text {Value : Type} (write : Value → String) : Reply Value → String
  | gave value => write value
  | failed fault => s!"err {fault.kind.name}"
  | crashed => "panic"

namespace Entry

variable {Event : Type}

/-- The line of an entry, if it has one. In a brief line the bytes of a write are only counted. -/
def line? (brief : Bool) (eventLine : Event → Option String) : Entry Event → Option String
  | opening => some "open"
  | read room reply =>
    let answer := reply.text fun bytes => toString bytes.length
    some s!"read {room} -> {answer}"
  | write offered reply _ =>
    let bytes := if brief then s!"#{offered.length}" else Text.Hex.text offered
    let answer := reply.text toString
    some s!"write {bytes} -> {answer}"
  | flush reply =>
    let answer := reply.text fun _ => "0"
    some s!"flush -> {answer}"
  | event reported => eventLine reported
  | note record => some s!"log {record.severity.name} {record.text}"
  | pause _ => none
  | release => some "release"

end Entry

/-- The lines of a history. -/
def History.lines {Event : Type} (brief : Bool) (eventLine : Event → Option String)
    (history : History Event) : List String :=
  history.filterMap (Entry.line? brief eventLine)

end SerialFeed
