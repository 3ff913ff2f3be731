/-
This file holds the history of a run: every call on a device with its answer, every event that an
observer was told of, every log record written and every pause, in the order in which they
happened. What a run has read, written and reported is a view on its history, so nothing else has
to be counted while the run goes on.
-/

import SerialFeed.Fault
import SerialFeed.Note

namespace SerialFeed

/-- The answer of a call: a value, a failure, or no answer because the device crashed. -/
inductive Reply (Value : Type) where
  | gave (value : Value)
  | failed (fault : Fault)
  | crashed
  deriving DecidableEq

/-- One thing that happened. -/
inductive Entry (Event : Type) where
  /-- A link was asked for. -/
  | opening
  /-- The source was read into a buffer with so much room. -/
  | read (room : Nat) (reply : Reply Bytes)
  /-- A port was offered some bytes and said how many of them it accepts; it said so that many
  milliseconds after the first offer of what is being written. -/
  | write (offered : Bytes) (reply : Reply Nat) (elapsed : Nat)
  | flush (reply : Reply Unit)
  | event (reported : Event)
  | note (record : Note)
  | pause (milliseconds : Nat)
  /-- The link was let go. -/
  | release
  deriving DecidableEq

/-- What happened, the earliest first. -/
abbrev History (Event : Type) := List (Entry Event)

namespace Entry

variable {Event Other : Type}

/-- The same thing, told to an observer of other events. -/
def map (translate : Event → Other) : Entry Event → Entry Other
  | opening => opening
  | read room reply => read room reply
  | write offered reply elapsed => write offered reply elapsed
  | flush reply => flush reply
  | event reported => event (translate reported)
  | note record => note record
  | pause milliseconds => pause milliseconds
  | release => release

/-- The bytes that a read delivered. -/
def delivered : Entry Event → Bytes
  | read _ (.gave bytes) => bytes
  | _ => []

/-- The bytes that a port accepted. -/
def accepted : Entry Event → Bytes
  | write offered (.gave count) _ => offered.take count
  | _ => []

def event? : Entry Event → Option Event
  | event reported => some reported
  | _ => none

def note? : Entry Event → Option Note
  | note record => some record
  | _ => none

def isRead : Entry Event → Bool
  | read .. => true
  | _ => false

def isWrite : Entry Event → Bool
  | write .. => true
  | _ => false

def isNote : Entry Event → Bool
  | note _ => true
  | _ => false

theorem delivered_of_isRead {entry : Entry Event} (other : entry.isRead = false) :
    entry.delivered = [] := by
  cases entry with
  | read => cases other
  | _ => rfl

theorem accepted_of_isWrite {entry : Entry Event} (other : entry.isWrite = false) :
    entry.accepted = [] := by
  cases entry with
  | write => cases other
  | _ => rfl

end Entry

namespace History

variable {Event Other : Type}

/-- The same history, told to an observer of other events. -/
def translate (history : History Event) (translation : Event → Other) : History Other :=
  List.map (Entry.map translation) history

/-- All bytes that were read, in order. -/
def delivered (history : History Event) : Bytes :=
  history.flatMap Entry.delivered

/-- All bytes that a port accepted, in order. -/
def accepted (history : History Event) : Bytes :=
  history.flatMap Entry.accepted

/-- The events that were reported. -/
def events (history : History Event) : List Event :=
  history.filterMap Entry.event?

/-- The log records that were written. -/
def notes (history : History Event) : List Note :=
  history.filterMap Entry.note?

@[simp]
theorem delivered_nil : delivered ([] : History Event) = [] := rfl

@[simp]
theorem delivered_cons (entry : Entry Event) (history : History Event) :
    delivered (entry :: history) = entry.delivered ++ history.delivered := rfl

@[simp]
theorem delivered_append (first second : History Event) :
    delivered (first ++ second) = first.delivered ++ second.delivered :=
  List.flatMap_append

@[simp]
theorem accepted_nil : accepted ([] : History Event) = [] := rfl

@[simp]
theorem accepted_cons (entry : Entry Event) (history : History Event) :
    accepted (entry :: history) = entry.accepted ++ history.accepted := rfl

@[simp]
theorem accepted_append (first second : History Event) :
    accepted (first ++ second) = first.accepted ++ second.accepted :=
  List.flatMap_append

@[simp]
theorem events_nil : events ([] : History Event) = [] := rfl

@[simp]
theorem events_cons (entry : Entry Event) (history : History Event) :
    events (entry :: history) = entry.event?.toList ++ history.events := by
  cases entry <;> rfl

@[simp]
theorem events_append (first second : History Event) :
    events (first ++ second) = first.events ++ second.events :=
  List.filterMap_append

/-- Whether nothing was read. -/
def ReadFree (history : History Event) : Prop :=
  ∀ entry ∈ history, entry.isRead = false

/-- Whether nothing was written. -/
def WriteFree (history : History Event) : Prop :=
  ∀ entry ∈ history, entry.isWrite = false

section Free

variable {first second : History Event}

theorem ReadFree.delivered (free : first.ReadFree) : first.delivered = [] :=
  List.flatMap_eq_nil_iff.2 fun entry member => Entry.delivered_of_isRead (free entry member)

theorem WriteFree.accepted (free : first.WriteFree) : first.accepted = [] :=
  List.flatMap_eq_nil_iff.2 fun entry member => Entry.accepted_of_isWrite (free entry member)

theorem ReadFree.append (free : first.ReadFree) (other : second.ReadFree) :
    ReadFree (first ++ second) :=
  List.forall_mem_append.2 ⟨free, other⟩

theorem WriteFree.append (free : first.WriteFree) (other : second.WriteFree) :
    WriteFree (first ++ second) :=
  List.forall_mem_append.2 ⟨free, other⟩

end Free

/-- Whether some even-numbered flush comes after a pause of at least `settle` since the flush
before it; `second` says that an odd number of flushes has gone by, and `waited` how long the pause
since the last of them is. -/
def settledFrom (settle : Nat) (second : Bool) (waited : Nat) : History Event → Bool
  | [] => false
  | .flush _ :: rest =>
    (second && settle ≤ waited) || settledFrom settle (!second) 0 rest
  | .pause milliseconds :: rest => settledFrom settle second (waited + milliseconds) rest
  | _ :: rest => settledFrom settle second waited rest

/-- Whether the output was given its time to settle: some second, fourth, … flush came at least
`settle` milliseconds after the flush before it. -/
def settled (settle : Nat) (history : History Event) : Bool :=
  settledFrom settle false 0 history

end History

/-- Who is told of a run: which log records are written, and whether events are reported. -/
structure Observer where
  verbosity : Verbosity := none
  events : Bool := true
  deriving DecidableEq

namespace Observer

variable {Event : Type}

/-- Writes a log record, if it is severe enough. -/
def note (observer : Observer) (record : Note) : History Event :=
  if observer.verbosity.shows record.severity then [.note record] else []

/-- Reports an event, if anyone listens. -/
def event (observer : Observer) (reported : Event) : History Event :=
  if observer.events then [.event reported] else []

/-- Where a record may be written, nothing but this record is. -/
theorem eq_of_mem_note {observer : Observer} {record : Note} {entry : Entry Event}
    (member : entry ∈ observer.note record) : entry = .note record := by
  unfold note at member
  split at member
  · exact List.mem_singleton.1 member
  · exact absurd member List.not_mem_nil

/-- Where an event may be reported, nothing but this event is. -/
theorem eq_of_mem_event {observer : Observer} {reported : Event} {entry : Entry Event}
    (member : entry ∈ observer.event reported) : entry = .event reported := by
  unfold event at member
  split at member
  · exact List.mem_singleton.1 member
  · exact absurd member List.not_mem_nil

theorem readFree_note (observer : Observer) (record : Note) :
    History.ReadFree (observer.note record : History Event) :=
  fun _ member => eq_of_mem_note member ▸ rfl

theorem writeFree_note (observer : Observer) (record : Note) :
    History.WriteFree (observer.note record : History Event) :=
  fun _ member => eq_of_mem_note member ▸ rfl

theorem readFree_event (observer : Observer) (reported : Event) :
    History.ReadFree (observer.event reported) :=
  fun _ member => eq_of_mem_event member ▸ rfl

theorem writeFree_event (observer : Observer) (reported : Event) :
    History.WriteFree (observer.event reported) :=
  fun _ member => eq_of_mem_event member ▸ rfl

@[simp]
theorem delivered_note (observer : Observer) (record : Note) :
    History.delivered (observer.note record : History Event) = [] :=
  (observer.readFree_note record).delivered

@[simp]
theorem accepted_note (observer : Observer) (record : Note) :
    History.accepted (observer.note record : History Event) = [] :=
  (observer.writeFree_note record).accepted

@[simp]
theorem events_note (observer : Observer) (record : Note) :
    History.events (observer.note record : History Event) = [] :=
  List.filterMap_eq_nil_iff.2 fun _ member => eq_of_mem_note member ▸ rfl

@[simp]
theorem delivered_event (observer : Observer) (reported : Event) :
    History.delivered (observer.event reported) = [] :=
  (observer.readFree_event reported).delivered

@[simp]
theorem accepted_event (observer : Observer) (reported : Event) :
    History.accepted (observer.event reported) = [] :=
  (observer.writeFree_event reported).accepted

/-- An observer who listens is told of the event. -/
theorem events_event {observer : Observer} (listening : observer.events = true)
    (reported : Event) : History.events (observer.event reported) = [reported] := by
  rw [event, if_pos listening]
  rfl

end Observer

end SerialFeed
