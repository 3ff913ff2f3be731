/-
This file holds the two devices at the ends of a transfer: the source, which is read, and the port,
which is written and flushed. Both follow a script that fixes how each call is answered; when the
script is used up every call is answered alike. A source thus stands for every reader that gives its
bytes in pieces of its own choosing and fails where it likes, and a link for every such writer.

A port is anything that can be written and flushed, so long as it fails only finitely often; that
is what lets a writer who tries again after a failure come to an end. Its calls may take time, and
its clock tells how much.
-/

import SerialFeed.History

namespace SerialFeed

/-- How a device answers one call: it moves up to so many bytes, fails or crashes. -/
inductive Step where
  | upTo (count : Nat)
  | fail (fault : Fault)
  | crash
  deriving DecidableEq

/-! ### The source -/

/-- An input stream: the bytes that it has not delivered yet, the answers of its next calls, and the
most that a later call delivers, if there is a most. -/
structure Source where
  pending : Bytes
  script : List Step := []
  cap : Option Nat := none
  deriving DecidableEq

namespace Source

/-- Delivers the next bytes, but no more than `count`. -/
def deliver (source : Source) (count : Nat) : Source × Reply Bytes :=
  ({ source with pending := source.pending.drop count }, .gave (source.pending.take count))

/-- Reads into a buffer with some room. A failing call delivers nothing. -/
def read (source : Source) (room : Nat) : Source × Reply Bytes :=
  match source.script with
  | [] => source.deliver (min (source.cap.getD room) room)
  | .upTo count :: rest => { source with script := rest }.deliver (min count room)
  | .fail fault :: rest => ({ source with script := rest }, .failed fault)
  | .crash :: rest => ({ source with script := rest }, .crashed)

/-- A read takes away from the source exactly what it delivers. -/
theorem read_pending (source : Source) (room : Nat) :
    (Entry.read room (source.read room).2 : Entry Empty).delivered ++
      (source.read room).1.pending = source.pending := by
  unfold read
  split <;> simp [deliver, Entry.delivered]

/-- A delivery is not longer than it may be. -/
theorem length_le_of_deliver {source : Source} {count : Nat} {bytes : Bytes}
    (answer : (source.deliver count).2 = .gave bytes) : bytes.length ≤ count := by
  cases answer
  exact List.length_take_le count source.pending

/-- A read delivers no more than there is room for. -/
theorem length_le_of_read {source : Source} {room : Nat} {bytes : Bytes}
    (answer : (source.read room).2 = .gave bytes) : bytes.length ≤ room := by
  unfold read at answer
  split at answer
  · exact Nat.le_trans (length_le_of_deliver answer) (Nat.min_le_right _ _)
  · exact Nat.le_trans (length_le_of_deliver answer) (Nat.min_le_right _ _)
  · cases answer
  · cases answer

/-- A read uses up steps of the script from the front. -/
theorem read_script_suffix (source : Source) (room : Nat) :
    (source.read room).1.script <:+ source.script := by
  unfold read
  split
  · exact List.suffix_rfl
  · rename_i script
    exact script ▸ List.suffix_cons _ _
  · rename_i script
    exact script ▸ List.suffix_cons _ _
  · rename_i script
    exact script ▸ List.suffix_cons _ _

theorem read_cap (source : Source) (room : Nat) : (source.read room).1.cap = source.cap := by
  unfold read
  split <;> rfl

/-- Reading never makes the script longer. -/
theorem read_script_le (source : Source) (room : Nat) :
    (source.read room).1.script.length ≤ source.script.length :=
  (source.read_script_suffix room).length_le

/-- A failing read uses up a step of the script. -/
theorem read_script_lt {source : Source} {room : Nat} {fault : Fault}
    (answer : (source.read room).2 = .failed fault) :
    (source.read room).1.script.length < source.script.length := by
  unfold read at answer ⊢
  split at answer <;> simp_all [deliver]

end Source

/-! ### The port -/

/-- What can be written and flushed. The patience of a port bounds how often it can still fail. -/
class Port (π : Type) where
  /-- Offers bytes to the port, which accepts some number of them from the front. -/
  write : π → Bytes → π × Reply Nat
  flush : π → π × Reply Unit
  /-- The time at which the last call was answered, in milliseconds. -/
  clock : π → Nat
  patience : π → Nat
  /-- No more bytes are accepted than were offered. -/
  accepted_le : ∀ {port : π} {offered : Bytes} {count : Nat},
    (write port offered).2 = .gave count → count ≤ offered.length
  patience_lt : ∀ {port : π} {offered : Bytes} {fault : Fault},
    (write port offered).2 = .failed fault → patience (write port offered).1 < patience port

/-- A scripted port: the answers of its next writes and flushes, and the most that a later write
accepts, if there is a most. Its calls take no time. -/
structure Link where
  writes : List Step := []
  flushes : List Step := []
  cap : Option Nat := none
  deriving DecidableEq

namespace Link

def write (link : Link) (offered : Bytes) : Link × Reply Nat :=
  match link.writes with
  | [] => (link, .gave (min (link.cap.getD offered.length) offered.length))
  | .upTo count :: rest => ({ link with writes := rest }, .gave (min count offered.length))
  | .fail fault :: rest => ({ link with writes := rest }, .failed fault)
  | .crash :: rest => ({ link with writes := rest }, .crashed)

/-- A flush that does not fail succeeds, whatever number its step holds. -/
def flush (link : Link) : Link × Reply Unit :=
  match link.flushes with
  | [] => (link, .gave ())
  | .upTo _ :: rest => ({ link with flushes := rest }, .gave ())
  | .fail fault :: rest => ({ link with flushes := rest }, .failed fault)
  | .crash :: rest => ({ link with flushes := rest }, .crashed)

instance : Port Link where
  write := write
  flush := flush
  clock _ := 0
  patience link := link.writes.length
  accepted_le {link offered count} answer := by
    unfold write at answer
    split at answer <;> simp at answer <;> omega
  patience_lt {link offered fault} answer := by
    unfold write at answer ⊢
    split at answer <;> simp_all

end Link

end SerialFeed
