/-
This file shows that looking at a transfer does not change it. Which records are written and whether
events are reported has no influence on the calls of the devices, on what is left of them and on how
the transfer ends; and a port that is held under a name is written and flushed like the port itself.
-/

import SerialFeed.Connection
import SerialFeed.Proofs.Likeness

namespace SerialFeed

/-! ### The calls of a history -/

section Calls

variable {Event Other : Type}

/-- The call of an entry, if it is one, without regard to who is told of events. -/
def Entry.call? : Entry Event → Option (Entry Empty)
  | read room reply => some (.read room reply)
  | write offered reply elapsed => some (.write offered reply elapsed)
  | flush reply => some (.flush reply)
  | _ => none

/-- Whether an entry is neither a record nor an event. -/
def Entry.isDeed : Entry Event → Bool
  | note _ => false
  | event _ => false
  | _ => true

namespace History

/-- The reads, writes and flushes. -/
def calls (history : History Event) : History Empty :=
  history.filterMap Entry.call?

@[simp]
theorem calls_append (first second : History Event) :
    calls (first ++ second) = first.calls ++ second.calls :=
  List.filterMap_append

@[simp]
theorem calls_translate (history : History Event) (translation : Event → Other) :
    (history.translate translation).calls = history.calls := by
  unfold translate calls
  rw [List.filterMap_map]
  congr 1
  funext entry
  cases entry <;> rfl

/-- What a port accepted is told by its calls. -/
theorem accepted_calls (history : History Event) : history.calls.accepted = history.accepted := by
  unfold calls accepted
  rw [List.filterMap_eq_flatMap_toList, List.flatMap_assoc]
  congr 1
  funext entry
  cases entry with
  | write offered reply elapsed =>
    cases reply with
    | gave count => exact List.append_nil _
    | failed fault => rfl
    | crashed => rfl
  | _ => rfl

end History

@[simp]
theorem Observer.calls_note (observer : Observer) (record : Note) :
    History.calls (observer.note record : History Event) = [] :=
  List.filterMap_eq_nil_iff.2 fun _ member => eq_of_mem_note member ▸ rfl

@[simp]
theorem Observer.calls_event (observer : Observer) (reported : Event) :
    History.calls (observer.event reported) = [] :=
  List.filterMap_eq_nil_iff.2 fun _ member => eq_of_mem_event member ▸ rfl

end Calls

/-! ### Other observers -/

section Observers

variable {π : Type} [Port π] (forwarder : Forwarder) (observer watcher : Observer)

/-- Someone who heeds neither records nor events takes one observer for another. -/
def Likeness.ofObservers : Likeness π π forwarder observer watcher :=
  .ofSees Entry.isDeed
    (fun record => by
      have unseen : ∀ onlooker : Observer,
          (onlooker.note record : History Progress).filter Entry.isDeed = [] := fun onlooker =>
        List.filter_eq_nil_iff.2 fun _ member =>
          Observer.eq_of_mem_note member ▸ Bool.false_ne_true
      rw [unseen observer, unseen watcher])
    (fun reported => by
      have unseen : ∀ onlooker : Observer,
          (onlooker.event reported).filter Entry.isDeed = [] := fun onlooker =>
        List.filter_eq_nil_iff.2 fun _ member =>
          Observer.eq_of_mem_event member ▸ Bool.false_ne_true
      rw [unseen observer, unseen watcher])

/-- Records and events are no calls. -/
theorem Entry.call?_of_isDeed {entry : Entry Progress} (silent : entry.isDeed = false) :
    entry.call?.toList = [] := by
  unfold isDeed at silent
  split at silent
  · rfl
  · rfl
  · cases silent

/-- Whoever is told of a transfer, the calls are the same, and so is what comes of them. -/
theorem transfer_observer (source : Source) (port : π) :
    let run := forwarder.transfer observer source port
    let other := forwarder.transfer watcher source port
    other.source = run.source ∧ other.port = run.port ∧ other.ending = run.ending ∧
      other.history.calls = run.history.calls := by
  intro run other
  obtain ⟨left, port, ending, alike⟩ :=
    (Likeness.ofObservers forwarder observer watcher).transfer_alike source port
  refine ⟨left, port, ending, ?_⟩
  unfold History.calls
  rw [List.filterMap_eq_flatMap_toList, List.filterMap_eq_flatMap_toList]
  exact alike.flatMap fun _ silent => Entry.call?_of_isDeed silent

end Observers

/-! ### Ports that are held under a name -/

section Connections

variable {π : Type} [Port π] (forwarder : Forwarder) (observer : Observer)

/-- A connection is taken for the port that it holds. -/
def Likeness.ofConnection : Likeness (Connection π) π forwarder observer observer :=
  .ofPort Connection.port (fun _ => rfl)
    (fun answer => by
      cases answer
      rfl)
    (fun answer => by
      cases answer
      rfl)

/-- A transfer over a connection is one over the port that it holds. -/
theorem transfer_connection (source : Source) (connection : Connection π) :
    let held := forwarder.transfer observer source connection
    let bare := forwarder.transfer observer source connection.port
    bare.source = held.source ∧ bare.port = held.port.port ∧ bare.ending = held.ending ∧
      bare.history = held.history := by
  intro held bare
  obtain ⟨left, port, ending, alike⟩ :=
    (Likeness.ofConnection forwarder observer).transfer_alike source connection
  have all : ∀ history : History Progress, history.filter (fun _ => true) = history :=
    fun history => List.filter_eq_self.2 fun _ _ => rfl
  exact ⟨left, port, ending, ((all _).symm.trans alike.symm).trans (all _)⟩

end Connections

end SerialFeed
