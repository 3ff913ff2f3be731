/-
This file compares a service with the transfer that it carries out. A service that gets a link makes
the calls of a transfer over this link and ends like it; its events are the opened link, the
progress of the transfer and, after the link has been let go, the outcome and the end. A service
that gets no link calls nothing and reports the failure and the end. Whoever receives the events has
no part in this: the worker sends them without waiting, and goes on when nobody is there to receive
them.

The end is reported unless a device or whoever opens the link crashes. Then the worker is lost, and
neither an outcome nor the end is ever reported.
-/

import Mathlib.Logic.Relation
import SerialFeed.Service
import SerialFeed.Proofs.Observation
import SerialFeed.Proofs.Outcome

namespace SerialFeed

/-! ### The parts of a service -/

section Parts

variable {Event Other : Type}

namespace History

@[simp]
theorem events_translate (history : History Event) (translation : Event → Other) :
    (history.translate translation).events = history.events.map translation := by
  unfold translate events
  rw [List.filterMap_map, List.map_filterMap]
  congr 1
  funext entry
  cases entry <;> rfl

@[simp]
theorem events_map_event (reported : List Event) :
    events (reported.map .event) = reported := by
  unfold events
  rw [List.filterMap_map]
  exact List.filterMap_some

@[simp]
theorem calls_map_event (reported : List Event) : calls (reported.map .event) = [] := by
  unfold calls
  rw [List.filterMap_map]
  exact List.filterMap_eq_nil_iff.2 fun _ _ => rfl

end History

variable {π : Type} (Event) (observer : Observer)

/-- Nothing is called and no event is reported while a link is asked for. -/
theorem Opening.history_quiet (opening : Opening π) :
    History.calls (opening.history observer : History Event) = [] ∧
      History.events (opening.history observer : History Event) = [] := by
  cases opening with
  | opened connection speed =>
    cases speed with
    | none => exact ⟨rfl, rfl⟩
    | some speed =>
      exact ⟨observer.calls_note _, observer.events_note _⟩
  | refused error discarded => cases discarded <;> exact ⟨rfl, rfl⟩
  | crashed discarded => cases discarded <;> exact ⟨rfl, rfl⟩

theorem Connection.close_quiet (name : String) :
    History.calls (Connection.close observer name : History Event) = [] ∧
      History.events (Connection.close observer name : History Event) = [] := by
  unfold close
  rw [History.calls_append, Observer.calls_note, History.events_append, Observer.events_note]
  exact ⟨rfl, rfl⟩

end Parts

/-! ### Receiving the events of a service -/

/-- A service under way and whoever receives its events: what the worker has done and what is ahead
of it, the events that wait to be received and those that were, and whether anyone still receives
them. -/
structure Delivery where
  made : History ServiceEvent
  ahead : History ServiceEvent
  waiting : List ServiceEvent
  received : List ServiceEvent
  attended : Bool

namespace Delivery

/-- A service that has all of its history ahead. -/
def start (history : History ServiceEvent) : Delivery :=
  ⟨[], history, [], [], true⟩

/-- What the worker and the receiver can do, each in its own time. -/
inductive Step : Delivery → Delivery → Prop where
  /-- The worker does something of which nobody is told. -/
  | work {made ahead : History ServiceEvent} {waiting received : List ServiceEvent}
    {attended : Bool} {entry : Entry ServiceEvent} (quiet : entry.event? = none) :
    Step ⟨made, entry :: ahead, waiting, received, attended⟩
      ⟨made ++ [entry], ahead, waiting, received, attended⟩
  | send {made ahead : History ServiceEvent} {waiting received : List ServiceEvent}
    {reported : ServiceEvent} :
    Step ⟨made, .event reported :: ahead, waiting, received, true⟩
      ⟨made ++ [.event reported], ahead, waiting ++ [reported], received, true⟩
  /-- An event that is sent when nobody receives is lost, and the worker does not care. -/
  | lose {made ahead : History ServiceEvent} {waiting received : List ServiceEvent}
    {reported : ServiceEvent} :
    Step ⟨made, .event reported :: ahead, waiting, received, false⟩
      ⟨made ++ [.event reported], ahead, waiting, received, false⟩
  | receive {made ahead : History ServiceEvent} {waiting received : List ServiceEvent}
    {reported : ServiceEvent} :
    Step ⟨made, ahead, reported :: waiting, received, true⟩
      ⟨made, ahead, waiting, received ++ [reported], true⟩
  /-- The receiver goes away, and with it all that waits. -/
  | leave {made ahead : History ServiceEvent} {waiting received : List ServiceEvent} :
    Step ⟨made, ahead, waiting, received, true⟩ ⟨made, ahead, [], received, false⟩

/-- Whether a delivery keeps to a history: the worker goes through the history in its order, the
events that were received are the first ones sent, and as long as anyone receives, those that are
not received yet are waiting. -/
structure Sound (history : History ServiceEvent) (delivery : Delivery) : Prop where
  course : delivery.made ++ delivery.ahead = history
  received : delivery.received <+: delivery.made.events
  complete : delivery.attended = true →
    delivery.received ++ delivery.waiting = delivery.made.events

variable {history : History ServiceEvent} {delivery next : Delivery}

theorem sound_start (history : History ServiceEvent) : (start history).Sound history :=
  ⟨rfl, List.prefix_rfl, fun _ => rfl⟩

theorem Step.sound (step : Step delivery next) (sound : delivery.Sound history) :
    next.Sound history := by
  obtain ⟨course, before, complete⟩ := sound
  cases step with
  | @work made ahead waiting received attended entry quiet =>
    have same : History.events (made ++ [entry]) = made.events := by
      rw [History.events_append, History.events_cons, quiet]
      exact List.append_nil _
    refine ⟨?_, ?_, ?_⟩
    · rw [← course]
      exact (List.append_cons ..).symm
    · exact same.symm ▸ before
    · exact same.symm ▸ complete
  | @send made ahead waiting received reported =>
    have more : History.events (made ++ [.event reported]) = made.events ++ [reported] :=
      History.events_append ..
    refine ⟨?_, ?_, fun attended => ?_⟩
    · rw [← course]
      exact (List.append_cons ..).symm
    · exact more.symm ▸ before.trans (List.prefix_append ..)
    · exact more.symm ▸ complete attended ▸ (List.append_assoc ..).symm
  | @lose made ahead waiting received reported =>
    have more : History.events (made ++ [.event reported]) = made.events ++ [reported] :=
      History.events_append ..
    refine ⟨?_, ?_, nofun⟩
    · rw [← course]
      exact (List.append_cons ..).symm
    · exact more.symm ▸ before.trans (List.prefix_append ..)
  | @receive made ahead waiting received reported =>
    have all := complete rfl
    rw [List.append_cons] at all
    exact ⟨course, all ▸ List.prefix_append .., fun _ => all⟩
  | leave => exact ⟨course, before, nofun⟩

end Delivery

/-! ### A service and its transfer -/

section Serve

variable {π : Type} [Port π] (forwarder : Forwarder) (observer : Observer) (source : Source)

/-- A service that gets no link reports why, and is at its end. -/
theorem serve_refused (error : ForwardError) (discarded : Bool) :
    let service := forwarder.serve observer source (.refused error discarded : Opening π)
    service.history.events = [.error error.message, .closed] ∧
      service.result = .error error ∧ service.source = source ∧ service.history.calls = [] := by
  have quiet := (Opening.refused error discarded : Opening π).history_quiet ServiceEvent observer
  refine ⟨?_, rfl, rfl, ?_⟩
  · refine (History.events_append ..).trans ?_
    rw [quiet.2, History.events_map_event]
    rfl
  · refine (History.calls_append ..).trans ?_
    rw [quiet.1, History.calls_map_event]
    rfl

/-- A service over a connection makes the calls of a transfer over its port, and its events are the
opened link, the progress of this transfer and whatever belongs to its ending. -/
theorem serve_opened (connection : Connection π) (speed : Option Nat) :
    let service := forwarder.serve observer source (.opened connection speed)
    let direct := forwarder.transfer { observer with events := true } source connection.port
    service.history.events = .opened connection.name ::
        (direct.history.events.map .ofProgress ++ direct.ending.events) ∧
      service.result = direct.ending.result ∧ service.source = direct.source ∧
      service.port = some direct.port ∧ service.history.calls = direct.history.calls := by
  intro service direct
  obtain ⟨left, port, ending, history⟩ :=
    transfer_connection forwarder { observer with events := true } source connection
  have quiet := (Opening.opened connection speed).history_quiet ServiceEvent observer
  have closing := Connection.close_quiet ServiceEvent observer connection.name
  have course : service.history =
      (Opening.opened connection speed).history observer ++
        ([.event (.opened connection.name)] ++ (direct.history.translate .ofProgress ++
          Connection.close observer connection.name)) ++ direct.ending.events.map .event := by
    rw [show direct.history = _ from history, show direct.ending = _ from ending]
    rfl
  refine ⟨?_, congrArg Ending.result ending.symm, left.symm, congrArg some port.symm, ?_⟩
  · rw [course]
    simp only [History.events_append, quiet.2, closing.2, History.events_translate,
      History.events_map_event, List.append_nil, List.nil_append]
    rfl
  · rw [course]
    simp only [History.calls_append, quiet.1, closing.1, History.calls_translate,
      History.calls_map_event, List.append_nil, List.nil_append]
    rfl

theorem accepted_eq_of_calls {Event Other : Type} {first : History Event} {second : History Other}
    (same : first.calls = second.calls) : first.accepted = second.accepted := by
  rw [← History.accepted_calls, same, History.accepted_calls]

end Serve

/-! ### The end of a service -/

def Reply.isCrashed {Value : Type} : Reply Value → Bool
  | crashed => true
  | _ => false

/-- Whether an entry is a call at which a device crashed. -/
def Entry.isCrash {Event : Type} : Entry Event → Bool
  | read _ reply => reply.isCrashed
  | write _ reply _ => reply.isCrashed
  | flush reply => reply.isCrashed
  | _ => false

/-- Whether some call of a history crashed. -/
def History.Crashes {Event : Type} (history : History Event) : Prop :=
  ∃ entry ∈ history, entry.isCrash = true

namespace ServiceEvent

def isOutcome : ServiceEvent → Bool
  | done _ => true
  | error _ => true
  | _ => false

/-- Whether events end with an outcome and the report that the service is closed, and neither comes
before. -/
def Complete (events : List ServiceEvent) : Prop :=
  ∃ before outcome, events = before ++ [outcome, closed] ∧ outcome.isOutcome = true ∧
    ∀ event ∈ before, event.isOutcome = false ∧ event ≠ closed

end ServiceEvent

section Closing

variable {Event Other : Type} {forwarder : Forwarder} {observer : Observer}

theorem Reply.isCrashed_iff {Value : Type} {reply : Reply Value} :
    reply.isCrashed = true ↔ reply = .crashed := by
  cases reply <;> simp [isCrashed]

theorem Entry.fatal?_eq_crashed_iff {entry : Entry Event} :
    entry.fatal? forwarder = some .crashed ↔ entry.isCrash = true := by
  rw [fatal?_eq_crashed]
  constructor
  · rintro (⟨room, rfl⟩ | ⟨offered, elapsed, rfl⟩ | rfl)
    · rfl
    · rfl
    · rfl
  · intro crash
    cases entry with
    | read room reply => exact Or.inl ⟨room, congrArg _ (Reply.isCrashed_iff.1 crash)⟩
    | write offered reply elapsed =>
      rw [Reply.isCrashed_iff.1 crash]
      exact Or.inr (Or.inl ⟨offered, elapsed, rfl⟩)
    | flush reply => exact Or.inr (Or.inr (congrArg _ (Reply.isCrashed_iff.1 crash)))
    | _ => cases crash

/-- A crash is a call. -/
theorem History.crashes_calls (history : History Event) :
    history.calls.Crashes ↔ history.Crashes := by
  unfold Crashes calls
  simp only [List.mem_filterMap]
  constructor
  · rintro ⟨call, ⟨entry, member, same⟩, crash⟩
    refine ⟨entry, member, ?_⟩
    cases entry <;> cases same <;> exact crash
  · rintro ⟨entry, member, crash⟩
    cases entry with
    | read room reply => exact ⟨_, ⟨_, member, rfl⟩, crash⟩
    | write offered reply elapsed => exact ⟨_, ⟨_, member, rfl⟩, crash⟩
    | flush reply => exact ⟨_, ⟨_, member, rfl⟩, crash⟩
    | _ => cases crash

theorem crashes_iff_of_calls {first : History Event} {second : History Other}
    (same : first.calls = second.calls) : first.Crashes ↔ second.Crashes := by
  rw [← History.crashes_calls, same, History.crashes_calls]

/-- A transfer is lost exactly if one of its calls crashed. -/
theorem Transfers.crashes_iff {ending : Ending} {history : History Progress}
    (transfers : Transfers forwarder observer ending history) :
    history.Crashes ↔ ending = .crashed := by
  cases capacity : Shortage.ofSize? forwarder.blockSize.bytes with
  | none =>
    rw [← Ending.stop?_eq_crashed, (transfers.ends capacity).iff]
    simp only [Entry.fatal?_eq_crashed_iff]
    exact Iff.rfl
  | some shortage =>
    obtain ⟨rfl, rfl⟩ := transfers.of_short capacity
    exact iff_of_false nofun nofun

/-- What a service reports while its transfer goes on is neither an outcome nor its end. -/
theorem ServiceEvent.passing_of_mem {name : String} {progress : List Progress}
    {event : ServiceEvent} (member : event ∈ opened name :: progress.map .ofProgress) :
    event.isOutcome = false ∧ event ≠ closed := by
  cases member with
  | head => exact ⟨rfl, nofun⟩
  | tail _ later =>
    obtain ⟨told, _, rfl⟩ := List.mem_map.1 later
    cases told with
    | block size => exact ⟨rfl, nofun⟩
    | settling => exact ⟨rfl, nofun⟩

/-- Events behind which an ending is reported are complete, unless it is a crash. -/
theorem Ending.complete_iff {before : List ServiceEvent}
    (passing : ∀ event ∈ before, event.isOutcome = false ∧ event ≠ .closed) (ending : Ending) :
    ServiceEvent.Complete (before ++ ending.events) ↔ ending ≠ .crashed := by
  cases ending with
  | sent report => exact iff_of_true ⟨before, .done report, rfl, rfl, passing⟩ nofun
  | failed error => exact iff_of_true ⟨before, .error error.message, rfl, rfl, passing⟩ nofun
  | crashed =>
    refine iff_of_false ?_ fun other => other rfl
    rintro ⟨others, outcome, same, _, _⟩
    have member : ServiceEvent.closed ∈ before := by
      rw [← List.append_nil before, show before ++ [] = _ from same]
      exact List.mem_append_right _ (List.mem_cons_of_mem _ List.mem_cons_self)
    exact (passing _ member).2 rfl

end Closing

/-- The events of a service are some that say neither how it ended nor that it has, and then those
of an ending, which is a crash exactly if the link or a device crashed. -/
theorem serve_ending {π : Type} [Port π] (forwarder : Forwarder) (observer : Observer)
    (source : Source) (opening : Opening π) :
    let service := forwarder.serve observer source opening
    ∃ before ending, service.history.events = before ++ Ending.events ending ∧
      (∀ event ∈ before, event.isOutcome = false ∧ event ≠ .closed) ∧
      ((∃ discarded, opening = .crashed discarded) ∨ service.history.Crashes ↔
        ending = .crashed) := by
  intro service
  cases opening with
  | refused error discarded =>
    obtain ⟨events, _, _, calls⟩ :
        service.history.events = _ ∧ _ ∧ _ ∧ service.history.calls = [] :=
      serve_refused forwarder observer source error discarded
    refine ⟨[], .failed error, events, nofun, iff_of_false ?_ nofun⟩
    rintro (⟨_, impossible⟩ | crashes)
    · cases impossible
    · rw [← History.crashes_calls, calls] at crashes
      obtain ⟨_, member, _⟩ := crashes
      cases member
  | crashed discarded =>
    have quiet := (Opening.crashed discarded : Opening π).history_quiet ServiceEvent observer
    refine ⟨[], .crashed, ?_, nofun, iff_of_true (Or.inl ⟨discarded, rfl⟩) rfl⟩
    refine (History.events_append ..).trans ?_
    rw [quiet.2]
    rfl
  | opened connection speed =>
    obtain ⟨events, _, _, _, calls⟩ := serve_opened forwarder observer source connection speed
    have transfers := transfer_transfers forwarder { observer with events := true } source
      connection.port
    refine ⟨_, _, events, fun _ => ServiceEvent.passing_of_mem, ?_⟩
    rw [← transfers.crashes_iff, ← crashes_iff_of_calls calls]
    exact or_iff_right nofun

/-- The end of a service is its last event, behind the outcome, exactly if neither a device nor
whoever opened the link has crashed. After a crash there is neither an outcome nor an end. -/
theorem serve_complete_iff {π : Type} [Port π] (forwarder : Forwarder) (observer : Observer)
    (source : Source) (opening : Opening π) :
    let service := forwarder.serve observer source opening
    let lost := (∃ discarded, opening = .crashed discarded) ∨ service.history.Crashes
    (ServiceEvent.Complete service.history.events ↔ ¬ lost) ∧
      (lost → ∀ event ∈ service.history.events, event.isOutcome = false ∧ event ≠ .closed) := by
  intro service lost
  obtain ⟨before, ending, events, passing, lost_iff⟩ :=
    serve_ending forwarder observer source opening
  refine ⟨?_, fun crashed => ?_⟩
  · rw [show service.history.events = _ from events, ending.complete_iff passing]
    exact not_congr lost_iff.symm
  · rw [show service.history.events = _ from events, lost_iff.1 crashed]
    exact (List.append_nil before).symm ▸ passing

/-- A source that crashes when it is first read. -/
def vanishing : Source :=
  { pending := [97, 98, 99, 100, 101, 102, 103, 104]
    script := [.crash] }

/-- A service whose source crashes reports that it got its link, and nothing after that. -/
theorem serve_vanishing :
    let forwarder : Forwarder := { blockSize := ⟨4, by decide⟩ }
    let service := forwarder.serve {} vanishing (.opened ⟨"mem0", ({} : Link)⟩ none)
    service.history.events = [.opened "mem0"] ∧
      ¬ ServiceEvent.Complete service.history.events := by
  intro forwarder service
  have events : service.history.events = [.opened "mem0"] := by cbv
  have passing : ∀ event ∈ [ServiceEvent.opened "mem0"],
      event.isOutcome = false ∧ event ≠ .closed := List.forall_mem_singleton.2 ⟨rfl, nofun⟩
  refine ⟨events, fun complete => ?_⟩
  rw [events] at complete
  exact (Ending.crashed.complete_iff passing).1 complete rfl

end SerialFeed
