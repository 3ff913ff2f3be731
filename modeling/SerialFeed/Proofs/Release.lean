/-
This file shows that a link is let go exactly once, whichever way its use ends: with success, with
an error, with a crash in the midst of a block, or because someone asks for it. The record that the
port is closed comes right before that, and the port is not called any more. A service lets its link
go before it reports how it ended, and that it has.

Whoever is asked for a link may have none to give and yet hold a port. That port is let go too, but
not by the service: it is never called, and no record tells that it was closed.
-/

import SerialFeed.Proofs.Service

namespace SerialFeed

/-! ### Histories that let a link go -/

/-- Whether an entry is a call of a port. -/
def Entry.isPortCall {Event : Type} : Entry Event → Bool
  | write .. => true
  | flush _ => true
  | _ => false

/-- Whether a history lets its link go between two parts of it, and nowhere else. The first part
ends with the record that the port is closed, if such records are written; in the second part the
port is not called. -/
structure History.LetsGo {Event : Type} (observer : Observer) (name : String)
    (history before after : History Event) : Prop where
  course : history = before ++ .release :: after
  held : .release ∉ before
  gone : ∀ entry ∈ after, entry ≠ .release ∧ entry.isPortCall = false
  recorded : observer.verbosity.shows .debug = true →
    ∃ earlier, before = earlier ++ [.note (.portClosed name)]

section Closing

variable {Event Other : Type} {observer : Observer} {name : String}

theorem Observer.release_not_mem_note (observer : Observer) (record : Note) :
    .release ∉ (observer.note record : History Event) :=
  fun member => nomatch eq_of_mem_note member

/-- A link that has been held so far is let go when its connection is closed. -/
theorem History.letsGo_close {earlier after : History Event} (held : .release ∉ earlier)
    (gone : ∀ entry ∈ after, entry ≠ .release ∧ entry.isPortCall = false) :
    History.LetsGo observer name (earlier ++ Connection.close observer name ++ after)
      (earlier ++ observer.note (.portClosed name)) after where
  course := by simp [Connection.close]
  held := by
    rw [List.mem_append, not_or]
    exact ⟨held, observer.release_not_mem_note _⟩
  gone := gone
  recorded shown := ⟨earlier, congrArg (earlier ++ ·) (if_pos shown)⟩

/-- A connection that is closed at the very end is let go as the last thing. -/
theorem History.letsGo_close_last {earlier : History Event} (held : .release ∉ earlier) :
    History.LetsGo observer name (earlier ++ Connection.close observer name)
      (earlier ++ observer.note (.portClosed name)) [] := by
  have nothing : ∀ entry ∈ ([] : History Event), entry ≠ .release ∧ entry.isPortCall = false :=
    fun _ member => absurd member List.not_mem_nil
  have closed : LetsGo observer name (earlier ++ Connection.close observer name ++ []) _ [] :=
    letsGo_close held nothing
  rw [List.append_nil] at closed
  exact closed

/-- What a service reports is no use of its port. -/
theorem History.gone_of_mem_map_event {reported : List Event} :
    ∀ entry ∈ (reported.map .event : History Event),
      entry ≠ .release ∧ entry.isPortCall = false := by
  intro entry member
  obtain ⟨event, _, rfl⟩ := List.mem_map.1 member
  exact ⟨nofun, rfl⟩

theorem History.release_mem_translate {history : History Event} {translation : Event → Other} :
    .release ∈ history.translate translation ↔ .release ∈ history := by
  unfold translate
  rw [List.mem_map]
  constructor
  · rintro ⟨entry, member, same⟩
    cases entry with
    | release => exact member
    | _ => cases same
  · exact fun member => ⟨.release, member, rfl⟩

theorem Transfers.release_not_mem {forwarder : Forwarder} {ending : Ending}
    {history : History Progress} (transfers : Transfers forwarder observer ending history) :
    .release ∉ history := by
  have everywhere : Everywhere forwarder (· ≠ .release) :=
    { read := fun _ _ => nofun
      write := fun _ _ => nofun
      note := fun _ => nofun
      event := fun _ => nofun
      flush := fun _ => nofun
      pause := fun _ => nofun }
  exact fun member => everywhere.of_transfers transfers _ member rfl

end Closing

/-! ### Services and sessions -/

/-- Nothing is let go while a link is opened. -/
theorem Opening.release_not_mem {π Event : Type} (observer : Observer) (connection : Connection π)
    (speed : Option Nat) :
    .release ∉ ((Opening.opened connection speed).history observer : History Event) := by
  cases speed with
  | none => simp [history]
  | some speed => simp [history, observer.release_not_mem_note]

/-- Whoever has no link to give lets go of nothing but a port of its own. -/
theorem Opening.release_mem_iff {π Event : Type} (observer : Observer) {opening : Opening π}
    {discarded : Bool}
    (unopened : (∃ error, opening = .refused error discarded) ∨ opening = .crashed discarded) :
    .release ∈ (opening.history observer : History Event) ↔ discarded = true := by
  rcases unopened with ⟨error, rfl⟩ | rfl
  · cases discarded <;> simp [history]
  · cases discarded <;> simp [history]

section Serve

variable {π : Type} [Port π] (forwarder : Forwarder) (observer : Observer) (source : Source)

/-- A service lets its link go, and whatever tells how it ended and that it has comes after that. -/
theorem serve_letsGo (connection : Connection π) (speed : Option Nat) :
    ∃ before after, (forwarder.serve observer source (.opened connection speed)).history.LetsGo
        observer connection.name before after ∧
      ∀ event ∈ History.events before, event.isOutcome = false ∧ event ≠ .closed := by
  let run := forwarder.transfer { observer with events := true } source connection
  let opening : History ServiceEvent := (Opening.opened connection speed).history observer
  let progress : History ServiceEvent :=
    .event (.opened connection.name) :: run.history.translate .ofProgress
  have course : (forwarder.serve observer source (.opened connection speed)).history =
      opening ++ progress ++ Connection.close observer connection.name ++
        run.ending.events.map .event := by
    rw [List.append_assoc opening]
    rfl
  have held : .release ∉ opening ++ progress := by
    have transferred := (transfer_transfers forwarder { observer with events := true } source
      connection).release_not_mem
    simp only [progress, List.mem_append, List.mem_cons, reduceCtorEq, false_or, not_or,
      History.release_mem_translate]
    exact ⟨Opening.release_not_mem observer connection speed, transferred⟩
  have quiet := (Opening.opened connection speed).history_quiet ServiceEvent observer
  have told : History.events (opening ++ progress ++ observer.note (.portClosed connection.name)) =
      .opened connection.name :: run.history.events.map .ofProgress := by
    simp [progress, opening, quiet.2, Entry.event?]
  refine ⟨_, _, course ▸ History.letsGo_close held History.gone_of_mem_map_event, ?_⟩
  rw [told]
  exact fun _ => ServiceEvent.passing_of_mem

/-- A service without a link does nothing of its own but report. -/
theorem serve_unopened {opening : Opening π} {discarded : Bool}
    (unopened : (∃ error, opening = .refused error discarded) ∨ opening = .crashed discarded) :
    let service := forwarder.serve observer source opening
    service.history = opening.history observer ++ service.history.events.map .event ∧
      service.history.calls = [] ∧ (.release ∈ service.history ↔ discarded = true) := by
  intro service
  have quiet := opening.history_quiet ServiceEvent observer
  obtain ⟨reported, course⟩ : ∃ reported : List ServiceEvent,
      service.history = opening.history observer ++ reported.map .event := by
    rcases unopened with ⟨error, rfl⟩ | rfl
    · exact ⟨[.error error.message, .closed], rfl⟩
    · exact ⟨[], rfl⟩
  have silent : .release ∉ (reported.map .event : History ServiceEvent) :=
    fun member => (History.gone_of_mem_map_event _ member).1 rfl
  rw [course]
  refine ⟨?_, ?_, ?_⟩
  · rw [History.events_append, quiet.2, List.nil_append, History.events_map_event]
  · rw [History.calls_append, quiet.1, List.nil_append, History.calls_map_event]
  · rw [List.mem_append, or_iff_left silent]
    exact Opening.release_mem_iff observer unopened

/-- A session lets its link go as the last thing it does. -/
theorem forward_letsGo (connection : Connection π) (speed : Option Nat) :
    ∃ before, (forwarder.forward observer source (.opened connection speed)).history.LetsGo
      observer connection.name before [] := by
  have held : .release ∉ (Opening.opened connection speed).history observer ++
      (forwarder.transfer observer source connection).history := by
    rw [List.mem_append, not_or]
    exact ⟨Opening.release_not_mem observer connection speed,
      (transfer_transfers forwarder observer source connection).release_not_mem⟩
  exact ⟨_, History.letsGo_close_last held⟩

end Serve

/-! ### Connections that are used and let go -/

section Connections

variable {π : Type} [Port π] (observer : Observer)

/-- A port as it was left by runs that began with it. -/
def portLeftBy (port : π) (runs : List (Run π)) : π :=
  (runs.getLast?.map Run.port).getD port

omit [Port π] in
theorem portLeftBy_cons (port : π) (run : Run π) (runs : List (Run π)) :
    portLeftBy port (run :: runs) = portLeftBy run.port runs := by
  unfold portLeftBy
  rw [List.getLast?_cons]
  cases runs.getLast? <;> rfl

/-- Carries out a transfer over a connection for each forwarder, and lets the connection go. -/
def Connection.transferAll (source : Source) (connection : Connection π)
    (forwarders : List Forwarder) : History Progress :=
  let runs := Forwarder.transferEach observer source connection forwarders
  runs.flatMap Run.history ++ close observer (portLeftBy connection runs).name

/-- A connection under another name is used like this one. -/
def Likeness.renaming (forwarder : Forwarder) (name : String) :
    Likeness (Connection π) (Connection π) forwarder observer observer :=
  .ofPort (fun connection => { connection with name }) (fun _ => rfl)
    (fun answer => by
      cases answer
      rfl)
    (fun answer => by
      cases answer
      rfl)

/-- A transfer leaves a connection its name. -/
theorem transfer_name (forwarder : Forwarder) (source : Source) (connection : Connection π) :
    (forwarder.transfer observer source connection).port.name = connection.name := by
  have renamed : (forwarder.transfer observer source connection).port =
      { (forwarder.transfer observer source connection).port with name := connection.name } :=
    ((Likeness.renaming observer forwarder connection.name).transfer_alike source connection).port
  rw [renamed]

/-- Transfers one after the other leave a connection its name, and do not let it go. -/
theorem transferEach_held (source : Source) (connection : Connection π)
    (forwarders : List Forwarder) :
    let runs := Forwarder.transferEach observer source connection forwarders
    (portLeftBy connection runs).name = connection.name ∧ .release ∉ runs.flatMap Run.history := by
  intro runs
  induction forwarders generalizing source connection with
  | nil => exact ⟨rfl, List.not_mem_nil⟩
  | cons forwarder rest inductionHypothesis =>
    let run := forwarder.transfer observer source connection
    have held : .release ∉ run.history :=
      (transfer_transfers forwarder observer source connection).release_not_mem
    obtain ⟨name, later⟩ := inductionHypothesis run.source run.port
    constructor
    · calc (portLeftBy connection runs).name
        _ = run.port.name := by rw [← name, ← portLeftBy_cons connection run]; rfl
        _ = connection.name := transfer_name observer forwarder source connection
    · exact fun member => (List.mem_append.1 member).elim held later

theorem transferAll_letsGo (source : Source) (connection : Connection π)
    (forwarders : List Forwarder) :
    ∃ before, (connection.transferAll observer source forwarders).LetsGo observer connection.name
      before [] := by
  obtain ⟨name, held⟩ := transferEach_held observer source connection forwarders
  unfold Connection.transferAll
  simp only [name]
  exact ⟨_, History.letsGo_close_last held⟩

/-- A write leaves a connection its name. -/
theorem Connection.name_of_write {connection next : Connection π} {offered : Bytes}
    {reply : Reply Nat} (answer : Port.write connection offered = (next, reply)) :
    next.name = connection.name :=
  congrArg (fun result => result.1.name) answer.symm

/-- A flush leaves a connection its name. -/
theorem Connection.name_of_flush {connection next : Connection π} {reply : Reply Unit}
    (answer : Port.flush connection = (next, reply)) : next.name = connection.name :=
  congrArg (fun result => result.1.name) answer.symm

/-- Writing all of some bytes leaves a connection its name, and does not let it go. -/
theorem Port.writeAll_held (Event : Type) (started : Nat) (connection : Connection π)
    (bytes : Bytes) :
    let writing : Writing (Connection π) Event := Port.writeAll started connection bytes
    writing.port.name = connection.name ∧ .release ∉ writing.history := by
  have written : ∀ offered reply elapsed,
      .release ∉ ([.write offered reply elapsed] : History Event) := by simp
  fun_induction @Port.writeAll (Connection π) Event _ started connection bytes with
  | case1 => exact ⟨rfl, List.not_mem_nil⟩
  | case2 connection bytes nonempty next answer =>
    exact ⟨Connection.name_of_write answer, written _ _ _⟩
  | case3 connection bytes nonempty next count answer inductionHypothesis =>
    obtain ⟨name, held⟩ := inductionHypothesis
    refine ⟨name.trans (Connection.name_of_write answer), fun member => ?_⟩
    exact (List.mem_append.1 member).elim (written _ _ _) held
  | case4 connection bytes nonempty next fault answer again inductionHypothesis =>
    obtain ⟨name, held⟩ := inductionHypothesis
    refine ⟨name.trans (Connection.name_of_write answer), fun member => ?_⟩
    exact (List.mem_append.1 member).elim (written _ _ _) held
  | case5 connection bytes nonempty next fault answer fatal =>
    exact ⟨Connection.name_of_write answer, written _ _ _⟩
  | case6 connection bytes nonempty next answer =>
    exact ⟨Connection.name_of_write answer, written _ _ _⟩

/-- A call that does not let a connection go leaves it its name. -/
theorem Connection.perform_held (Event : Type) (connection : Connection π) {call : Call}
    (other : call ≠ .drop) :
    let done : Connection π × CallRecord Event := connection.perform observer call
    done.1.name = connection.name ∧ .release ∉ done.2.history := by
  intro done
  cases call with
  | drop => exact absurd rfl other
  | name => exact ⟨rfl, List.not_mem_nil⟩
  | write bytes =>
    simp only [done, perform]
    split <;> rename_i answer <;> exact ⟨name_of_write answer, by simp⟩
  | writeAll bytes =>
    have writing := Port.writeAll_held Event (Port.clock connection) connection bytes
    simp only [done, perform]
    split <;> rename_i answer <;> simpa only [answer] using writing
  | flush =>
    simp only [done, perform]
    split <;> rename_i answer <;> exact ⟨name_of_flush answer, by simp⟩

/-- All that happens in calls on a connection, and in letting it go if no call has. -/
def Connection.useAll (Event : Type) (connection : Connection π) (calls : List Call) :
    History Event :=
  let (records, ending) := connection.performAll observer calls
  records.flatMap CallRecord.history ++ ending

/-- A call that does not let the connection go is made before those behind it. -/
theorem Connection.performAll_cons {Event : Type} (connection : Connection π) {call : Call}
    (other : call ≠ .drop) (rest : List Call) :
    let done : Connection π × CallRecord Event := connection.perform observer call
    connection.performAll observer (call :: rest) =
      (done.2 :: (done.1.performAll observer rest).1, (done.1.performAll observer rest).2) := by
  rw [performAll]
  exact other

/-- Calls on a connection, and what follows them, end with letting it go. -/
theorem Connection.useAll_eq_close (Event : Type) (connection : Connection π) (calls : List Call) :
    ∃ earlier, .release ∉ earlier ∧
      connection.useAll observer Event calls = earlier ++ close observer connection.name := by
  induction calls generalizing connection with
  | nil => exact ⟨[], List.not_mem_nil, rfl⟩
  | cons call rest inductionHypothesis =>
    by_cases drops : call = .drop
    · rw [drops]
      exact ⟨[], List.not_mem_nil, by simp [useAll, performAll, perform]⟩
    · let done : Connection π × CallRecord Event := connection.perform observer call
      obtain ⟨name, held⟩ := connection.perform_held observer Event drops
      obtain ⟨earlier, heldLater, later⟩ := inductionHypothesis done.1
      refine ⟨done.2.history ++ earlier, ?_, ?_⟩
      · exact fun member => (List.mem_append.1 member).elim held heldLater
      · unfold useAll at later ⊢
        rw [performAll_cons observer connection drops rest, List.append_assoc, ← name, ← later]
        exact List.append_assoc ..

theorem Connection.useAll_letsGo (Event : Type) (connection : Connection π) (calls : List Call) :
    ∃ before, (connection.useAll observer Event calls).LetsGo observer connection.name before [] := by
  obtain ⟨earlier, held, course⟩ := connection.useAll_eq_close observer Event calls
  rw [course]
  exact ⟨_, History.letsGo_close_last held⟩

/-- Calls behind the one that lets a connection go are not made. -/
theorem Connection.performAll_drop (Event : Type) (connection : Connection π)
    (calls later : List Call) :
    (connection.performAll observer (calls ++ .drop :: later) :
        List (CallRecord Event) × History Event) =
      connection.performAll observer (calls ++ [.drop]) := by
  induction calls generalizing connection with
  | nil => rfl
  | cons call rest inductionHypothesis =>
    by_cases drops : call = .drop
    · rw [drops]
      rfl
    · rw [List.cons_append, List.cons_append, performAll_cons observer connection drops,
        performAll_cons observer connection drops, inductionHypothesis]

end Connections

/-! ### All users of a link -/

/-- A link that was opened is let go exactly once, whatever its source and its port answer: by a
service, by a session, after any transfers over one connection, and after any calls on one. The
record that the port is closed comes right before, if it is written, and the port is not called
after that. A service lets the link go before it tells how it ended and that it has, and calls that
are asked for after a connection was let go are not made. Without a link a service calls nothing and
lets nothing go; what is let go then is a port that whoever was asked for the link had kept. -/
theorem link_released_once {π : Type} [Port π] (forwarder : Forwarder) (observer : Observer)
    (source : Source) (connection : Connection π) :
    (∀ speed,
      (∃ before after, (forwarder.serve observer source (.opened connection speed)).history.LetsGo
          observer connection.name before after ∧
        ∀ event ∈ History.events before, event.isOutcome = false ∧ event ≠ .closed) ∧
      ∃ before, (forwarder.forward observer source (.opened connection speed)).history.LetsGo
        observer connection.name before []) ∧
    (∀ forwarders, ∃ before, (connection.transferAll observer source forwarders).LetsGo observer
      connection.name before []) ∧
    (∀ calls, ∃ before, (connection.useAll observer Progress calls).LetsGo observer
      connection.name before []) ∧
    (∀ calls later, (connection.performAll observer (calls ++ .drop :: later) :
        List (CallRecord Progress) × History Progress) =
      connection.performAll observer (calls ++ [.drop])) ∧
    ∀ (opening : Opening π) (discarded : Bool),
      (∃ error, opening = .refused error discarded) ∨ opening = .crashed discarded →
        let service := forwarder.serve observer source opening
        service.history = opening.history observer ++ service.history.events.map .event ∧
          service.history.calls = [] ∧ (.release ∈ service.history ↔ discarded = true) := by
  refine ⟨fun speed => ⟨?_, ?_⟩, ?_, ?_, ?_, fun opening discarded => ?_⟩
  · exact serve_letsGo forwarder observer source connection speed
  · exact forward_letsGo forwarder observer source connection speed
  · exact transferAll_letsGo observer source connection
  · exact connection.useAll_letsGo observer Progress
  · exact connection.performAll_drop observer Progress
  · exact serve_unopened forwarder observer source

/-- A service whose link is refused by someone who holds a port nevertheless sees a port let go. -/
theorem serve_discarding :
    let forwarder : Forwarder := { blockSize := ⟨4, by decide⟩ }
    let refusal : Opening Link := .refused (.openFailed "ttyNONE" ⟨.noDevice, "no such device"⟩) true
    let service := forwarder.serve {} { pending := [97, 98, 99] } refusal
    .release ∈ service.history := by
  decide

end SerialFeed
