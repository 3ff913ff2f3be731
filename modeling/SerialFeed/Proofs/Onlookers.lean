/-
This file shows that looking on does not change transfers that are carried out one after the other.
Whoever is told of them, the devices are called alike, answer alike and are left alike. What an
observer sees is what a louder observer sees, without the records and the events that are not for
him, and everything else is at its place. A port that is held under a name is used as it would be
without one, until it is let go at the end.
-/

import SerialFeed.Proofs.Integrity
import SerialFeed.Proofs.Release

namespace SerialFeed

/-! ### Who is told of an entry -/

section Told

variable {Event : Type}

/-- Whether an observer is told of an entry. Calls, pauses and the like are there for everyone. -/
def Entry.isToldTo (observer : Observer) : Entry Event → Bool
  | note record => observer.verbosity.shows record.severity
  | event _ => observer.events
  | _ => true

/-- Whether an observer is told of all that happened. -/
def History.Told (observer : Observer) (history : History Event) : Prop :=
  ∀ entry ∈ history, entry.isToldTo observer = true

variable {observer : Observer} {first second : History Event}

namespace History

theorem Told.append (told : first.Told observer) (other : second.Told observer) :
    Told observer (first ++ second) :=
  List.forall_mem_append.2 ⟨told, other⟩

theorem Told.cons (told : second.Told observer) {entry : Entry Event}
    (one : entry.isToldTo observer = true) : Told observer (entry :: second) :=
  List.forall_mem_cons.2 ⟨one, told⟩

theorem told_singleton {entry : Entry Event} (one : entry.isToldTo observer = true) :
    Told observer [entry] :=
  List.forall_mem_singleton.2 one

theorem told_note (record : Note) : Told observer (observer.note record : History Event) := by
  unfold Observer.note
  split
  · rename_i shown
    exact told_singleton shown
  · exact fun _ member => nomatch member

theorem told_event (reported : Event) : Told observer (observer.event reported) := by
  unfold Observer.event
  split
  · rename_i listening
    exact told_singleton listening
  · exact fun _ member => nomatch member

end History

end Told

/-! ### An observer is told of all of a transfer that he sees -/

section Course

variable {forwarder : Forwarder} {observer : Observer} {history : History Progress}

theorem Fills.told {room : Nat} {block : Bytes} {outcome : Reply Unit}
    (fills : Fills room block outcome history) : history.Told observer := by
  intro entry member
  obtain ⟨wanted, reply, _, _, rfl⟩ := fills.eq_read_of_mem member
  rfl

theorem Sends.told {block : Bytes} {outcome : Reply Unit}
    (sends : Sends forwarder observer block outcome history) : history.Told observer := by
  induction sends with
  | done => exact fun _ member => nomatch member
  | refused nonempty => exact History.told_singleton rfl
  | piece positive fits rest inductionHypothesis => exact inductionHypothesis.cons rfl
  | interrupted nonempty again rest inductionHypothesis => exact inductionHypothesis.cons rfl
  | waiting nonempty late mayWait rest inductionHypothesis =>
    exact ((History.told_note _).append inductionHypothesis).cons rfl
  | failed nonempty fatal overdue => exact History.told_singleton rfl
  | crashed nonempty => exact History.told_singleton rfl

theorem Copies.told {report : Report} {ending : Ending}
    (copies : Copies forwarder observer report ending history) : history.Told observer := by
  induction copies with
  | ended fills => exact fills.told
  | readFailed fills => exact fills.told
  | readCrashed fills => exact fills.told
  | writeFailed fills nonempty sends => exact fills.told.append sends.told
  | writeCrashed fills nonempty sends => exact fills.told.append sends.told
  | block fills nonempty sends rest inductionHypothesis =>
    refine ((fills.told.append sends.told).append ?_).append inductionHypothesis
    exact (History.told_note _).append (History.told_event _)

theorem Settles.told {report : Report} {ending : Ending}
    (settles : Settles forwarder observer report ending history) : history.Told observer := by
  have start : History.Told observer (observer.note (.inputExhausted report) : History Progress) :=
    History.told_note _
  cases settles with
  | stopped reply stops => exact start.append (History.told_singleton rfl)
  | settled reply =>
    have settling : History.Told observer (.flush (.gave ()) ::
        (observer.event Progress.settling ++ [.pause forwarder.settle])) :=
      ((History.told_event _).append (History.told_singleton rfl)).cons rfl
    exact (start.append settling).append (History.told_singleton rfl)

theorem Transfers.told {ending : Ending}
    (transfers : Transfers forwarder observer ending history) : history.Told observer := by
  cases transfers with
  | refused short => exact fun _ member => nomatch member
  | stopped enough copies stops => exact copies.told
  | settled enough copies settles => exact copies.told.append settles.told

end Course

/-! ### Observers who are told less than others -/

/-- Whether all that one observer is told of, another one is told of too. -/
structure Observer.Within (observer louder : Observer) : Prop where
  notes : ∀ severity, observer.verbosity.shows severity = true →
    louder.verbosity.shows severity = true
  events : observer.events = true → louder.events = true

namespace Observer.Within

variable {Event : Type} {observer louder : Observer}

theorem note (within : observer.Within louder) (record : Note) :
    (louder.note record : History Event).filter (Entry.isToldTo observer) =
      observer.note record := by
  unfold Observer.note
  by_cases shown : observer.verbosity.shows record.severity = true
  · rw [if_pos shown, if_pos (within.notes _ shown)]
    exact List.filter_cons_of_pos shown
  · rw [if_neg shown]
    split
    · exact List.filter_cons_of_neg shown
    · rfl

theorem event (within : observer.Within louder) (reported : Event) :
    (louder.event reported).filter (Entry.isToldTo observer) = observer.event reported := by
  unfold Observer.event
  by_cases listening : observer.events = true
  · rw [if_pos listening, if_pos (within.events listening)]
    exact List.filter_cons_of_pos listening
  · rw [if_neg listening]
    split
    · exact List.filter_cons_of_neg listening
    · rfl

theorem refl : observer.Within observer :=
  ⟨fun _ => id, id⟩

/-- Nobody is told of more records than one who is told of all. -/
theorem trace : observer.Within { observer with verbosity := some .trace } := by
  refine ⟨fun severity _ => ?_, id⟩
  cases severity <;> rfl

theorem listening : observer.Within { observer with events := true } :=
  ⟨fun _ => id, fun _ => rfl⟩

end Observer.Within

section Transfers

variable {π : Type} [Port π]

/-- Someone who heeds only what one observer is told of takes him for one who is told of more. -/
def Likeness.ofWithin (forwarder : Forwarder) {observer louder : Observer}
    (within : observer.Within louder) : Likeness π π forwarder louder observer :=
  .ofSees (Entry.isToldTo observer)
    (fun record => (within.note record).trans (Observer.Within.refl.note record).symm)
    (fun reported => (within.event reported).trans (Observer.Within.refl.event reported).symm)

end Transfers

/-! ### Transfers one after the other -/

section Runs

variable {π : Type}

/-- A run as it looks to someone who sees only some entries. -/
def Run.seenThrough (sees : Entry Progress → Bool) (run : Run π) : Run π :=
  { run with history := run.history.filter sees }

/-- A run over a connection as one over the port that is held. -/
def Run.bare (run : Run (Connection π)) : Run π :=
  ⟨run.source, run.port.port, run.ending, run.history⟩

/-- Whoever sees all deeds sees what was accepted. -/
theorem History.accepted_filter_isDeed (history : History Progress) :
    History.accepted (history.filter Entry.isDeed) = history.accepted := by
  induction history with
  | nil => rfl
  | cons entry rest inductionHypothesis =>
    cases entry with
    | note record => exact inductionHypothesis
    | event reported => exact inductionHypothesis
    | _ => exact congrArg (_ ++ ·) inductionHypothesis

theorem writtenBy_seenThrough (runs : List (Run π)) :
    writtenBy (runs.map (Run.seenThrough Entry.isDeed)) = writtenBy runs := by
  unfold writtenBy
  rw [List.flatMap_map]
  congr 1
  funext run
  exact History.accepted_filter_isDeed run.history

theorem leftBy_seenThrough (source : Source) (sees : Entry Progress → Bool)
    (runs : List (Run π)) :
    leftBy source (runs.map (Run.seenThrough sees)) = leftBy source runs := by
  unfold leftBy
  rw [List.getLast?_map, Option.map_map]
  rfl

variable [Port π]

/-- Transfers that look alike one by one look alike when they are carried out one after the other,
if each leaves its devices as its counterpart does. -/
theorem transferEach_alike {ρ Look : Type} [Port ρ] {observer watcher : Observer}
    (stands : π → ρ) {first : Run π → Look} {second : Run ρ → Look}
    (alike : ∀ (forwarder : Forwarder) (source : Source) (port : π),
      let run := forwarder.transfer observer source port
      let other := forwarder.transfer watcher source (stands port)
      other.source = run.source ∧ other.port = stands run.port ∧ first run = second other)
    (source : Source) (port : π) (forwarders : List Forwarder) :
    (Forwarder.transferEach observer source port forwarders).map first =
      (Forwarder.transferEach watcher source (stands port) forwarders).map second := by
  induction forwarders generalizing source port with
  | nil => rfl
  | cons forwarder rest inductionHypothesis =>
    obtain ⟨left, standing, same⟩ := alike forwarder source port
    have later := inductionHypothesis (forwarder.transfer observer source port).source
      (forwarder.transfer observer source port).port
    simp only [Forwarder.transferEach, List.map_cons, same, later, left, standing]

/-- Runs on the same devices that are alike look the same. -/
theorem Likeness.Runs.seenThrough {forwarder : Forwarder} {observer watcher : Observer}
    {likeness : Likeness π π forwarder observer watcher} {run other : Run π}
    (alike : likeness.Runs run other) (sameSource : likeness.source = id)
    (samePort : likeness.port = id) :
    other.source = run.source ∧ other.port = run.port ∧
      run.seenThrough likeness.sees = other.seenThrough likeness.sees := by
  obtain ⟨source, port, ending, history⟩ := alike
  rw [sameSource] at source
  rw [samePort] at port
  refine ⟨source, port, ?_⟩
  unfold Run.seenThrough
  rw [source, port, ending, show _ = _ from history]
  rfl

variable (observer : Observer) (source : Source) (port : π) (forwarders : List Forwarder)

/-- Whoever is told of transfers, the deeds are the same. -/
theorem transferEach_observer (watcher : Observer) :
    (Forwarder.transferEach observer source port forwarders).map
        (Run.seenThrough Entry.isDeed) =
      (Forwarder.transferEach watcher source port forwarders).map
        (Run.seenThrough Entry.isDeed) := by
  refine transferEach_alike id (fun forwarder source port => ?_) source port forwarders
  have alike := (Likeness.ofObservers forwarder observer watcher).transfer_alike source port
  exact alike.seenThrough rfl rfl

/-- What an observer sees of transfers is what is for him of all that a louder one sees. -/
theorem transferEach_within {louder : Observer} (within : observer.Within louder) :
    Forwarder.transferEach observer source port forwarders =
      (Forwarder.transferEach louder source port forwarders).map
        (Run.seenThrough (Entry.isToldTo observer)) := by
  refine (List.map_id _).symm.trans (Eq.symm ?_)
  refine transferEach_alike id (fun forwarder source port => ?_) source port forwarders
  intro run other
  obtain ⟨left, standing, same⟩ :=
    ((Likeness.ofWithin forwarder within).transfer_alike source port).seenThrough rfl rfl
  have told : other.history.Told observer :=
    (transfer_transfers forwarder observer source port).told
  refine ⟨left, standing, same.trans ?_⟩
  calc other.seenThrough (Entry.isToldTo observer)
    _ = { other with history := other.history } := by
      rw [Run.seenThrough, List.filter_eq_self.2 told]
    _ = other := rfl

/-- Transfers over a connection are transfers over the port that it holds. -/
theorem transferEach_connection (connection : Connection π) :
    (Forwarder.transferEach observer source connection forwarders).map Run.bare =
      Forwarder.transferEach observer source connection.port forwarders := by
  refine Eq.trans ?_ (List.map_id _)
  refine transferEach_alike Connection.port (fun forwarder source connection => ?_)
    source connection forwarders
  intro held bare
  obtain ⟨left, port, ending, history⟩ :=
    transfer_connection forwarder observer source connection
  refine ⟨left, port, ?_⟩
  calc held.bare
    _ = ⟨bare.source, bare.port, bare.ending, bare.history⟩ := by
      rw [Run.bare, ← left, ← port, ← ending, ← history]
    _ = bare := rfl

end Runs

/-! ### Looking on -/

/-- Looking on does not change transfers. Whoever is told of transfers that are carried out one
after the other, the runs do the same, end alike and leave their devices alike, and so the same
bytes are written and left to read. What an observer is told is what he would be told of if every
record were written, less the records that are not severe enough for him, and what he would be told
of with events, less these; all of it is at its place between the calls. Over a connection the runs
are those over its port, records and events included, and letting it go comes behind all of them. -/
theorem transferEach_onlookers {π : Type} [Port π] (observer : Observer) (source : Source)
    (connection : Connection π) (forwarders : List Forwarder) :
    let runs := Forwarder.transferEach observer source connection.port forwarders
    (∀ watcher : Observer,
      let others := Forwarder.transferEach watcher source connection.port forwarders
      others.map (Run.seenThrough Entry.isDeed) = runs.map (Run.seenThrough Entry.isDeed) ∧
        writtenBy others = writtenBy runs ∧ leftBy source others = leftBy source runs) ∧
    runs = (Forwarder.transferEach { observer with verbosity := some .trace } source
      connection.port forwarders).map (Run.seenThrough (Entry.isToldTo observer)) ∧
    runs = (Forwarder.transferEach { observer with events := true } source
      connection.port forwarders).map (Run.seenThrough (Entry.isToldTo observer)) ∧
    (Forwarder.transferEach observer source connection forwarders).map Run.bare = runs ∧
    connection.transferAll observer source forwarders =
      runs.flatMap Run.history ++ Connection.close observer connection.name := by
  intro runs
  have bare : (Forwarder.transferEach observer source connection forwarders).map Run.bare = runs :=
    transferEach_connection observer source forwarders connection
  refine ⟨fun watcher => ?_, ?_, ?_, bare, ?_⟩
  · intro others
    have deeds : others.map (Run.seenThrough Entry.isDeed) =
        runs.map (Run.seenThrough Entry.isDeed) :=
      transferEach_observer watcher source connection.port forwarders observer
    refine ⟨deeds, ?_, ?_⟩
    · rw [← writtenBy_seenThrough others, deeds, writtenBy_seenThrough]
    · rw [← leftBy_seenThrough source Entry.isDeed others, deeds, leftBy_seenThrough]
  · exact transferEach_within observer source connection.port forwarders .trace
  · exact transferEach_within observer source connection.port forwarders .listening
  · have name := (transferEach_held observer source connection forwarders).1
    unfold Connection.transferAll
    dsimp only
    rw [name, ← bare, List.flatMap_map]
    rfl

end SerialFeed
