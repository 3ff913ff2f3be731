/-
This file shows that a transfer ends at the first call that fails for good, and nowhere else. Some
failures are passed over: an interrupted call, and a write that the port could not take in time
while its block may still wait. Every other failure, a write that takes nothing and a crash are
fatal; the ending of a transfer is the one that belongs to its fatal call, that call is the last
thing that happens, and a transfer without one has sent everything.
-/

import SerialFeed.Proofs.Course
import SerialFeed.Proofs.Stepwise

namespace SerialFeed

/-! ### Fatal calls -/

/-- How a transfer ends at a call, if it ends there. -/
def Entry.fatal? {Event : Type} (forwarder : Forwarder) : Entry Event → Option Ending
  | .read _ (.failed fault) =>
    if fault.kind = .interrupted then none else some (.failed (.readFailed fault))
  | .read _ .crashed => some .crashed
  | .write _ (.gave 0) _ => some (.failed (.writeFailed refusedBlock))
  | .write _ (.failed fault) elapsed =>
    if fault.kind = .interrupted ∨ fault.kind = .timedOut ∧ forwarder.mayWait elapsed then none
    else some (.failed (.writeFailed fault))
  | .write _ .crashed _ => some .crashed
  | .flush (.failed fault) => some (.failed (.flushFailed fault))
  | .flush .crashed => some .crashed
  | _ => none

/-- Whether a history holds no fatal call. -/
def History.Calm {Event : Type} (forwarder : Forwarder) (history : History Event) : Prop :=
  ∀ entry ∈ history, entry.fatal? forwarder = none

/-- Whether a history holds no fatal call but at its very end, and there the one that brings about a
given ending, if any. -/
def History.Ends {Event : Type} (forwarder : Forwarder) (history : History Event) :
    Option Ending → Prop
  | none => history.Calm forwarder
  | some ending => ∃ before call, history = before ++ [call] ∧ History.Calm forwarder before ∧
      call.fatal? forwarder = some ending

namespace History

variable {Event : Type} {forwarder : Forwarder} {first second : History Event}
  {stop : Option Ending}

theorem Calm.append (calmFirst : first.Calm forwarder) (calmSecond : second.Calm forwarder) :
    Calm forwarder (first ++ second) := by
  intro entry member
  rcases List.mem_append.1 member with inFirst | inSecond
  · exact calmFirst entry inFirst
  · exact calmSecond entry inSecond

theorem Ends.append (ends : second.Ends forwarder stop) (calm : first.Calm forwarder) :
    Ends forwarder (first ++ second) stop := by
  cases stop with
  | none => exact calm.append ends
  | some ending =>
    obtain ⟨before, call, rfl, calmBefore, fatal⟩ := ends
    exact ⟨first ++ before, call, (List.append_assoc ..).symm, calm.append calmBefore, fatal⟩

theorem calm_singleton {entry : Entry Event} (passed : entry.fatal? forwarder = none) :
    Calm forwarder [entry] := by
  intro other member
  rw [List.mem_singleton.1 member]
  exact passed

theorem Ends.cons (ends : second.Ends forwarder stop) {entry : Entry Event}
    (passed : entry.fatal? forwarder = none) : Ends forwarder (entry :: second) stop :=
  ends.append (calm_singleton passed)

theorem ends_singleton {entry : Entry Event} (fatal : entry.fatal? forwarder = stop) :
    Ends forwarder [entry] stop := by
  cases stop with
  | none => exact calm_singleton fatal
  | some ending => exact ⟨[], entry, rfl, nofun, fatal⟩

theorem calm_note (observer : Observer) (record : Note) :
    Calm forwarder (observer.note record : History Event) :=
  fun _ member => Observer.eq_of_mem_note member ▸ rfl

theorem calm_event (observer : Observer) (reported : Event) :
    Calm forwarder (observer.event reported) :=
  fun _ member => Observer.eq_of_mem_event member ▸ rfl

/-- A history that ends so holds a fatal call exactly for this ending. -/
theorem Ends.iff (ends : second.Ends forwarder stop) (ending : Ending) :
    stop = some ending ↔ ∃ entry ∈ second, entry.fatal? forwarder = some ending := by
  cases stop with
  | none =>
    refine iff_of_false nofun ?_
    rintro ⟨entry, member, fatal⟩
    rw [ends entry member] at fatal
    cases fatal
  | some reached =>
    obtain ⟨before, call, rfl, calm, fatalCall⟩ := ends
    constructor
    · intro same
      rw [← same]
      exact ⟨call, List.mem_append_right _ (List.mem_singleton_self call), fatalCall⟩
    · rintro ⟨entry, member, fatal⟩
      rcases List.mem_append.1 member with inBefore | atEnd
      · rw [calm entry inBefore] at fatal
        cases fatal
      · rw [List.mem_singleton.1 atEnd, fatalCall] at fatal
        exact fatal

/-- A history that ends so is calm exactly when it ends without a stop. -/
theorem Ends.calm_iff (ends : second.Ends forwarder stop) :
    second.Calm forwarder ↔ stop = none := by
  cases stop with
  | none => exact iff_of_true ends rfl
  | some ending =>
    obtain ⟨entry, member, fatal⟩ := (ends.iff ending).1 rfl
    refine iff_of_false (fun calm => ?_) nofun
    rw [calm entry member] at fatal
    cases fatal

end History

/-! ### The parts of a transfer -/

/-- The ending that the answer of a reader or a writer brings about. -/
def Reply.stop? (error : Fault → ForwardError) : Reply Unit → Option Ending
  | .gave () => none
  | .failed fault => some (.failed (error fault))
  | .crashed => some .crashed

/-- An ending as something that brings a transfer to a stop, unless everything was sent. -/
def Ending.stop? : Ending → Option Ending
  | .sent _ => none
  | .failed error => some (.failed error)
  | .crashed => some .crashed

variable {forwarder : Forwarder} {observer : Observer} {history : History Progress}

theorem Fills.ends {room : Nat} {block : Bytes} {outcome : Reply Unit}
    (fills : Fills room block outcome history) :
    history.Ends forwarder (outcome.stop? .readFailed) := by
  induction fills with
  | full => exact fun _ member => nomatch member
  | ended positive => exact History.ends_singleton rfl
  | piece nonempty fits rest inductionHypothesis => exact inductionHypothesis.cons rfl
  | interrupted positive again rest inductionHypothesis =>
    exact inductionHypothesis.cons (if_pos again)
  | failed positive fatal => exact History.ends_singleton (if_neg fatal)
  | crashed positive => exact History.ends_singleton rfl

theorem Sends.ends {block : Bytes} {outcome : Reply Unit}
    (sends : Sends forwarder observer block outcome history) :
    history.Ends forwarder (outcome.stop? .writeFailed) := by
  induction sends with
  | done => exact fun _ member => nomatch member
  | refused nonempty => exact History.ends_singleton rfl
  | @piece block count elapsed outcome history positive fits rest inductionHypothesis =>
    obtain ⟨more, rfl⟩ := Nat.exists_eq_succ_of_ne_zero (Nat.ne_of_gt positive)
    exact inductionHypothesis.cons rfl
  | interrupted nonempty again rest inductionHypothesis =>
    exact inductionHypothesis.cons (if_pos (Or.inl again))
  | waiting nonempty late mayWait rest inductionHypothesis =>
    refine History.Ends.cons ?_ (if_pos (Or.inr ⟨late, mayWait⟩))
    exact inductionHypothesis.append (History.calm_note observer _)
  | failed nonempty fatal overdue =>
    refine History.ends_singleton (if_neg ?_)
    rintro (again | ⟨late, mayWait⟩)
    · exact fatal again
    · rw [overdue late] at mayWait
      cases mayWait
  | crashed nonempty => exact History.ends_singleton rfl

theorem Copies.ends {report : Report} {ending : Ending}
    (copies : Copies forwarder observer report ending history) :
    history.Ends forwarder ending.stop? := by
  induction copies with
  | ended fills => exact fills.ends
  | readFailed fills => exact fills.ends
  | readCrashed fills => exact fills.ends
  | writeFailed fills nonempty sends => exact sends.ends.append fills.ends
  | writeCrashed fills nonempty sends => exact sends.ends.append fills.ends
  | block fills nonempty sends rest inductionHypothesis =>
    refine inductionHypothesis.append (History.Calm.append ?_ ?_)
    · exact History.Calm.append fills.ends sends.ends
    · exact (History.calm_note observer _).append (History.calm_event observer _)

theorem Settles.ends {report : Report} {ending : Ending}
    (settles : Settles forwarder observer report ending history) :
    history.Ends forwarder ending.stop? := by
  have lastFlush : ∀ reply, History.Ends forwarder ([.flush reply] : History Progress)
      (Ending.ofFlush report reply).stop? := by
    intro reply
    cases reply with
    | gave => exact History.ends_singleton rfl
    | failed fault => exact History.ends_singleton rfl
    | crashed => exact History.ends_singleton rfl
  cases settles with
  | stopped reply stops => exact (lastFlush reply).append (History.calm_note observer _)
  | settled reply =>
    refine (lastFlush reply).append ((History.calm_note observer _).append ?_)
    refine (History.calm_singleton rfl).append ?_
    exact (History.calm_event observer _).append (History.calm_singleton rfl)

theorem Transfers.ends {ending : Ending} (transfers : Transfers forwarder observer ending history)
    (enough : Shortage.ofSize? forwarder.blockSize.bytes = none) :
    history.Ends forwarder ending.stop? := by
  cases transfers with
  | refused short =>
    rw [enough] at short
    cases short
  | stopped _ copies stops => exact copies.ends
  | settled _ copies settles => exact settles.ends.append copies.ends

/-- Without a buffer a transfer ends before anything happens. -/
theorem Transfers.of_short {ending : Ending}
    (transfers : Transfers forwarder observer ending history) {shortage : Shortage}
    (short : Shortage.ofSize? forwarder.blockSize.bytes = some shortage) :
    ending = .failed (.bufferFailed forwarder.blockSize.bytes shortage) ∧ history = [] := by
  cases transfers with
  | refused known =>
    cases known.symm.trans short
    exact ⟨rfl, rfl⟩
  | stopped enough copies stops => cases enough.symm.trans short
  | settled enough copies settles => cases enough.symm.trans short

/-! ### The calls that are fatal -/

namespace Entry

variable {Event : Type} {entry : Entry Event} {fault : Fault}

theorem fatal?_eq_readFailed :
    entry.fatal? forwarder = some (.failed (.readFailed fault)) ↔
      fault.kind ≠ .interrupted ∧ ∃ room, entry = .read room (.failed fault) := by
  unfold fatal?
  split <;> simp_all

theorem fatal?_eq_writeFailed :
    entry.fatal? forwarder = some (.failed (.writeFailed fault)) ↔
      fault = refusedBlock ∧ (∃ offered elapsed, entry = .write offered (.gave 0) elapsed) ∨
        fault.kind ≠ .interrupted ∧ ∃ offered elapsed,
          entry = .write offered (.failed fault) elapsed ∧
            (fault.kind = .timedOut → forwarder.mayWait elapsed = false) := by
  constructor
  · intro fatal
    unfold fatal? at fatal
    split at fatal
    · split at fatal <;> cases fatal
    · cases fatal
    · cases fatal
      exact Or.inl ⟨rfl, _, _, rfl⟩
    · split at fatal
      · cases fatal
      · rename_i final
        cases fatal
        refine Or.inr ⟨fun again => final (Or.inl again), _, _, rfl, fun late => ?_⟩
        exact Bool.eq_false_iff.2 fun mayWait => final (Or.inr ⟨late, mayWait⟩)
    · cases fatal
    · cases fatal
    · cases fatal
    · cases fatal
  · rintro (⟨rfl, offered, elapsed, rfl⟩ | ⟨fatal, offered, elapsed, rfl, overdue⟩)
    · rfl
    · refine if_neg ?_
      rintro (again | ⟨late, mayWait⟩)
      · exact fatal again
      · rw [overdue late] at mayWait
        cases mayWait

theorem fatal?_eq_flushFailed :
    entry.fatal? forwarder = some (.failed (.flushFailed fault)) ↔
      entry = .flush (.failed fault) := by
  unfold fatal?
  split <;> simp_all

theorem fatal?_eq_crashed :
    entry.fatal? forwarder = some .crashed ↔
      (∃ room, entry = .read room .crashed) ∨
        (∃ offered elapsed, entry = .write offered .crashed elapsed) ∨ entry = .flush .crashed := by
  unfold fatal?
  split <;> simp_all

end Entry

namespace History.Ends

variable {stop : Option Ending} {fault : Fault}

theorem readFailed_iff (ends : history.Ends forwarder stop) :
    stop = some (.failed (.readFailed fault)) ↔
      fault.kind ≠ .interrupted ∧ ∃ room, .read room (.failed fault) ∈ history := by
  rw [ends.iff]
  simp only [Entry.fatal?_eq_readFailed]
  constructor
  · rintro ⟨_, member, fatal, room, rfl⟩
    exact ⟨fatal, room, member⟩
  · rintro ⟨fatal, room, member⟩
    exact ⟨_, member, fatal, room, rfl⟩

theorem writeFailed_iff (ends : history.Ends forwarder stop) :
    stop = some (.failed (.writeFailed fault)) ↔
      fault = refusedBlock ∧ (∃ offered elapsed, .write offered (.gave 0) elapsed ∈ history) ∨
        fault.kind ≠ .interrupted ∧ ∃ offered elapsed,
          .write offered (.failed fault) elapsed ∈ history ∧
            (fault.kind = .timedOut → forwarder.mayWait elapsed = false) := by
  rw [ends.iff]
  simp only [Entry.fatal?_eq_writeFailed]
  constructor
  · rintro ⟨_, member, ⟨refused, offered, elapsed, rfl⟩ | ⟨fatal, offered, elapsed, rfl, overdue⟩⟩
    · exact Or.inl ⟨refused, offered, elapsed, member⟩
    · exact Or.inr ⟨fatal, offered, elapsed, member, overdue⟩
  · rintro (⟨refused, offered, elapsed, member⟩ | ⟨fatal, offered, elapsed, member, overdue⟩)
    · exact ⟨_, member, Or.inl ⟨refused, offered, elapsed, rfl⟩⟩
    · exact ⟨_, member, Or.inr ⟨fatal, offered, elapsed, rfl, overdue⟩⟩

theorem flushFailed_iff (ends : history.Ends forwarder stop) :
    stop = some (.failed (.flushFailed fault)) ↔ .flush (.failed fault) ∈ history := by
  rw [ends.iff]
  simp only [Entry.fatal?_eq_flushFailed]
  constructor
  · rintro ⟨_, member, rfl⟩
    exact member
  · exact fun member => ⟨_, member, rfl⟩

theorem crashed_iff (ends : history.Ends forwarder stop) :
    stop = some .crashed ↔
      (∃ room, .read room .crashed ∈ history) ∨
        (∃ offered elapsed, .write offered .crashed elapsed ∈ history) ∨
          .flush .crashed ∈ history := by
  rw [ends.iff]
  simp only [Entry.fatal?_eq_crashed]
  constructor
  · rintro ⟨_, member, ⟨room, rfl⟩ | ⟨offered, elapsed, rfl⟩ | rfl⟩
    · exact Or.inl ⟨room, member⟩
    · exact Or.inr (Or.inl ⟨offered, elapsed, member⟩)
    · exact Or.inr (Or.inr member)
  · rintro (⟨room, member⟩ | ⟨offered, elapsed, member⟩ | member)
    · exact ⟨_, member, Or.inl ⟨room, rfl⟩⟩
    · exact ⟨_, member, Or.inr (Or.inl ⟨offered, elapsed, rfl⟩)⟩
    · exact ⟨_, member, Or.inr (Or.inr rfl)⟩

end History.Ends

/-! ### The ending of a transfer -/

/-- Whether an entry is no offer of nothing. -/
def Entry.Earnest {Event : Type} : Entry Event → Prop
  | .write offered _ _ => offered ≠ []
  | _ => True

/-- A port is never offered nothing. -/
theorem Transfers.offered_ne_nil {ending : Ending}
    (transfers : Transfers forwarder observer ending history) {offered : Bytes} {reply : Reply Nat}
    {elapsed : Nat} (member : .write offered reply elapsed ∈ history) : offered ≠ [] := by
  have everywhere : Everywhere forwarder Entry.Earnest :=
    { read := fun _ _ => trivial
      write := fun nonempty _ => nonempty
      note := fun _ => trivial
      event := fun _ => trivial
      flush := fun _ => trivial
      pause := fun _ => trivial }
  exact everywhere.of_transfers transfers _ member

namespace Ending

variable {ending : Ending}

theorem stop?_eq_failed {error : ForwardError} :
    ending.stop? = some (.failed error) ↔ ending = .failed error := by
  cases ending <;> simp [stop?]

theorem stop?_eq_crashed : ending.stop? = some .crashed ↔ ending = .crashed := by
  cases ending <;> simp [stop?]

theorem eq_of_stop? {other : Ending} (stops : ending.stop? = some other) : ending = other := by
  cases ending <;> simp_all [stop?]

theorem stop?_eq_none : ending.stop? = none ↔ ∃ report, ending = .sent report := by
  cases ending <;> simp [stop?]

end Ending

/-- A transfer of whose block there can be no buffer touches neither device. -/
theorem transfer_short {π : Type} [Port π] {forwarder : Forwarder} {shortage : Shortage}
    (short : Shortage.ofSize? forwarder.blockSize.bytes = some shortage) (observer : Observer)
    (source : Source) (port : π) :
    forwarder.transfer observer source port =
      ⟨source, port, .failed (.bufferFailed forwarder.blockSize.bytes shortage), []⟩ := by
  unfold Forwarder.transfer
  simp only [short]

/-- A write that takes nothing, as part of a transfer, is one that was offered something. -/
theorem Transfers.refused_iff {ending : Ending}
    (transfers : Transfers forwarder observer ending history) :
    (∃ offered elapsed, .write offered (.gave 0) elapsed ∈ history) ↔
      ∃ offered elapsed, offered ≠ [] ∧ .write offered (.gave 0) elapsed ∈ history := by
  constructor
  · rintro ⟨offered, elapsed, member⟩
    exact ⟨offered, elapsed, transfers.offered_ne_nil member, member⟩
  · rintro ⟨offered, elapsed, nonempty, member⟩
    exact ⟨offered, elapsed, member⟩

/-- No call brings about the ending that belongs to a missing buffer. -/
theorem Entry.fatal?_ne_bufferFailed {Event : Type} (entry : Entry Event) (size : Nat)
    (shortage : Shortage) :
    entry.fatal? forwarder ≠ some (.failed (.bufferFailed size shortage)) := by
  unfold fatal?
  split <;> simp

/-- A transfer fails for want of a buffer exactly if there is none for its blocks, and that is the
buffer of which it tells. -/
theorem Transfers.bufferFailed_iff {ending : Ending} {history : History Progress}
    (transfers : Transfers forwarder observer ending history) {wanted : Nat} {shortage : Shortage} :
    ending = .failed (.bufferFailed wanted shortage) ↔
      wanted = forwarder.blockSize.bytes ∧
        Shortage.ofSize? forwarder.blockSize.bytes = some shortage := by
  cases capacity : Shortage.ofSize? forwarder.blockSize.bytes with
  | some reason =>
    rw [(transfers.of_short capacity).1]
    simp only [Ending.failed.injEq, ForwardError.bufferFailed.injEq, Option.some.injEq, eq_comm]
  | none =>
    refine iff_of_false (fun failed => ?_) (fun impossible => nomatch impossible.2)
    have stops := Ending.stop?_eq_failed.2 failed
    obtain ⟨entry, _, fatal⟩ := ((transfers.ends capacity).iff _).1 stops
    exact entry.fatal?_ne_bufferFailed wanted shortage fatal

/-- The first call that the devices answer with something fatal decides how a transfer ends, and it
is the last thing that happens. Without a buffer nothing happens at all. Otherwise a transfer ends
with the fault of a reader, a writer or a flush exactly if the history holds a call that failed with
this fault and may not be tried again, or with a refusal if a port took nothing of what it was
offered, and it has sent everything exactly if there is no such call. -/
theorem transfer_outcome {π : Type} [Port π] (forwarder : Forwarder) (observer : Observer)
    (source : Source) (port : π) :
    let run := forwarder.transfer observer source port
    let size := forwarder.blockSize.bytes
    run.AnsweredBy source port ∧
    (∀ wanted shortage, run.ending = .failed (.bufferFailed wanted shortage) ↔
      wanted = size ∧ Shortage.ofSize? size = some shortage) ∧
    (∀ shortage, Shortage.ofSize? size = some shortage →
      run.history = [] ∧ run.source = source ∧ run.port = port) ∧
    (Shortage.ofSize? size = none →
      (∀ fault, run.ending = .failed (.readFailed fault) ↔
        fault.kind ≠ .interrupted ∧ ∃ room, .read room (.failed fault) ∈ run.history) ∧
      (∀ fault, run.ending = .failed (.writeFailed fault) ↔
        fault = refusedBlock ∧
            (∃ offered elapsed, offered ≠ [] ∧
              .write offered (.gave 0) elapsed ∈ run.history) ∨
          fault.kind ≠ .interrupted ∧ ∃ offered elapsed,
            .write offered (.failed fault) elapsed ∈ run.history ∧
              (fault.kind = .timedOut → forwarder.mayWait elapsed = false)) ∧
      (∀ fault, run.ending = .failed (.flushFailed fault) ↔
        .flush (.failed fault) ∈ run.history) ∧
      (run.ending = .crashed ↔
        (∃ room, .read room .crashed ∈ run.history) ∨
          (∃ offered elapsed, .write offered .crashed elapsed ∈ run.history) ∨
            .flush .crashed ∈ run.history) ∧
      ((∃ report, run.ending = .sent report) ↔ run.history.Calm forwarder) ∧
      ((¬ ∃ report, run.ending = .sent report) →
        ∃ before call, run.history = before ++ [call] ∧ History.Calm forwarder before ∧
          call.fatal? forwarder = some run.ending)) := by
  intro run size
  have transfers := transfer_transfers forwarder observer source port
  refine ⟨transfer_answered forwarder observer source port,
    fun wanted shortage => transfers.bufferFailed_iff, fun shortage short => ?_, fun enough => ?_⟩
  · have refused : run = _ := transfer_short short observer source port
    rw [refused]
    exact ⟨rfl, rfl, rfl⟩
  · have ends : run.history.Ends forwarder run.ending.stop? := transfers.ends enough
    refine ⟨fun fault => ?_, fun fault => ?_, fun fault => ?_, ?_, ?_, fun unsent => ?_⟩
    · rw [← Ending.stop?_eq_failed]
      exact ends.readFailed_iff
    · rw [← Ending.stop?_eq_failed, ends.writeFailed_iff, transfers.refused_iff]
    · rw [← Ending.stop?_eq_failed]
      exact ends.flushFailed_iff
    · rw [← Ending.stop?_eq_crashed]
      exact ends.crashed_iff
    · rw [← Ending.stop?_eq_none]
      exact ends.calm_iff.symm
    · rw [← Ending.stop?_eq_none] at unsent
      obtain ⟨ending, stops⟩ := Option.ne_none_iff_exists'.1 unsent
      rw [stops] at ends
      rw [← Ending.eq_of_stop? stops] at ends
      exact ends

end SerialFeed
