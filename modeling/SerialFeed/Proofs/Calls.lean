/-
This file shows what each call of a transfer is given. Between two calls there is one block under
way, and what it holds can be read off the calls that were made: the bytes that were read since the
block before was offered, and those of them that the port has accepted. A read is given the room
that is left in this block, which is never nothing, and a write is given the part of the block that
was not accepted yet, which is never empty. So the first write of a block offers the whole of it, a
write of which a part was taken is followed by one of the rest, and a write that is tried again
offers the same bytes again.
-/

import SerialFeed.Proofs.Observation
import SerialFeed.Proofs.Phases

namespace SerialFeed

/-! ### The block under way -/

/-- The block that is under way between two calls: what was read into it, what the port has accepted
of it, and whether it was offered yet. -/
structure Underway where
  block : Bytes := []
  accepted : Bytes := []
  offered : Bool := false

namespace Underway

variable {Event : Type}

/-- The bytes to which the next read adds some: those of the block, but once the block was offered
the next read begins another one. -/
def taken (underway : Underway) : Bytes :=
  if underway.offered then [] else underway.block

/-- The block that is under way when one more thing has happened. -/
def next (underway : Underway) : Entry Event → Underway
  | .read _ (.gave bytes) => { block := underway.taken ++ bytes }
  | .read _ _ => { block := underway.taken }
  | .write bytes (.gave count) _ =>
    { underway with accepted := underway.accepted ++ bytes.take count, offered := true }
  | .write _ _ _ => { underway with offered := true }
  | _ => underway

end Underway

namespace History

variable {Event : Type}

/-- The block that is under way when all of a history has happened. -/
def underway (history : History Event) : Underway :=
  history.foldl Underway.next {}

theorem underway_concat (history : History Event) (entry : Entry Event) :
    underway (history ++ [entry]) = history.underway.next entry :=
  List.foldl_concat ..

/-- The calls alone tell which block is under way. -/
theorem underway_calls (history : History Event) : history.calls.underway = history.underway := by
  unfold underway calls
  rw [List.foldl_filterMap]
  congr 1
  funext underway entry
  cases entry with
  | read room reply => cases reply <;> rfl
  | write offered reply elapsed => cases reply <;> rfl
  | _ => rfl

/-- A call among the calls of a history stands at its place in the history. -/
theorem exists_of_calls_eq {history : History Event} {before after : History Empty}
    {call : Entry Empty} (same : history.calls = before ++ call :: after) :
    ∃ (first : History Event) (entry : Entry Event) (second : History Event),
      history = first ++ entry :: second ∧ first.calls = before ∧ entry.call? = some call ∧
        second.calls = after := by
  obtain ⟨first, others, rfl, rfl, rest⟩ := List.filterMap_eq_append_iff.1 same
  obtain ⟨silent, entry, second, rfl, unseen, isCall, rfl⟩ := List.filterMap_eq_cons_iff.1 rest
  refine ⟨first ++ silent, entry, second, (List.append_assoc ..).symm, ?_, isCall, rfl⟩
  have nothing : History.calls silent = [] := List.filterMap_eq_nil_iff.2 unseen
  rw [calls_append, nothing, List.append_nil]
  rfl

end History

section Calls

variable {Event : Type} {entry : Entry Event}

theorem Entry.eq_read_of_call? {room : Nat} {reply : Reply Bytes}
    (isRead : entry.call? = some (.read room reply)) : entry = .read room reply := by
  cases entry <;> simp_all [call?]

theorem Entry.eq_write_of_call? {offered : Bytes} {reply : Reply Nat} {elapsed : Nat}
    (isWrite : entry.call? = some (.write offered reply elapsed)) :
    entry = .write offered reply elapsed := by
  cases entry <;> simp_all [call?]

end Calls

/-! ### What a phase knows of the block under way -/

namespace Phase

/-- What a phase knows of the block that is under way. -/
def Carries (size : BlockSize) (underway : Underway) : Phase → Prop
  | filling taken => underway.taken = taken ∧
      (underway.offered = true → underway.accepted = underway.block)
  | sending block pending => underway.block = block ∧ block.length ≤ size.bytes ∧
      block = underway.accepted ++ pending ∧ (underway.offered = false → underway.accepted = [])
  | _ => True

/-- A block that takes no more bytes and was not offered yet. -/
theorem carries_ofBlock {size : BlockSize} {block : Bytes} (short : block.length ≤ size.bytes) :
    (ofBlock block).Carries size { block } := by
  unfold ofBlock
  split
  · trivial
  · exact ⟨rfl, short, rfl, fun _ => rfl⟩

/-- A block that has taken some bytes and was not offered yet. -/
theorem carries_ofTaken {size : BlockSize} {taken : Bytes} (short : taken.length ≤ size.bytes) :
    (ofTaken size taken).Carries size { block := taken } := by
  unfold ofTaken
  split
  · exact ⟨rfl, nofun⟩
  · exact ⟨rfl, short, rfl, fun _ => rfl⟩

end Phase

section Carries

variable {forwarder : Forwarder} {phase next last : Phase} {history : History Progress}

theorem Moves.carries {entry : Entry Progress} {underway : Underway}
    (move : Moves forwarder phase entry next)
    (carries : phase.Carries forwarder.blockSize underway) :
    next.Carries forwarder.blockSize (underway.next entry) := by
  cases move with
  | @take taken bytes room rest nonempty fits =>
    have same : underway.next (.read room (.gave bytes) : Entry Progress) =
        { block := taken ++ bytes } := congrArg (Underway.mk · [] false)
          (congrArg (· ++ bytes) carries.1)
    rw [same]
    refine Phase.carries_ofTaken ?_
    rw [List.length_append]
    omega
  | @dry taken room rest =>
    have same : underway.next (.read room (.gave []) : Entry Progress) = { block := taken } :=
      congrArg (Underway.mk · [] false) ((List.append_nil _).trans carries.1)
    rw [same]
    exact Phase.carries_ofBlock (by omega)
  | readAgain rest again => exact ⟨carries.1, nofun⟩
  | readFails rest fatal => trivial
  | @send block pending count elapsed positive fits =>
    obtain ⟨same, short, split, fresh⟩ := carries
    refine ⟨same, short, ?_, nofun⟩
    show block = underway.accepted ++ pending.take count ++ pending.drop count
    rw [List.append_assoc, List.take_append_drop]
    exact split
  | writeAgain nonempty again =>
    obtain ⟨same, short, split, fresh⟩ := carries
    exact ⟨same, short, split, nofun⟩
  | writeFails nonempty fatal => trivial
  | @report block =>
    obtain ⟨same, short, split, fresh⟩ := carries
    rw [List.append_nil] at split
    show underway.taken = [] ∧ (underway.offered = true → underway.accepted = underway.block)
    unfold Underway.taken
    by_cases offered : underway.offered = true
    · rw [if_pos offered, same]
      exact ⟨rfl, fun _ => split.symm⟩
    · rw [if_neg offered, same, split]
      exact ⟨fresh (Bool.eq_false_iff.2 offered), fun _ => rfl⟩
  | flush => trivial
  | settle => trivial
  | pause => trivial
  | close => trivial
  | flushFails due fatal => trivial
  | note ongoing => exact carries

theorem Follows.carries {before : History Progress}
    (follows : Follows forwarder phase history last)
    (carries : phase.Carries forwarder.blockSize before.underway) :
    last.Carries forwarder.blockSize (History.underway (before ++ history)) := by
  induction follows generalizing before with
  | nil => rwa [List.append_nil]
  | @cons phase middle last entry rest move later inductionHypothesis =>
    rw [List.append_cons]
    refine inductionHypothesis ?_
    rw [History.underway_concat]
    exact move.carries carries

theorem Follows.carries_start (follows : Follows forwarder (.filling []) history last) :
    last.Carries forwarder.blockSize history.underway := by
  have start : (Phase.filling []).Carries forwarder.blockSize
      (History.underway ([] : History Progress)) := ⟨rfl, nofun⟩
  exact follows.carries start

end Carries

/-! ### The next call -/

section Next

variable {forwarder : Forwarder} {last : Phase} {history : History Progress}

/-- As long as bytes of a block are pending, the next call offers them. -/
theorem Follows.next_call {block pending : Bytes}
    (follows : Follows forwarder (.sending block pending) history last) (nonempty : pending ≠ [])
    (done : ∀ block pending, last ≠ .sending block pending) :
    ∃ reply elapsed, history.calls.head? = some (.write pending reply elapsed) := by
  generalize start : Phase.sending block pending = phase at follows
  induction follows with
  | nil => exact absurd start.symm (done block pending)
  | cons move rest inductionHypothesis =>
    subst start
    cases move with
    | send positive fits => exact ⟨_, _, rfl⟩
    | writeAgain nonempty again => exact ⟨_, _, rfl⟩
    | writeFails nonempty fatal => exact ⟨_, _, rfl⟩
    | report => exact absurd rfl nonempty
    | flushFails due fatal => rcases due with impossible | impossible <;> cases impossible
    | note ongoing => exact inductionHypothesis done rfl

/-- What is offered is never nothing. -/
theorem Moves.offered_ne_nil {phase next : Phase} {offered : Bytes} {reply : Reply Nat}
    {elapsed : Nat} (move : Moves forwarder phase (.write offered reply elapsed) next) :
    offered ≠ [] := by
  cases move with
  | send positive fits => exact List.length_pos_iff.1 (Nat.lt_of_lt_of_le positive fits)
  | writeAgain nonempty again => exact nonempty
  | writeFails nonempty fatal => exact nonempty

/-- Once a call has failed for good nothing happens any more. -/
theorem Follows.eq_nil_of_stopped (follows : Follows forwarder .stopped history last) :
    history = [] := by
  cases follows with
  | nil => rfl
  | cons move rest =>
    cases move with
    | flushFails due fatal => rcases due with impossible | impossible <;> cases impossible
    | note ongoing => exact absurd rfl ongoing.2

end Next

/-! ### What each call is given -/

section Given

variable {forwarder : Forwarder} {last : Phase} {before after : History Progress}

/-- A read is given the room that is left in the block under way, and if it begins another block the
port has accepted all of the one before. -/
theorem Follows.read_room {room : Nat} {reply : Reply Bytes}
    (follows : Follows forwarder (.filling []) (before ++ .read room reply :: after) last) :
    before.underway.taken.length + room = forwarder.blockSize.bytes ∧ 0 < room ∧
      (before.underway.offered = true → before.underway.accepted = before.underway.block) := by
  obtain ⟨phase, earlier, later⟩ := follows.split
  cases later with
  | cons move rest =>
    obtain ⟨taken, rfl, whole⟩ := move.of_read
    have short : taken.length < forwarder.blockSize.bytes := earlier.holds_start.1
    obtain ⟨same, complete⟩ := earlier.carries_start
    rw [same]
    exact ⟨whole, by omega, complete⟩

/-- A write is given what was not accepted yet of the block under way. -/
theorem Follows.write_offered {offered : Bytes} {reply : Reply Nat} {elapsed : Nat}
    (follows : Follows forwarder (.filling []) (before ++ .write offered reply elapsed :: after)
      last) :
    before.underway.block = before.underway.accepted ++ offered ∧ offered ≠ [] ∧
      offered.length ≤ forwarder.blockSize.bytes ∧
      (before.underway.offered = false → offered = before.underway.block) := by
  obtain ⟨phase, earlier, later⟩ := follows.split
  cases later with
  | cons move rest =>
    obtain ⟨block, rfl⟩ := move.of_write
    obtain ⟨same, short, split, fresh⟩ := earlier.carries_start
    refine ⟨same.trans split, move.offered_ne_nil, ?_, fun new => ?_⟩
    · rw [split, List.length_append] at short
      omega
    · rw [same, split, fresh new, List.nil_append]

/-- The rest of a block is offered next if a part of it was taken, and all of it again if the write
is tried again. -/
theorem Follows.next_write {offered : Bytes} {reply : Reply Nat} {elapsed : Nat}
    (follows : Follows forwarder (.filling []) (before ++ .write offered reply elapsed :: after)
      last)
    (done : ∀ block pending, last ≠ .sending block pending) :
    (∀ count, reply = .gave count → 0 < count → count < offered.length →
      ∃ answer later, after.calls.head? = some (.write (offered.drop count) answer later)) ∧
    ∀ fault, reply = .failed fault →
      if fault.kind = .interrupted ∨ fault.kind = .timedOut ∧ forwarder.mayWait elapsed then
        ∃ answer later, after.calls.head? = some (.write offered answer later)
      else after.calls = [] := by
  obtain ⟨phase, earlier, later⟩ := follows.split
  cases later with
  | cons move rest =>
    cases move with
    | @send block _ count _ positive fits =>
      refine ⟨?_, nofun⟩
      rintro _ ⟨⟩ _ partly
      refine rest.next_call ?_ done
      simpa using partly
    | @writeAgain block _ fault _ nonempty again =>
      refine ⟨nofun, ?_⟩
      rintro _ ⟨⟩
      rw [if_pos again]
      exact rest.next_call nonempty done
    | @writeFails block _ reply _ ending nonempty fatal =>
      rw [rest.eq_nil_of_stopped]
      constructor
      · rintro count rfl positive _
        obtain ⟨more, rfl⟩ := Nat.exists_eq_succ_of_ne_zero (Nat.ne_of_gt positive)
        cases fatal
      · rintro fault rfl
        rw [if_neg]
        · rfl
        · intro again
          have passed : (Entry.write offered (.failed fault) elapsed : Entry Progress).fatal?
              forwarder = none := if_pos again
          cases passed.symm.trans fatal

end Given

/-- A transfer does not end while a block is being sent. -/
theorem Phase.endingWith_ne_sending (ending : Ending) (block pending : Bytes) :
    closed.endingWith ending ≠ sending block pending := by
  cases ending <;> exact nofun

/-- Each call of a transfer is given what the calls before leave to be done, as the devices have
answered them. A read is given the room that the bytes of the block under way leave in it: at least
one byte, and a block at most; if it begins another block, all of the one before was accepted. A
write is given the part of the block that was not accepted yet: at least one byte, a block at most,
and the whole of the block if it is the first one. If a part of the bytes is taken, the next call is
a write of the rest; if the write is tried again, the next call is a write of the same bytes, and if
it is not, there is no next call. -/
theorem transfer_calls {π : Type} [Port π] (forwarder : Forwarder) (observer : Observer)
    (source : Source) (port : π) :
    let calls := (forwarder.transfer observer source port).history.calls
    let size := forwarder.blockSize.bytes
    (forwarder.transfer observer source port).AnsweredBy source port ∧
    (∀ (before after : History Empty) room reply, calls = before ++ .read room reply :: after →
      before.underway.taken.length + room = size ∧ 1 ≤ room ∧ room ≤ size ∧
        (before.underway.offered = true → before.underway.accepted = before.underway.block)) ∧
    (∀ (before after : History Empty) offered reply elapsed,
      calls = before ++ .write offered reply elapsed :: after →
        before.underway.block = before.underway.accepted ++ offered ∧
        1 ≤ offered.length ∧ offered.length ≤ size ∧
        (before.underway.offered = false → offered = before.underway.block) ∧
        (∀ count, reply = .gave count → 0 < count → count < offered.length →
          ∃ answer later, after.head? = some (.write (offered.drop count) answer later)) ∧
        ∀ fault, reply = .failed fault →
          if fault.kind = .interrupted ∨ fault.kind = .timedOut ∧ forwarder.mayWait elapsed then
            ∃ answer later, after.head? = some (.write offered answer later)
          else after = []) := by
  intro calls size
  refine ⟨transfer_answered forwarder observer source port, ?_⟩
  -- Whoever is told of it, the calls are those of a transfer whose observer hears everything.
  have listening := transfer_transfers forwarder { observer with events := true } source port
  have same : (forwarder.transfer { observer with events := true } source port).history.calls =
      calls := (transfer_observer forwarder observer _ source port).2.2.2
  rw [← same]
  cases capacity : Shortage.ofSize? forwarder.blockSize.bytes with
  | some shortage =>
    rw [(listening.of_short capacity).2]
    exact ⟨fun before => by cases before <;> nofun, fun before => by cases before <;> nofun⟩
  | none =>
    have follows := listening.follows rfl capacity
    have done := Phase.endingWith_ne_sending
      (forwarder.transfer { observer with events := true } source port).ending
    refine ⟨fun before after room reply here => ?_,
      fun before after offered reply elapsed here => ?_⟩
    · obtain ⟨first, entry, second, history, rfl, isRead, rfl⟩ := History.exists_of_calls_eq here
      rw [history, Entry.eq_read_of_call? isRead] at follows
      obtain ⟨whole, positive, complete⟩ := follows.read_room
      rw [History.underway_calls]
      have fits : room ≤ forwarder.blockSize.bytes := by omega
      exact ⟨whole, positive, fits, complete⟩
    · obtain ⟨first, entry, second, history, rfl, isWrite, rfl⟩ := History.exists_of_calls_eq here
      rw [history, Entry.eq_write_of_call? isWrite] at follows
      obtain ⟨split, nonempty, short, fresh⟩ := follows.write_offered
      obtain ⟨rest, again⟩ := follows.next_write done
      rw [History.underway_calls]
      exact ⟨split, List.length_pos_iff.2 nonempty, short, fresh, rest, again⟩

end SerialFeed
