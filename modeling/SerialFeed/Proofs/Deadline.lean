/-
This file holds the writer of blocks against the rule that the deadline of a block is kept: a writer
whose deadline is over offers nothing more once a write has left bytes over, and fails. The writer
asks for the time after one kind of answer only, the one that says that the port could not take the
bytes in time. There the rule is kept. A port that has taken a part of the bytes, or was
interrupted, is offered the rest however late it is, and so the writer whose deadline is over when
it begins keeps the rule exactly if its first write is answered otherwise.
-/

import SerialFeed.Proofs.Patience
import SerialFeed.Proofs.Segments

namespace SerialFeed

/-! ### Writes that leave bytes over -/

section Entries

variable {Event : Type}

/-- Whether an entry is a write after which some of the offered bytes are still to be written. -/
def Entry.leavesOver : Entry Event → Bool
  | write offered (.gave count) _ => count < offered.length
  | write offered _ _ => offered ≠ []
  | _ => false

/-- An answer to a write after which the writer goes on without asking for the time: a part of the
bytes was taken, or the port was interrupted. -/
def Reply.GoesOn (offered : Bytes) : Reply Nat → Prop
  | gave count => 0 < count ∧ count < offered.length
  | failed fault => fault.kind = .interrupted
  | crashed => False

/-- What a writer comes to that stops at the answer to a write. -/
def Reply.stopped : Reply Nat → Reply Unit
  | gave 0 => .failed refusedBlock
  | gave _ => .gave ()
  | failed fault => .failed fault
  | crashed => .crashed

/-- A write that lets the writer go on has left something over. -/
theorem Reply.GoesOn.leavesOver {offered : Bytes} {reply : Reply Nat}
    (goesOn : reply.GoesOn offered) (nonempty : offered ≠ []) (elapsed : Nat) :
    (Entry.write offered reply elapsed : Entry Event).leavesOver = true := by
  cases reply with
  | gave count => exact decide_eq_true goesOn.2
  | failed fault => exact decide_eq_true nonempty
  | crashed => exact decide_eq_true nonempty

/-- A writer who stops at a write that has left something over has not come to its end. -/
theorem Reply.stopped_ne_gave {offered : Bytes} {reply : Reply Nat} {elapsed : Nat}
    (leaves : (Entry.write offered reply elapsed : Entry Event).leavesOver = true)
    (stops : ¬ reply.GoesOn offered) : reply.stopped ≠ .gave () := by
  cases reply with
  | gave count =>
    have fewer : count < offered.length := of_decide_eq_true leaves
    have none : count = 0 := Nat.eq_zero_of_not_pos fun some => stops ⟨some, fewer⟩
    rw [none]
    exact nofun
  | failed fault => exact nofun
  | crashed => exact nofun

end Entries

/-- Whether a writer keeps to a deadline that is over: once a write has left bytes over nothing is
offered any more, and the writer does not come to its end. -/
structure Writing.GivesUp {π : Type} (written : Writing π Progress) : Prop where
  silent : written.history.Pairwise fun earlier later =>
    earlier.leavesOver = true → later.isWrite = false
  fails : ∀ entry ∈ written.history, entry.leavesOver = true → written.outcome ≠ .gave ()

/-! ### One write after the other -/

namespace Sends

variable {forwarder : Forwarder} {observer : Observer} {block offered : Bytes}
  {outcome : Reply Unit} {reply : Reply Nat} {elapsed : Nat}
  {history before after : History Progress}

/-- From each of its writes on, a block is sent like the bytes that this write offers. -/
theorem from_write
    (sends : Sends forwarder observer block outcome
      (before ++ .write offered reply elapsed :: after)) :
    Sends forwarder observer offered outcome (.write offered reply elapsed :: after) := by
  -- The induction takes writes off the front until this one is the first.
  generalize whole : before ++ .write offered reply elapsed :: after = history at sends
  induction sends generalizing before with
  | done => cases before <;> cases whole
  | refused nonempty =>
    cases before with
    | nil =>
      cases whole
      exact .refused nonempty
    | cons entry others => cases others <;> cases whole
  | piece positive fits rest inductionHypothesis =>
    cases before with
    | nil =>
      cases whole
      exact .piece positive fits rest
    | cons entry others => exact inductionHypothesis (List.cons.inj whole).2
  | interrupted nonempty again rest inductionHypothesis =>
    cases before with
    | nil =>
      cases whole
      exact .interrupted nonempty again rest
    | cons entry others => exact inductionHypothesis (List.cons.inj whole).2
  | @waiting pending _ _ _ history nonempty late mayWait rest inductionHypothesis =>
    cases before with
    | nil =>
      cases whole
      exact .waiting nonempty late mayWait rest
    | cons entry others =>
      have tail := (List.cons.inj whole).2
      unfold Observer.note at tail
      split at tail
      · cases others with
        | nil => cases tail
        | cons record others => exact inductionHypothesis (List.cons.inj tail).2
      · exact inductionHypothesis tail
  | failed nonempty fatal overdue =>
    cases before with
    | nil =>
      cases whole
      exact .failed nonempty fatal overdue
    | cons entry others => cases others <;> cases whole
  | crashed nonempty =>
    cases before with
    | nil =>
      cases whole
      exact .crashed nonempty
    | cons entry others => cases others <;> cases whole

/-- After an answer that lets the writer go on, the bytes that were not taken are offered next. -/
theorem next_write
    (sends : Sends forwarder observer offered outcome (.write offered reply elapsed :: after))
    (goesOn : reply.GoesOn offered) :
    ∃ left answer later rest,
      offered = (Entry.write offered reply elapsed : Entry Progress).accepted ++ left ∧
        after = .write left answer later :: rest := by
  cases sends with
  | refused nonempty => exact absurd goesOn.1 (Nat.lt_irrefl 0)
  | @piece _ count _ _ _ positive fits rest =>
    have nonempty : offered.drop count ≠ [] := by
      simpa using goesOn.2
    obtain ⟨answer, later, others, rfl⟩ := rest.exists_eq_cons nonempty
    exact ⟨_, answer, later, others, (List.take_append_drop count offered).symm, rfl⟩
  | interrupted nonempty again rest =>
    obtain ⟨answer, later, others, rfl⟩ := rest.exists_eq_cons nonempty
    exact ⟨offered, answer, later, others, rfl, rfl⟩
  | waiting nonempty late mayWait rest =>
    have again : _ = FaultKind.interrupted := goesOn
    cases again.symm.trans late
  | failed nonempty fatal overdue => exact absurd goesOn fatal
  | crashed nonempty => exact goesOn.elim

/-- After any other answer a writer whose deadline is over stops, and comes to what was answered. -/
theorem stops_late
    (sends : Sends forwarder observer offered outcome (.write offered reply elapsed :: after))
    (stops : ¬ reply.GoesOn offered) (late : forwarder.mayWait elapsed = false) :
    after = [] ∧ outcome = reply.stopped := by
  cases sends with
  | refused nonempty => exact ⟨rfl, rfl⟩
  | @piece _ count _ _ _ positive fits rest =>
    have whole : offered.drop count = [] :=
      List.drop_eq_nil_of_le (Nat.le_of_not_lt fun fewer => stops ⟨positive, fewer⟩)
    obtain ⟨more, rfl⟩ := Nat.exists_eq_succ_of_ne_zero (Nat.ne_of_gt positive)
    exact (whole ▸ rest).of_nil
  | interrupted nonempty again rest => exact absurd again stops
  | waiting nonempty _ mayWait rest =>
    rw [late] at mayWait
    cases mayWait
  | failed nonempty fatal overdue => exact ⟨rfl, rfl⟩
  | crashed nonempty => exact ⟨rfl, rfl⟩

end Sends

/-! ### The deadline of a block -/

section Deadline

variable {π : Type} [Port π] (forwarder : Forwarder) (observer : Observer) (started : Nat)

/-- The first write of a block offers all of it to the port as it is. -/
theorem writeBlock_first (port : π) {block : Bytes} (nonempty : block ≠ []) :
    ∃ rest, (writeBlock forwarder observer started port block).history =
      .write block (Port.write port block).2 (Port.since (Port.write port block).1 started) ::
        rest := by
  rw [writeBlock_eq forwarder observer started port nonempty]
  rcases Port.write port block with ⟨next, reply⟩
  cases reply with
  | gave count =>
    cases count with
    | zero => exact ⟨_, rfl⟩
    | succ count => exact ⟨_, rfl⟩
  | failed fault =>
    dsimp only
    split
    · exact ⟨_, rfl⟩
    · split <;> exact ⟨_, rfl⟩
  | crashed => exact ⟨_, rfl⟩

/-- A writer whose deadline is over when it begins keeps to it exactly if the port, when it is first
offered the block, neither takes a part of it nor is interrupted. -/
theorem writeBlock_hasty_givesUp_iff (port : π) (block : Bytes) :
    (writeBlock forwarder.hasty observer started port block).GivesUp ↔
      (block ≠ [] → ¬ (Port.write port block).2.GoesOn block) := by
  have sends := writeBlock_sends forwarder.hasty observer started port block
  by_cases empty : block = []
  · rw [empty] at sends ⊢
    refine iff_of_true ⟨?_, ?_⟩ (absurd rfl)
    · rw [sends.of_nil.1]
      exact .nil
    · rw [sends.of_nil.1]
      exact nofun
  · obtain ⟨rest, history⟩ := writeBlock_first forwarder.hasty observer started port empty
    rw [history] at sends
    constructor
    · rintro ⟨silent, _⟩ _ goesOn
      obtain ⟨left, answer, later, others, _, rfl⟩ := sends.next_write goesOn
      rw [history] at silent
      have quiet := (List.pairwise_cons.1 silent).1 _ List.mem_cons_self
      cases quiet (goesOn.leavesOver empty _)
    · intro kept
      obtain ⟨rfl, outcome⟩ := sends.stops_late (kept empty) (forwarder.mayWait_hasty _)
      refine ⟨?_, fun entry member leaves => ?_⟩
      · rw [history]
        exact List.pairwise_singleton _ _
      · rw [history] at member
        rw [outcome]
        cases List.mem_singleton.1 member
        exact Reply.stopped_ne_gave leaves (kept empty)

/-- The deadline of a block is kept where the port could not take it in time, and nowhere else.
After a part of the bytes was taken, and after an interruption, the rest is offered next, whatever
the time. After any other answer that comes when the deadline is over nothing more is offered, and
the writer comes to what was answered. A writer whose deadline is over when it begins therefore
gives up on bytes that are left over exactly if its first write is not answered in one of the first
two ways. -/
theorem writeBlock_deadline (port : π) (block : Bytes) :
    let written := writeBlock forwarder observer started port block
    (∀ (before after : History Progress) offered reply elapsed,
      written.history = before ++ .write offered reply elapsed :: after →
        (reply.GoesOn offered → ∃ left answer later rest,
          offered = (Entry.write offered reply elapsed : Entry Progress).accepted ++ left ∧
            after = .write left answer later :: rest) ∧
        (¬ reply.GoesOn offered → forwarder.mayWait elapsed = false →
          after = [] ∧ written.outcome = reply.stopped)) ∧
    ((writeBlock forwarder.hasty observer started port block).GivesUp ↔
      (block ≠ [] → ¬ (Port.write port block).2.GoesOn block)) := by
  intro written
  refine ⟨fun before after offered reply elapsed here => ?_,
    writeBlock_hasty_givesUp_iff forwarder observer started port block⟩
  have sends : Sends forwarder observer block written.outcome written.history :=
    writeBlock_sends forwarder observer started port block
  rw [here] at sends
  exact ⟨sends.from_write.next_write, sends.from_write.stops_late⟩

end Deadline

/-- A link that takes one byte of what it is offered first, and all that it is offered later. -/
def trickling : Link :=
  { writes := [.upTo 1] }

/-- Such a link is offered the rest of a block of four bytes, and takes it, although the deadline of
the block is over. -/
theorem writeBlock_trickling :
    let forwarder : Forwarder := { blockSize := ⟨4, by decide⟩ }
    let written := writeBlock forwarder.hasty {} 0 trickling [97, 98, 99, 100]
    written.history =
        [.write [97, 98, 99, 100] (.gave 1) 0, .write [98, 99, 100] (.gave 3) 0] ∧
      ¬ written.GivesUp := by
  have history :
      (writeBlock (Forwarder.hasty { blockSize := ⟨4, by decide⟩ }) {} 0 trickling
        [97, 98, 99, 100]).history =
      [.write [97, 98, 99, 100] (.gave 1) 0, .write [98, 99, 100] (.gave 3) 0] := by
    cbv
  refine ⟨history, fun givesUp => ?_⟩
  have silent := givesUp.silent
  rw [history] at silent
  have quiet := (List.pairwise_cons.1 silent).1 _ List.mem_cons_self
  cases quiet rfl

end SerialFeed
