/-
This file says which devices let a transfer come to its end, and shows that it then does. A source
is willing if it fails only for an interruption, and never crashes. A port is obliging if it takes
something of everything that it is offered, but for an interruption or a delay that the block may
wait for, and if its flushes succeed. A port is a machine with states of its own, so what it is
bound to is said of the states in which it may find itself: each call leads from one of them to
another.
-/

import SerialFeed.Transfer

namespace SerialFeed

/-! ### Willing sources -/

/-- An answer of a source that fails only for an interruption. -/
def Step.Willing : Step → Prop
  | upTo _ => True
  | fail fault => fault.kind = .interrupted
  | crash => False

instance : DecidablePred Step.Willing
  | .upTo _ => inferInstanceAs (Decidable True)
  | .fail fault => inferInstanceAs (Decidable (fault.kind = .interrupted))
  | .crash => inferInstanceAs (Decidable False)

namespace Source

variable {source : Source}

/-- Whether no read of a source fails but for an interruption. -/
def Willing (source : Source) : Prop :=
  ∀ step ∈ source.script, step.Willing

instance (source : Source) : Decidable source.Willing :=
  inferInstanceAs (Decidable (∀ step ∈ source.script, step.Willing))

theorem Willing.read (willing : source.Willing) (room : Nat) :
    (source.read room).1.Willing :=
  fun step member => willing step ((source.read_script_suffix room).subset member)

theorem Willing.interrupted (willing : source.Willing) {room : Nat} {fault : Fault}
    (answer : (source.read room).2 = .failed fault) : fault.kind = .interrupted := by
  unfold Source.read at answer
  split at answer
  · cases answer
  · cases answer
  · rename_i script
    cases answer
    exact willing _ (script ▸ List.mem_cons_self)
  · cases answer

theorem Willing.not_crashed (willing : source.Willing) (room : Nat) :
    (source.read room).2 ≠ .crashed := by
  intro answer
  unfold Source.read at answer
  split at answer
  · cases answer
  · cases answer
  · cases answer
  · rename_i script
    exact willing .crash (script ▸ List.mem_cons_self)

end Source

/-- A willing source lets every block be filled or the input end. -/
theorem readBlock_willing {source : Source} (willing : source.Willing) (room : Nat) :
    (readBlock source room).outcome = .gave () ∧ (readBlock source room).source.Willing := by
  fun_induction readBlock source room with
  | case1 => exact ⟨rfl, willing⟩
  | case2 source room nonzero next answer =>
    have kept := willing.read room
    rw [answer] at kept
    exact ⟨rfl, kept⟩
  | case3 source room nonzero next first others answer inductionHypothesis =>
    have kept := willing.read room
    rw [answer] at kept
    exact inductionHypothesis kept
  | case4 source room nonzero next fault answer again inductionHypothesis =>
    have kept := willing.read room
    rw [answer] at kept
    exact inductionHypothesis kept
  | case5 source room nonzero next fault answer fatal =>
    exact absurd (willing.interrupted (congrArg Prod.snd answer)) fatal
  | case6 source room nonzero next answer =>
    exact absurd (congrArg Prod.snd answer) (willing.not_crashed room)

/-! ### Obliging ports -/

/-- An answer to a write that takes something, or that lets the writer try again. -/
def Reply.Takes (forwarder : Forwarder) : Reply Nat → Prop
  | gave count => 0 < count
  | failed fault =>
    fault.kind = .interrupted ∨ fault.kind = .timedOut ∧ forwarder.writeTimeout = none
  | crashed => False

/-- Whether a port, as long as it is in a fit state, takes something of whatever it is offered, or
lets the writer try again, and flushes without failing, and is then in a fit state again. -/
structure Port.Obliging {π : Type} [Port π] (forwarder : Forwarder) (fit : π → Prop) : Prop where
  write : ∀ {port offered}, fit port → offered ≠ [] →
    fit (Port.write port offered).1 ∧ (Port.write port offered).2.Takes forwarder
  flush : ∀ {port}, fit port → fit (Port.flush port).1 ∧ (Port.flush port).2 = .gave ()

section Obliging

variable {π : Type} [Port π] {forwarder : Forwarder} {fit : π → Prop}

theorem Forwarder.mayWait_of_writeTimeout (unlimited : forwarder.writeTimeout = none)
    (elapsed : Nat) : forwarder.mayWait elapsed = true := by
  unfold mayWait
  rw [unlimited]

/-- An obliging port takes every block. -/
theorem writeBlock_obliging (obliging : Port.Obliging forwarder fit) (observer : Observer)
    (started : Nat) {port : π} (isFit : fit port) (block : Bytes) :
    (writeBlock forwarder observer started port block).outcome = .gave () ∧
      fit (writeBlock forwarder observer started port block).port := by
  fun_induction writeBlock forwarder observer started port block with
  | case1 => exact ⟨rfl, isFit⟩
  | case2 port block nonempty next answer =>
    have taken := (obliging.write isFit nonempty).2
    rw [answer] at taken
    exact absurd taken (Nat.lt_irrefl 0)
  | case3 port block nonempty next count answer inductionHypothesis =>
    have kept := (obliging.write isFit nonempty).1
    rw [answer] at kept
    exact inductionHypothesis kept
  | case4 port block nonempty next fault answer entry again inductionHypothesis =>
    have kept := (obliging.write isFit nonempty).1
    rw [answer] at kept
    exact inductionHypothesis kept
  | case5 port block nonempty next fault answer entry _ waits rest inductionHypothesis =>
    have kept := (obliging.write isFit nonempty).1
    rw [answer] at kept
    exact inductionHypothesis kept
  | case6 port block nonempty next fault answer entry fatal overdue =>
    have taken := (obliging.write isFit nonempty).2
    rw [answer] at taken
    rcases taken with again | ⟨late, unlimited⟩
    · exact absurd again fatal
    · exact absurd ⟨late, Forwarder.mayWait_of_writeTimeout unlimited _⟩ overdue
  | case7 port block nonempty next answer =>
    have taken := (obliging.write isFit nonempty).2
    rw [answer] at taken
    exact taken.elim

theorem copyBlocks_sent (obliging : Port.Obliging forwarder fit) (observer : Observer)
    {source : Source} (willing : source.Willing) {port : π} (isFit : fit port) (report : Report) :
    (∃ final, (forwarder.copyBlocks observer source port report).ending = .sent final) ∧
      fit (forwarder.copyBlocks observer source port report).port := by
  fun_induction Forwarder.copyBlocks forwarder observer source port report with
  | case1 source port report filling fault outcome =>
    have read := (readBlock_willing willing forwarder.blockSize.bytes).1
    exact nomatch outcome.symm.trans read
  | case2 source port report filling outcome =>
    have read := (readBlock_willing willing forwarder.blockSize.bytes).1
    exact nomatch outcome.symm.trans read
  | case3 source port report filling outcome empty => exact ⟨⟨report, rfl⟩, isFit⟩
  | case4 source port report filling read nonempty writing history fault outcome =>
    have sent := (writeBlock_obliging obliging observer (Port.clock port) isFit filling.block).1
    exact nomatch outcome.symm.trans sent
  | case5 source port report filling read nonempty writing history outcome =>
    have sent := (writeBlock_obliging obliging observer (Port.clock port) isFit filling.block).1
    exact nomatch outcome.symm.trans sent
  | case6 source port report filling read nonempty writing history outcome rest
      inductionHypothesis =>
    have kept := (readBlock_willing willing forwarder.blockSize.bytes).2
    have stillFit :=
      (writeBlock_obliging obliging observer (Port.clock port) isFit filling.block).2
    exact inductionHypothesis kept stillFit

theorem settleOutput_sent (obliging : Port.Obliging forwarder fit) (observer : Observer)
    (source : Source) {port : π} (isFit : fit port) (report : Report) :
    (forwarder.settleOutput observer source port report).ending = .sent report := by
  obtain ⟨stillFit, first⟩ := obliging.flush isFit
  have second := (obliging.flush stillFit).2
  unfold Forwarder.settleOutput
  dsimp only
  split
  · rename_i answer
    exact nomatch (congrArg Prod.snd answer).symm.trans first
  · rename_i answer
    exact nomatch (congrArg Prod.snd answer).symm.trans first
  · rename_i answer
    rw [answer] at second
    split
    · rename_i last
      exact nomatch (congrArg Prod.snd last).symm.trans second
    · rename_i last
      exact nomatch (congrArg Prod.snd last).symm.trans second
    · rfl

/-- Between a willing source and an obliging port everything is sent. -/
theorem transfer_sent (enough : Shortage.ofSize? forwarder.blockSize.bytes = none)
    (obliging : Port.Obliging forwarder fit) (observer : Observer) {source : Source}
    (willing : source.Willing) {port : π} (isFit : fit port) :
    ∃ report, (forwarder.transfer observer source port).ending = .sent report := by
  obtain ⟨⟨report, sent⟩, stillFit⟩ := copyBlocks_sent obliging observer willing isFit {}
  refine ⟨report, ?_⟩
  unfold Forwarder.transfer
  simp only [enough, sent]
  exact settleOutput_sent obliging observer _ stillFit report

end Obliging

/-! ### Obliging links -/

/-- An answer of a link to a write that takes something, or that lets the writer try again. -/
def Step.Takes (forwarder : Forwarder) : Step → Prop
  | upTo count => 0 < count
  | fail fault =>
    fault.kind = .interrupted ∨ fault.kind = .timedOut ∧ forwarder.writeTimeout = none
  | crash => False

instance (forwarder : Forwarder) : DecidablePred (Step.Takes forwarder)
  | .upTo count => inferInstanceAs (Decidable (0 < count))
  | .fail fault => inferInstanceAs (Decidable
      (fault.kind = .interrupted ∨ fault.kind = .timedOut ∧ forwarder.writeTimeout = none))
  | .crash => inferInstanceAs (Decidable False)

/-- An answer of a link to a flush that does not fail. -/
def Step.Succeeds : Step → Prop
  | upTo _ => True
  | _ => False

instance : DecidablePred Step.Succeeds
  | .upTo _ => inferInstanceAs (Decidable True)
  | .fail _ => inferInstanceAs (Decidable False)
  | .crash => inferInstanceAs (Decidable False)

namespace Link

/-- Whether all that a link has still to answer lets a transfer go on. -/
structure Fit (forwarder : Forwarder) (link : Link) : Prop where
  writes : ∀ step ∈ link.writes, step.Takes forwarder
  flushes : ∀ step ∈ link.flushes, step.Succeeds
  cap : link.cap ≠ some 0

theorem obliging (forwarder : Forwarder) : Port.Obliging forwarder (Link.Fit forwarder) where
  write {link offered} isFit nonempty := by
    have some := List.length_pos_iff.2 nonempty
    show Fit forwarder (link.write offered).1 ∧ Reply.Takes forwarder (link.write offered).2
    unfold Link.write
    split
    · refine ⟨isFit, ?_⟩
      show 0 < min (link.cap.getD offered.length) offered.length
      refine Nat.lt_min.2 ⟨?_, some⟩
      cases cap : link.cap with
      | none => exact some
      | some most => exact Nat.pos_of_ne_zero fun zero => isFit.cap (zero ▸ cap)
    · rename_i count rest script
      have positive : 0 < count := isFit.writes (.upTo count) (script ▸ List.mem_cons_self)
      refine ⟨⟨?_, isFit.flushes, isFit.cap⟩, Nat.lt_min.2 ⟨positive, some⟩⟩
      exact fun step member => isFit.writes step (script ▸ List.mem_cons_of_mem _ member)
    · rename_i fault rest script
      refine ⟨⟨?_, isFit.flushes, isFit.cap⟩, isFit.writes (.fail fault) ?_⟩
      · exact fun step member => isFit.writes step (script ▸ List.mem_cons_of_mem _ member)
      · exact script ▸ List.mem_cons_self
    · rename_i rest script
      exact (isFit.writes .crash (script ▸ List.mem_cons_self)).elim
  flush {link} isFit := by
    show Fit forwarder link.flush.1 ∧ link.flush.2 = .gave ()
    unfold Link.flush
    split
    · exact ⟨isFit, rfl⟩
    · rename_i count rest script
      refine ⟨⟨isFit.writes, ?_, isFit.cap⟩, rfl⟩
      exact fun step member => isFit.flushes step (script ▸ List.mem_cons_of_mem _ member)
    · rename_i fault rest script
      exact (isFit.flushes (.fail fault) (script ▸ List.mem_cons_self)).elim
    · rename_i rest script
      exact (isFit.flushes .crash (script ▸ List.mem_cons_self)).elim

end Link

end SerialFeed
