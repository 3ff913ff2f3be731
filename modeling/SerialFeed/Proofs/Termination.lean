/-
This file shows that every transfer ends, and how soon. A read either brings bytes, or is the last
one of its block, or is interrupted; a write either has bytes accepted, or is tried again after a
failure, or is the last one of the transfer; and there are two flushes at most. A call that fails
was told to by the script of its device, and every step of a script is met once. So no answers of a
source and a link, however few bytes they move at once, keep a transfer going for ever.
-/

import SerialFeed.Proofs.Phases
import SerialFeed.Proofs.Retries
import SerialFeed.Proofs.Segments
import SerialFeed.Proofs.Stepwise

namespace SerialFeed

/-! ### Counting calls -/

namespace Entry

variable {Event : Type}

/-- Whether a read fails by one of some kinds. -/
def readFailsBy (kinds : List FaultKind) : Entry Event → Bool
  | read _ (.failed fault) => fault.kind ∈ kinds
  | _ => false

/-- Whether a write fails by one of some kinds. -/
def writeFailsBy (kinds : List FaultKind) : Entry Event → Bool
  | write _ (.failed fault) _ => fault.kind ∈ kinds
  | _ => false

end Entry

namespace History

variable {Event : Type}

theorem ReadFree.countP {history : History Event} (free : history.ReadFree) :
    history.countP Entry.isRead = 0 :=
  List.countP_eq_zero.2 fun entry member => ne_true_of_eq_false (free entry member)

theorem WriteFree.countP {history : History Event} (free : history.WriteFree) :
    history.countP Entry.isWrite = 0 :=
  List.countP_eq_zero.2 fun entry member => ne_true_of_eq_false (free entry member)

/-- What is counted of calls alone can be counted among them. -/
theorem countP_calls (history : History Event) {among : Entry Empty → Bool}
    {all : Entry Event → Bool} (same : ∀ entry, (entry.call?.map among).getD false = all entry) :
    history.calls.countP among = history.countP all := by
  unfold calls
  rw [List.countP_filterMap]
  congr 1
  exact funext same

theorem countP_isRead_calls (history : History Event) :
    history.calls.countP Entry.isRead = history.countP Entry.isRead :=
  history.countP_calls fun entry => by cases entry <;> rfl

theorem countP_isWrite_calls (history : History Event) :
    history.calls.countP Entry.isWrite = history.countP Entry.isWrite :=
  history.countP_calls fun entry => by cases entry <;> rfl

theorem countP_readFailsBy_calls (history : History Event) (kinds : List FaultKind) :
    history.calls.countP (Entry.readFailsBy kinds) =
      history.countP (Entry.readFailsBy kinds) :=
  history.countP_calls fun entry => by
    cases entry with
    | read room reply => cases reply <;> rfl
    | _ => rfl

theorem countP_writeFailsBy_calls (history : History Event) (kinds : List FaultKind) :
    history.calls.countP (Entry.writeFailsBy kinds) =
      history.countP (Entry.writeFailsBy kinds) :=
  history.countP_calls fun entry => by
    cases entry with
    | write offered reply elapsed => cases reply <;> rfl
    | _ => rfl

theorem flushings_calls (history : History Event) :
    history.calls.flushings = history.flushings := by
  unfold calls flushings
  rw [List.filterMap_filterMap]
  congr 1
  funext entry
  cases entry <;> rfl

/-- Every call is a read, a write or a flush. -/
theorem length_calls (history : History Event) :
    history.calls.length = history.countP Entry.isRead + history.countP Entry.isWrite +
      history.flushings.length := by
  unfold calls flushings
  induction history with
  | nil => rfl
  | cons entry rest inductionHypothesis =>
    cases entry <;>
      simp only [List.filterMap_cons, List.countP_cons, Entry.call?, Entry.flushing?, Entry.isRead,
        Entry.isWrite, List.length_cons, inductionHypothesis] <;> simp <;> omega

end History

section Counts

variable {forwarder : Forwarder} {observer : Observer}

/-- Besides the reads that bring bytes and those that are interrupted, one read at most fills a
block. -/
theorem Fills.countP_isRead {room : Nat} {block : Bytes} {outcome : Reply Unit}
    {history : History Progress} (fills : Fills room block outcome history) :
    history.countP Entry.isRead ≤
      block.length + history.countP (Entry.readFailsBy [.interrupted]) + 1 := by
  induction fills with
  | full => exact Nat.zero_le _
  | ended positive => exact Nat.le_refl 1
  | piece nonempty fits rest inductionHypothesis =>
    have positive := List.length_pos_iff.2 nonempty
    rw [List.countP_cons_of_pos rfl, List.countP_cons_of_neg Bool.false_ne_true,
      List.length_append]
    omega
  | @interrupted room fault _ _ _ positive again rest inductionHypothesis =>
    have met : (Entry.read room (.failed fault) : Entry Progress).readFailsBy [.interrupted] =
        true := decide_eq_true (List.mem_singleton.2 again)
    rw [List.countP_cons_of_pos rfl, List.countP_cons_of_pos met]
    omega
  | failed positive fatal => exact Nat.le_add_left 1 _
  | crashed positive => exact Nat.le_refl 1

/-- Besides the writes of which bytes are accepted and those that are tried again, one write at most
sends a block, and none if all of it is accepted. -/
theorem Sends.countP_isWrite {block : Bytes} {outcome : Reply Unit} {history : History Progress}
    (sends : Sends forwarder observer block outcome history) :
    history.countP Entry.isWrite ≤ history.accepted.length +
      history.countP (Entry.writeFailsBy [.interrupted, .timedOut]) +
        if outcome = .gave () then 0 else 1 := by
  induction sends with
  | done => exact Nat.zero_le _
  | refused nonempty => exact Nat.le_refl 1
  | @piece block count elapsed outcome history positive fits rest inductionHypothesis =>
    have taken : (block.take count).length = count := List.length_take_of_le fits
    rw [List.countP_cons_of_pos rfl, List.countP_cons_of_neg Bool.false_ne_true,
      History.accepted_cons, Entry.accepted, List.length_append, taken]
    omega
  | @interrupted block fault elapsed _ _ nonempty again rest inductionHypothesis =>
    have met : (Entry.write block (.failed fault) elapsed : Entry Progress).writeFailsBy
        [.interrupted, .timedOut] = true := decide_eq_true (List.mem_pair.2 (Or.inl again))
    rw [List.countP_cons_of_pos rfl, List.countP_cons_of_pos met, History.accepted_cons]
    simp only [Entry.accepted, List.nil_append]
    omega
  | @waiting block fault elapsed _ history nonempty late mayWait rest inductionHypothesis =>
    have met : (Entry.write block (.failed fault) elapsed : Entry Progress).writeFailsBy
        [.interrupted, .timedOut] = true := decide_eq_true (List.mem_pair.2 (Or.inr late))
    have note : List.countP Entry.isWrite
        (observer.note (.portBusy block.length) : History Progress) = 0 :=
      (observer.writeFree_note _).countP
    rw [List.countP_cons_of_pos rfl, List.countP_cons_of_pos met, History.accepted_cons,
      History.accepted_append, Observer.accepted_note, List.countP_append, List.countP_append, note]
    simp only [Entry.accepted, List.nil_append]
    omega
  | failed nonempty fatal overdue => exact Nat.le_add_left 1 _
  | crashed nonempty => exact Nat.le_refl 1

/-- How often a transfer reads and writes, and how many blocks it forms. -/
structure History.Frugal (history : History Progress) (fresh : Bool) : Prop where
  reads : history.countP Entry.isRead ≤ history.delivered.length +
    history.countP (Entry.readFailsBy [.interrupted]) + (history.blocksFrom fresh).length + 1
  writes : history.countP Entry.isWrite ≤ history.accepted.length +
    history.countP (Entry.writeFailsBy [.interrupted, .timedOut]) + 1
  blocks : (history.blocksFrom fresh).length ≤ history.delivered.length

theorem Fills.frugal {room : Nat} {block : Bytes} {outcome : Reply Unit}
    {history : History Progress} (fills : Fills room block outcome history) (fresh : Bool) :
    history.Frugal fresh where
  reads := by
    have most := fills.countP_isRead
    rw [fills.delivered]
    omega
  writes := by
    rw [fills.writeFree.countP]
    exact Nat.zero_le _
  blocks := by
    rw [History.blocksFrom_eq_nil fills.writeFree]
    exact Nat.zero_le _

/-- A block that is written to no end is the last one. -/
theorem Sends.frugal {room : Nat} {block : Bytes} {outcome : Reply Unit}
    {reading writing : History Progress} (positive : 0 < room)
    (fills : Fills room block (.gave ()) reading) (nonempty : block ≠ [])
    (sends : Sends forwarder observer block outcome writing) (fresh : Bool) :
    History.Frugal (reading ++ writing) fresh where
  reads := by
    have most := fills.countP_isRead
    rw [List.countP_append, List.countP_append, sends.readFree.countP, History.delivered_append,
      fills.delivered, List.length_append]
    omega
  writes := by
    have most := sends.countP_isWrite
    rw [List.countP_append, List.countP_append, fills.writeFree.countP, History.accepted_append,
      List.length_append]
    split at most <;> omega
  blocks := by
    have one := sends.blocksFrom_append nonempty []
    have some := List.length_pos_iff.2 nonempty
    rw [List.append_nil] at one
    rw [fills.blocksFrom_append positive, one, History.delivered_append, fills.delivered,
      List.length_append]
    exact Nat.le_trans some (Nat.le_add_right _ _)

/-- The calls of one block and those of all later ones. -/
theorem frugal_ofBlock {block : Bytes} {reading writing rest : History Progress}
    (fills : Fills forwarder.blockSize.bytes block (.gave ()) reading) (nonempty : block ≠ [])
    (sends : Sends forwarder observer block (.gave ()) writing) (later : rest.Frugal false)
    (fresh : Bool) :
    History.Frugal (.ofBlock observer block reading writing ++ rest) fresh where
  reads := by
    have most := fills.countP_isRead
    have others := later.reads
    have tail : History.ReadFree (observer.note (.blockSent block) ++
        observer.event (Progress.block block.length)) :=
      (observer.readFree_note _).append (observer.readFree_event _)
    rw [blocksFrom_ofBlock fills nonempty sends, History.delivered_append,
      delivered_ofBlock fills sends, List.length_append, List.length_cons]
    unfold History.ofBlock
    rw [List.countP_append, List.countP_append, List.countP_append, tail.countP,
      sends.readFree.countP, List.countP_append, List.countP_append, List.countP_append]
    omega
  writes := by
    have most := sends.countP_isWrite
    have others := later.writes
    have tail : History.WriteFree (observer.note (.blockSent block) ++
        observer.event (Progress.block block.length)) :=
      (observer.writeFree_note _).append (observer.writeFree_event _)
    rw [if_pos rfl, sends.accepted_of_gave] at most
    rw [History.accepted_append, accepted_ofBlock fills sends, List.length_append]
    unfold History.ofBlock
    rw [List.countP_append, List.countP_append, List.countP_append, tail.countP,
      fills.writeFree.countP, List.countP_append, List.countP_append, List.countP_append]
    omega
  blocks := by
    have some := List.length_pos_iff.2 nonempty
    have others := later.blocks
    rw [blocksFrom_ofBlock fills nonempty sends, History.delivered_append,
      delivered_ofBlock fills sends, List.length_append, List.length_cons]
    omega

theorem Copies.frugal {report : Report} {ending : Ending} {history : History Progress}
    (copies : Copies forwarder observer report ending history) (fresh : Bool) :
    history.Frugal fresh := by
  have positive := forwarder.blockSize.positive
  induction copies generalizing fresh with
  | ended fills => exact fills.frugal fresh
  | readFailed fills => exact fills.frugal fresh
  | readCrashed fills => exact fills.frugal fresh
  | writeFailed fills nonempty sends => exact sends.frugal positive fills nonempty fresh
  | writeCrashed fills nonempty sends => exact sends.frugal positive fills nonempty fresh
  | block fills nonempty sends rest inductionHypothesis =>
    exact frugal_ofBlock fills nonempty sends (inductionHypothesis false) fresh

theorem Transfers.frugal {ending : Ending} {history : History Progress}
    (transfers : Transfers forwarder observer ending history) : history.Frugal true := by
  cases transfers with
  | refused short => exact ⟨Nat.zero_le _, Nat.zero_le _, Nat.zero_le _⟩
  | stopped enough copies stops => exact copies.frugal true
  | @settled report ending copying settling enough copies settles =>
    obtain ⟨reads, writes, blocks⟩ := copies.frugal true
    refine ⟨?_, ?_, ?_⟩
    · rw [List.countP_append, settles.readFree.countP, History.delivered_append,
        settles.readFree.delivered, List.append_nil,
        History.blocksFrom_append_of_writeFree settles.writeFree, List.countP_append]
      omega
    · rw [List.countP_append, settles.writeFree.countP, History.accepted_append,
        settles.writeFree.accepted, List.append_nil, List.countP_append]
      omega
    · rw [History.blocksFrom_append_of_writeFree settles.writeFree, History.delivered_append,
        settles.readFree.delivered, List.append_nil]
      exact blocks

end Counts

/-! ### The steps that are met -/

/-- A read meets the first step of the script, if there is one, and fails if the step says so. -/
theorem Source.read_steps (source : Source) (room : Nat) :
    ∃ steps, source.script = steps ++ (source.read room).1.script ∧
      ∀ kinds, List.countP (Entry.readFailsBy kinds)
        [(.read room (source.read room).2 : Entry Empty)] =
          steps.countP (Step.failsBy kinds) := by
  obtain ⟨pending, script, cap⟩ := source
  cases script with
  | nil => exact ⟨[], rfl, fun _ => rfl⟩
  | cons step rest =>
    cases step with
    | upTo count => exact ⟨[.upTo count], rfl, fun _ => rfl⟩
    | fail fault => exact ⟨[.fail fault], rfl, fun _ => rfl⟩
    | crash => exact ⟨[.crash], rfl, fun _ => rfl⟩

/-- A write meets the first step of the script, if there is one, and fails if the step says so. -/
theorem Link.write_steps (link : Link) (offered : Bytes) (elapsed : Nat) :
    ∃ steps, link.writes = steps ++ (link.write offered).1.writes ∧
      ∀ kinds, List.countP (Entry.writeFailsBy kinds)
        [(.write offered (link.write offered).2 elapsed : Entry Empty)] =
          steps.countP (Step.failsBy kinds) := by
  obtain ⟨writes, flushes, cap⟩ := link
  cases writes with
  | nil => exact ⟨[], rfl, fun _ => rfl⟩
  | cons step rest =>
    cases step with
    | upTo count => exact ⟨[.upTo count], rfl, fun _ => rfl⟩
    | fail fault => exact ⟨[.fail fault], rfl, fun _ => rfl⟩
    | crash => exact ⟨[.crash], rfl, fun _ => rfl⟩

theorem Link.flush_writes (link : Link) : (link.flush).1.writes = link.writes := by
  unfold flush
  split <;> rfl

namespace Copying

variable {forwarder : Forwarder} {copying middle next : Copying Link}
  {first second calls : History Empty} {reads moreReads writes moreWrites : List Step}

/-- Whether some calls meet these steps of the scripts for reading and writing, and fail as often as
the steps say. -/
structure Meets (copying next : Copying Link) (calls : History Empty) (reads writes : List Step) :
    Prop where
  read : copying.source.script = reads ++ next.source.script
  written : copying.port.writes = writes ++ next.port.writes
  readFailures : ∀ kinds,
    calls.countP (Entry.readFailsBy kinds) = reads.countP (Step.failsBy kinds)
  writeFailures : ∀ kinds,
    calls.countP (Entry.writeFailsBy kinds) = writes.countP (Step.failsBy kinds)

theorem Meets.append (earlier : Meets copying middle first reads writes)
    (later : Meets middle next second moreReads moreWrites) :
    Meets copying next (first ++ second) (reads ++ moreReads) (writes ++ moreWrites) where
  read := by rw [earlier.read, later.read, List.append_assoc]
  written := by rw [earlier.written, later.written, List.append_assoc]
  readFailures kinds := by
    rw [List.countP_append, List.countP_append, earlier.readFailures, later.readFailures]
  writeFailures kinds := by
    rw [List.countP_append, List.countP_append, earlier.writeFailures, later.writeFailures]

/-- A call meets a step of one script at most. -/
theorem meets_call {entry : Entry Empty} (made : call? forwarder copying = some (entry, next)) :
    ∃ reads writes, Meets copying next [entry] reads writes := by
  obtain ⟨standing, source, link⟩ := copying
  cases standing with
  | filling report taken =>
    cases made
    obtain ⟨steps, script, failures⟩ := source.read_steps (forwarder.blockSize.bytes - taken.length)
    exact ⟨steps, [], script, rfl, failures, fun _ => rfl⟩
  | sending report block pending started =>
    cases made
    obtain ⟨steps, script, failures⟩ := link.write_steps pending _
    exact ⟨[], steps, rfl, script, fun _ => rfl, failures⟩
  | draining report =>
    cases made
    exact ⟨[], [], rfl, link.flush_writes.symm, fun _ => rfl, fun _ => rfl⟩
  | settling report =>
    cases made
    exact ⟨[], [], rfl, link.flush_writes.symm, fun _ => rfl, fun _ => rfl⟩
  | done ending => cases made

theorem Leads.meets (leads : Leads forwarder copying calls next) :
    ∃ reads writes, Meets copying next calls reads writes := by
  induction leads with
  | stay => exact ⟨[], [], rfl, rfl, fun _ => rfl, fun _ => rfl⟩
  | call made rest inductionHypothesis =>
    obtain ⟨reads, writes, one⟩ := meets_call made
    obtain ⟨moreReads, moreWrites, others⟩ := inductionHypothesis
    exact ⟨reads ++ moreReads, writes ++ moreWrites, one.append others⟩

end Copying

/-! ### Every transfer ends -/

/-- Whoever is told of a transfer, it flushes at most twice. -/
theorem length_flushings_le {π : Type} [Port π] (forwarder : Forwarder) (observer : Observer)
    (source : Source) (port : π) :
    (forwarder.transfer observer source port).history.flushings.length ≤ 2 := by
  have listening := transfer_transfers forwarder { observer with events := true } source port
  have same := (transfer_observer forwarder observer { observer with events := true } source
    port).2.2.2
  rw [← History.flushings_calls, ← same, History.flushings_calls]
  exact (listening.flushings rfl).2.1

/-- Every transfer ends. Making one call after the other, as the answer before demands it, leads to
the ending of the transfer, and every sequence of calls that can be made is a beginning of the calls
that lead there; how many these are is bounded by the input and the scripts. There are no more reads
than bytes that they delivered, steps of the script that interrupted them, and blocks that were
formed, and one more; no more writes than bytes that were accepted and steps of the script by which
they were interrupted or late, and one more; and no more than two flushes. -/
theorem transfer_halts (forwarder : Forwarder) (observer : Observer) (source : Source)
    (link : Link) :
    let run := forwarder.transfer observer source link
    let calls := run.history.calls
    let start := Copying.start forwarder source link
    Copying.Leads forwarder start calls ⟨.done run.ending, run.source, run.port⟩ ∧
    (∀ made next, Copying.Leads forwarder start made next → made <+: calls) ∧
    calls.length ≤ 3 * source.pending.length + source.script.length + link.writes.length + 4 ∧
    ∃ reads writes, source.script = reads ++ run.source.script ∧
      link.writes = writes ++ run.port.writes ∧
      calls.countP Entry.isRead ≤ run.history.delivered.length +
        reads.countP (Step.failsBy [.interrupted]) + run.history.blocks.length + 1 ∧
      calls.countP Entry.isWrite ≤ run.history.accepted.length +
        writes.countP (Step.failsBy [.interrupted, .timedOut]) + 1 ∧
      calls.flushings.length ≤ 2 := by
  intro run calls start
  have leads : Copying.Leads forwarder start calls ⟨.done run.ending, run.source, run.port⟩ :=
    Copying.leads_transfer forwarder observer source link
  obtain ⟨reads, writes, meets⟩ := leads.meets
  have transfers := transfer_transfers forwarder observer source link
  have frugal : run.history.Frugal true := transfers.frugal
  have script : source.script = reads ++ run.source.script := by
    rw [← meets.read, Copying.start_source]
  have written : link.writes = writes ++ run.port.writes := by
    rw [← meets.written, Copying.start_port]
  have fewReads : calls.countP Entry.isRead ≤ run.history.delivered.length +
      reads.countP (Step.failsBy [.interrupted]) + run.history.blocks.length + 1 := by
    rw [← meets.readFailures, History.countP_readFailsBy_calls, History.countP_isRead_calls]
    exact frugal.reads
  have fewWrites : calls.countP Entry.isWrite ≤ run.history.accepted.length +
      writes.countP (Step.failsBy [.interrupted, .timedOut]) + 1 := by
    rw [← meets.writeFailures, History.countP_writeFailsBy_calls, History.countP_isWrite_calls]
    exact frugal.writes
  have fewFlushes : calls.flushings.length ≤ 2 := by
    rw [History.flushings_calls]
    exact length_flushings_le forwarder observer source link
  refine ⟨leads, fun made next => leads.prefix_of_done rfl, ?_, reads, writes, script, written,
    fewReads, fewWrites, fewFlushes⟩
  -- Each byte is read, formed into a block and accepted once, and each step is met once.
  have taken : run.history.delivered.length + run.source.pending.length =
      source.pending.length := by
    rw [← List.length_append, transfer_taken forwarder observer source link]
  obtain ⟨lost, split, _⟩ : ∃ lost, run.history.delivered = run.history.accepted ++ lost ∧ _ :=
    transfers.integrity
  have accepted : run.history.accepted.length + lost.length = run.history.delivered.length := by
    rw [split, List.length_append]
  have blocks : run.history.blocks.length ≤ run.history.delivered.length := frugal.blocks
  have readSteps : reads.countP (Step.failsBy [.interrupted]) ≤ reads.length :=
    List.countP_le_length
  have writeSteps : writes.countP (Step.failsBy [.interrupted, .timedOut]) ≤ writes.length :=
    List.countP_le_length
  have all : calls.length = calls.countP Entry.isRead + calls.countP Entry.isWrite +
      calls.flushings.length := by
    rw [History.length_calls, History.countP_isRead_calls, History.countP_isWrite_calls,
      History.flushings_calls]
  rw [script, written, List.length_append, List.length_append]
  omega

end SerialFeed
