/-
This file holds the events and the report of a transfer against its bytes. A block is reported and
counted when the port has taken all of it, but the port takes it piece by piece, so between two
events there is a block of which some part has been accepted already. Only a write that fails for
good can leave such a block behind. However else a transfer ends, the port has accepted exactly the
blocks that were reported, and if everything was sent the report holds their number and their sizes.

A report counts in words of 64 bits. No block is empty, so neither of its counts can be larger than
the number of bytes that were read, and an input of fewer than 2 ^ 64 bytes is counted exactly.
-/

import Mathlib.Algebra.Order.BigOperators.Group.List
import Mathlib.Algebra.Order.Group.Nat
import SerialFeed.Proofs.Blocks

namespace SerialFeed

/-! ### The sizes that are reported -/

/-- The size of a block that is reported. -/
def Progress.size? : Progress → Option Nat
  | block size => some size
  | settling => none

namespace History

/-- The sizes of the blocks that were reported. -/
def sizes (history : History Progress) : List Nat :=
  history.events.filterMap Progress.size?

theorem sizes_append (first second : History Progress) :
    sizes (first ++ second) = first.sizes ++ second.sizes := by
  unfold sizes
  rw [events_append, List.filterMap_append]

theorem sizes_of_events {history : History Progress} (silent : history.events = []) :
    history.sizes = [] := by
  rw [sizes, silent, List.filterMap_nil]

end History

section Sizes

variable {forwarder : Forwarder} {observer : Observer}

/-- An observer who listens is told the size of the block. -/
theorem sizes_ofBlock (listening : observer.events = true) {room : Nat} {block : Bytes}
    {reading writing : History Progress} (fills : Fills room block (.gave ()) reading)
    (sends : Sends forwarder observer block (.gave ()) writing) :
    (History.ofBlock observer block reading writing).sizes = [block.length] := by
  rw [History.sizes, events_ofBlock listening fills sends]
  rfl

/-- While the output settles, no block is reported. -/
theorem Settles.sizes {report : Report} {ending : Ending} {history : History Progress}
    (settles : Settles forwarder observer report ending history) : history.sizes = [] := by
  have settling : (observer.event .settling).sizes = [] := by
    refine List.filterMap_eq_nil_iff.2 fun reported member => ?_
    obtain ⟨entry, inEvents, same⟩ := List.mem_filterMap.1 member
    rw [Observer.eq_of_mem_event inEvents] at same
    cases same
    rfl
  have note : (observer.note (.inputExhausted report)).sizes = [] :=
    History.sizes_of_events (observer.events_note _)
  cases settles with
  | stopped reply stops =>
    rw [History.sizes_append, note]
    rfl
  | settled reply =>
    rw [History.sizes_append, History.sizes_append, note, List.nil_append, ← List.singleton_append,
      History.sizes_append, History.sizes_append, settling]
    rfl

end Sizes

/-! ### The tally of a transfer -/

/-- Whether a history is that of some blocks that were sent and reported, and maybe of one that was
begun, of which the port has accepted a part. -/
structure History.Tally (size : BlockSize) (fresh : Bool) (history : History Progress)
    (sent : List Bytes) (begun : Option Bytes) (taken : Bytes) : Prop where
  blocks : history.blocksFrom fresh = sent ++ begun.toList
  sizes : history.sizes = sent.map List.length
  accepted : history.accepted = sent.flatten ++ taken
  nonempty : ∀ block ∈ sent, block ≠ []
  short : ∀ block ∈ sent, block.length ≤ size.bytes

/-- Whether an ending leaves such a block behind: it does when a write has failed for good, and it
may when a device has crashed. -/
def Ending.Leaves (begun : Option Bytes) (taken : Bytes) : Ending → Prop
  | .failed (.writeFailed _) => ∃ block, begun = some block ∧ taken.length < block.length
  | .crashed => True
  | _ => begun = none ∧ taken = []

section Tally

variable {forwarder : Forwarder} {observer : Observer} {report : Report} {ending : Ending}
  {history : History Progress}

/-- A history without writes and events, when nothing was sent before. -/
theorem History.tally_of_writeFree {size : BlockSize} (free : history.WriteFree)
    (silent : history.events = []) (fresh : Bool) : history.Tally size fresh [] none [] where
  blocks := History.blocksFrom_eq_nil free fresh
  sizes := History.sizes_of_events silent
  accepted := free.accepted
  nonempty := nofun
  short := nofun

/-- A block that was begun, and of which the port has accepted some part only. -/
theorem Sends.tally {room : Nat} {block : Bytes} {outcome : Reply Unit}
    {reading writing : History Progress} {size : BlockSize} (positive : 0 < room)
    (fills : Fills room block (.gave ()) reading) (nonempty : block ≠ [])
    (sends : Sends forwarder observer block outcome writing) (stops : outcome ≠ .gave ())
    (fresh : Bool) :
    ∃ taken, History.Tally size fresh (reading ++ writing) [] (some block) taken ∧
      taken.length < block.length := by
  obtain ⟨lost, split, whole⟩ := sends.accepted
  have some : 0 < lost.length := List.length_pos_iff.2 fun none => stops (whole.1 none)
  have blocks := sends.blocksFrom_append nonempty []
  rw [List.append_nil] at blocks
  refine ⟨writing.accepted, ⟨?_, ?_, ?_, nofun, nofun⟩, ?_⟩
  · rw [fills.blocksFrom_append positive, blocks]
    rfl
  · rw [History.sizes_append, History.sizes_of_events fills.events,
      History.sizes_of_events sends.events]
    rfl
  · rw [History.accepted_append, fills.accepted]
    rfl
  · rw [split, List.length_append]
    omega

/-- Blocks are copied one by one, each counted and reported when it is sent. -/
theorem Copies.tally (copies : Copies forwarder observer report ending history)
    (listening : observer.events = true) (fresh : Bool) :
    ∃ sent begun taken, history.Tally forwarder.blockSize fresh sent begun taken ∧
      ending.Leaves begun taken ∧
      ∀ final, ending = .sent final → final = sent.foldl Report.add report := by
  have positive := forwarder.blockSize.positive
  induction copies generalizing fresh with
  | ended fills =>
    refine ⟨[], none, [], History.tally_of_writeFree fills.writeFree fills.events fresh,
      ⟨rfl, rfl⟩, ?_⟩
    rintro _ ⟨⟩
    rfl
  | readFailed fills =>
    exact ⟨[], none, [], History.tally_of_writeFree fills.writeFree fills.events fresh,
      ⟨rfl, rfl⟩, nofun⟩
  | readCrashed fills =>
    exact ⟨[], none, [], History.tally_of_writeFree fills.writeFree fills.events fresh,
      trivial, nofun⟩
  | @writeFailed _ block _ _ _ fills nonempty sends =>
    obtain ⟨taken, tally, part⟩ := sends.tally positive fills nonempty nofun fresh
    exact ⟨[], some block, taken, tally, ⟨block, rfl, part⟩, nofun⟩
  | @writeCrashed _ block _ _ fills nonempty sends =>
    obtain ⟨taken, tally, _⟩ := sends.tally positive fills nonempty nofun fresh
    exact ⟨[], some block, taken, tally, trivial, nofun⟩
  | @block report block _ _ _ _ fills nonempty sends rest inductionHypothesis =>
    obtain ⟨sent, begun, taken, tally, leaves, counted⟩ := inductionHypothesis false
    refine ⟨block :: sent, begun, taken, ⟨?_, ?_, ?_, ?_, ?_⟩, leaves, counted⟩
    · rw [blocksFrom_ofBlock fills nonempty sends, tally.blocks, List.cons_append]
    · rw [History.sizes_append, sizes_ofBlock listening fills sends, tally.sizes]
      rfl
    · rw [History.accepted_append, accepted_ofBlock fills sends, tally.accepted,
        List.flatten_cons, List.append_assoc]
    · exact List.forall_mem_cons.2 ⟨nonempty, tally.nonempty⟩
    · exact List.forall_mem_cons.2 ⟨fills.length_le, tally.short⟩

/-- Settling the output leaves nothing behind, and reports what was counted. -/
theorem Settles.leaves (settles : Settles forwarder observer report ending history) :
    ending.Leaves none [] ∧ ∀ final, ending = .sent final → final = report := by
  have ofFlush : ∀ reply, (Ending.ofFlush report reply).Leaves none [] ∧
      ∀ final, Ending.ofFlush report reply = .sent final → final = report := by
    intro reply
    cases reply with
    | gave =>
      refine ⟨⟨rfl, rfl⟩, ?_⟩
      rintro _ ⟨⟩
      rfl
    | failed fault => exact ⟨⟨rfl, rfl⟩, nofun⟩
    | crashed => exact ⟨trivial, nofun⟩
  cases settles with
  | stopped reply stops => exact ofFlush reply
  | settled reply => exact ofFlush reply

theorem Transfers.tally (transfers : Transfers forwarder observer ending history)
    (listening : observer.events = true) :
    ∃ sent begun taken, history.Tally forwarder.blockSize true sent begun taken ∧
      ending.Leaves begun taken ∧
      ∀ final, ending = .sent final → final = sent.foldl Report.add {} := by
  cases transfers with
  | refused short =>
    have free : History.WriteFree ([] : History Progress) :=
      fun _ member => absurd member List.not_mem_nil
    exact ⟨[], none, [], History.tally_of_writeFree free rfl true, ⟨rfl, rfl⟩, nofun⟩
  | stopped enough copies stops => exact copies.tally listening true
  | settled enough copies settles =>
    obtain ⟨sent, begun, taken, tally, ⟨rfl, rfl⟩, counted⟩ := copies.tally listening true
    obtain ⟨leaves, reported⟩ := settles.leaves
    refine ⟨sent, none, [], ⟨?_, ?_, ?_, tally.nonempty, tally.short⟩, leaves, ?_⟩
    · rw [History.blocksFrom_append_of_writeFree settles.writeFree, tally.blocks]
    · rw [History.sizes_append, settles.sizes, List.append_nil, tally.sizes]
    · rw [History.accepted_append, settles.writeFree.accepted, List.append_nil, tally.accepted]
    · intro final same
      rw [reported final same]
      exact counted _ rfl

namespace History.Tally

variable {size : BlockSize} {fresh : Bool} {sent : List Bytes} {begun : Option Bytes}
  {taken : Bytes}

/-- What was accepted is what was reported and the part of the block that was begun. -/
theorem length_accepted (tally : history.Tally size fresh sent begun taken) :
    history.accepted.length = history.sizes.sum + taken.length := by
  rw [tally.accepted, tally.sizes, List.length_append, List.length_flatten]

/-- Every reported size is the size of a block. -/
theorem size_mem (tally : history.Tally size fresh sent begun taken) {reported : Nat}
    (member : reported ∈ history.sizes) : 1 ≤ reported ∧ reported ≤ size.bytes := by
  rw [tally.sizes] at member
  obtain ⟨block, inSent, rfl⟩ := List.mem_map.1 member
  exact ⟨List.length_pos_iff.2 (tally.nonempty block inSent), tally.short block inSent⟩

/-- There are no more blocks than bytes, and no more bytes than fit into the blocks. -/
theorem sum_sizes (tally : history.Tally size fresh sent begun taken) :
    history.sizes.length ≤ history.sizes.sum ∧
      history.sizes.sum ≤ history.sizes.length * size.bytes := by
  have bounds : ∀ reported ∈ history.sizes, 1 ≤ reported ∧ reported ≤ size.bytes :=
    fun _ => tally.size_mem
  refine ⟨List.length_le_sum_of_one_le _ fun reported member => (bounds reported member).1, ?_⟩
  exact List.sum_le_card_nsmul _ _ fun reported member => (bounds reported member).2

end History.Tally

end Tally

/-- The events of a transfer tell what the port has accepted when it was called. Every size that is
reported is that of a block, neither empty nor larger than a block may be. If everything was sent,
the report holds the number of the blocks and the sum of their sizes, in words that do not wrap for
an input of fewer than 2 ^ 64 bytes, and the sum is what the port has accepted. If a read or a flush
failed, the port has accepted the reported blocks and nothing else. If a write failed, one block
more was handed to the port, which is not reported and of which the port has accepted less than the
whole. -/
theorem transfer_tally {π : Type} [Port π] (forwarder : Forwarder) (observer : Observer)
    (source : Source) (port : π) :
    let run := forwarder.transfer { observer with events := true } source port
    let sizes := run.history.sizes
    run.AnsweredBy source port ∧
    (∀ size ∈ sizes, 1 ≤ size ∧ size ≤ forwarder.blockSize.bytes) ∧
    (∀ report, run.ending = .sent report →
      report = ⟨UInt64.ofNat sizes.length, UInt64.ofNat sizes.sum⟩ ∧
      run.history.accepted.length = sizes.sum ∧
      sizes.length ≤ sizes.sum ∧ sizes.sum ≤ sizes.length * forwarder.blockSize.bytes ∧
      (source.pending.length < 2 ^ 64 →
        report.blocks.toNat = sizes.length ∧ report.bytes.toNat = sizes.sum)) ∧
    (∀ fault, run.ending = .failed (.readFailed fault) ∨ run.ending = .failed (.flushFailed fault) →
      run.history.accepted.length = sizes.sum) ∧
    ∀ fault, run.ending = .failed (.writeFailed fault) →
      ∃ sent block part, run.history.blocks = sent ++ [block] ∧ sizes = sent.map List.length ∧
        run.history.accepted.length = sizes.sum + part ∧ part < block.length := by
  intro run sizes
  have transfers := transfer_transfers forwarder { observer with events := true } source port
  obtain ⟨sent, begun, taken, tally, leaves, counted⟩ := transfers.tally rfl
  change run.ending.Leaves begun taken at leaves
  have accepted : run.history.accepted.length = sizes.sum + taken.length := tally.length_accepted
  refine ⟨transfer_answered _ _ source port, fun size => tally.size_mem, fun report same => ?_,
    fun fault same => ?_, fun fault same => ?_⟩
  · rw [same] at leaves
    obtain ⟨rfl, rfl⟩ := leaves
    have total : report = ⟨UInt64.ofNat sizes.length, UInt64.ofNat sizes.sum⟩ := by
      rw [counted report same, foldl_add, show sizes = _ from tally.sizes, List.length_map,
        ← List.length_flatten]
      exact congrArg₂ Report.mk (UInt64.zero_add _) (UInt64.zero_add _)
    obtain ⟨fewer, most⟩ : sizes.length ≤ sizes.sum ∧ sizes.sum ≤ _ := tally.sum_sizes
    refine ⟨total, accepted, fewer, most, fun input => ?_⟩
    have small : sizes.sum < 2 ^ 64 := by
      have rest := transfer_taken forwarder { observer with events := true } source port
      have lengths : run.history.delivered.length + run.source.pending.length =
          source.pending.length := by rw [← List.length_append, rest]
      obtain ⟨lost, read, _⟩ := transfers.integrity
      have parts : run.history.delivered.length = run.history.accepted.length + lost.length := by
        rw [← List.length_append, ← read]
      rw [List.length_nil] at accepted
      omega
    rw [total]
    exact ⟨UInt64.toNat_ofNat_of_lt (Nat.lt_of_le_of_lt fewer small),
      UInt64.toNat_ofNat_of_lt small⟩
  · have none : taken = [] := by
      rcases same with same | same
      · rw [same] at leaves
        exact leaves.2
      · rw [same] at leaves
        exact leaves.2
    rw [accepted, none, List.length_nil, Nat.add_zero]
  · rw [same] at leaves
    obtain ⟨block, rfl, part⟩ := leaves
    exact ⟨sent, block, taken.length, tally.blocks, tally.sizes, accepted, part⟩

end SerialFeed
