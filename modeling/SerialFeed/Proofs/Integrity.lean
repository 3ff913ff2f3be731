/-
This file shows what becomes of the bytes of an input. Whatever a source and a port answer, what a
transfer has read is what the port has accepted, in the same order, followed by the bytes that are
lost: none when everything was sent or a flush failed, less than a block when a read failed, and
some part of one block, but not nothing, when a write failed. The next transfer begins where the
last read of the one before has ended, so over any number of transfers the accepted bytes are the
input with exactly these pieces cut out.
-/

import Mathlib.Data.List.Forall2
import SerialFeed.Proofs.Buffer
import SerialFeed.Proofs.Stepwise

namespace SerialFeed

/-! ### The bytes of one transfer -/

/-- How much a transfer may lose that cuts its input into blocks of some size. A transfer ends in no
other way than those that are told apart here. -/
def Ending.Loses (size : BlockSize) (lost : Bytes) : Ending → Prop
  | .sent _ => lost = []
  | .failed (.bufferFailed ..) => lost = []
  | .failed (.readFailed _) => lost.length < size.bytes
  | .failed (.writeFailed _) => 0 < lost.length ∧ lost.length ≤ size.bytes
  | .failed (.flushFailed _) => lost = []
  | .failed _ => False
  | .crashed => lost.length ≤ size.bytes

variable {forwarder : Forwarder} {observer : Observer}

theorem Copies.integrity {report : Report} {ending : Ending} {history : History Progress}
    (copies : Copies forwarder observer report ending history) :
    ∃ lost, history.delivered = history.accepted ++ lost ∧
      ending.Loses forwarder.blockSize lost := by
  induction copies with
  | ended fills => exact ⟨[], by rw [fills.delivered, fills.accepted, List.nil_append], rfl⟩
  | @readFailed _ block _ _ fills =>
    exact ⟨block, by rw [fills.delivered, fills.accepted, List.nil_append], fills.length_lt nofun⟩
  | @readCrashed _ block _ fills =>
    exact ⟨block, by rw [fills.delivered, fills.accepted, List.nil_append], fills.length_le⟩
  | writeFailed fills nonempty sends =>
    obtain ⟨lost, split, whole⟩ := sends.accepted
    have some : lost ≠ [] := fun none => nomatch whole.1 none
    have fits := fills.length_le
    refine ⟨lost, ?_, List.length_pos_iff.2 some, ?_⟩
    · rw [History.delivered_append, History.accepted_append, fills.delivered, fills.accepted,
        sends.delivered, List.append_nil, List.nil_append, ← split]
    · rw [split, List.length_append] at fits
      omega
  | writeCrashed fills nonempty sends =>
    obtain ⟨lost, split, whole⟩ := sends.accepted
    have fits := fills.length_le
    refine ⟨lost, ?_, ?_⟩
    · rw [History.delivered_append, History.accepted_append, fills.delivered, fills.accepted,
        sends.delivered, List.append_nil, List.nil_append, ← split]
    · show lost.length ≤ _
      rw [split, List.length_append] at fits
      omega
  | block fills nonempty sends rest inductionHypothesis =>
    obtain ⟨lost, split, bound⟩ := inductionHypothesis
    refine ⟨lost, ?_, bound⟩
    rw [History.delivered_append, History.accepted_append, delivered_ofBlock fills sends,
      accepted_ofBlock fills sends, split, List.append_assoc]

namespace Settles

variable {report : Report} {ending : Ending} {history : History Progress}

/-- Nothing can get lost any more. -/
theorem loses (settles : Settles forwarder observer report ending history) :
    ending.Loses forwarder.blockSize [] := by
  have ofFlush : ∀ reply, (Ending.ofFlush report reply).Loses forwarder.blockSize [] := by
    intro reply
    cases reply with
    | gave => rfl
    | failed fault => rfl
    | crashed => exact Nat.zero_le _
  cases settles with
  | stopped reply stops => exact ofFlush reply
  | settled reply => exact ofFlush reply

end Settles

theorem Transfers.integrity {ending : Ending} {history : History Progress}
    (transfers : Transfers forwarder observer ending history) :
    ∃ lost, history.delivered = history.accepted ++ lost ∧
      ending.Loses forwarder.blockSize lost := by
  cases transfers with
  | refused short => exact ⟨[], rfl, rfl⟩
  | stopped enough copies stops => exact copies.integrity
  | settled enough copies settles =>
    obtain ⟨lost, split, none⟩ := copies.integrity
    refine ⟨[], ?_, settles.loses⟩
    rw [History.delivered_append, History.accepted_append, settles.readFree.delivered,
      settles.writeFree.accepted,
      split, show lost = [] from none]

/-! ### What is left of the source -/

variable {π : Type} [Port π]

theorem readBlock_taken (source : Source) (room : Nat) :
    (readBlock source room).history.delivered ++ (readBlock source room).source.pending =
      source.pending := by
  rw [(readBlock_fills source room).delivered]
  exact readBlock_pending source room

theorem copyBlocks_taken (forwarder : Forwarder) (observer : Observer) (source : Source) (port : π)
    (report : Report) :
    (forwarder.copyBlocks observer source port report).history.delivered ++
        (forwarder.copyBlocks observer source port report).source.pending = source.pending := by
  fun_induction Forwarder.copyBlocks forwarder observer source port report with
  | case1 source port report filling fault outcome => exact readBlock_taken source _
  | case2 source port report filling outcome => exact readBlock_taken source _
  | case3 source port report filling outcome empty => exact readBlock_taken source _
  | case4 source port report filling read nonempty writing history fault outcome =>
    show (filling.history ++ writing.history).delivered ++ filling.source.pending = _
    rw [History.delivered_append, (writeBlock_sends ..).delivered, List.append_nil]
    exact readBlock_taken source _
  | case5 source port report filling read nonempty writing history outcome =>
    show (filling.history ++ writing.history).delivered ++ filling.source.pending = _
    rw [History.delivered_append, (writeBlock_sends ..).delivered, List.append_nil]
    exact readBlock_taken source _
  | case6 source port report filling read nonempty writing history outcome rest
      inductionHypothesis =>
    calc
      _ = filling.history.delivered ++ (rest.history.delivered ++ rest.source.pending) := by
        simp only [history, writing, History.delivered_append, Observer.delivered_note,
          Observer.delivered_event, (writeBlock_sends ..).delivered, List.nil_append,
          List.append_assoc]
      _ = filling.history.delivered ++ filling.source.pending := by rw [inductionHypothesis]
      _ = source.pending := readBlock_taken source _

theorem settleOutput_source (forwarder : Forwarder) (observer : Observer) (source : Source)
    (port : π) (report : Report) :
    (forwarder.settleOutput observer source port report).source = source := by
  unfold Forwarder.settleOutput
  dsimp only
  split
  · rfl
  · rfl
  · split <;> rfl

/-- A transfer takes away from its source exactly what it reads. -/
theorem transfer_taken (forwarder : Forwarder) (observer : Observer) (source : Source) (port : π) :
    (forwarder.transfer observer source port).history.delivered ++
        (forwarder.transfer observer source port).source.pending = source.pending := by
  have copied := copyBlocks_taken forwarder observer source port {}
  unfold Forwarder.transfer
  dsimp only
  split
  · rfl
  · split
    · dsimp only
      rw [History.delivered_append, (settleOutput_settles ..).readFree.delivered, List.append_nil,
        settleOutput_source]
      exact copied
    · exact copied

/-! ### The bytes of many transfers -/

/-- What runs that began at a source have left of it. -/
def leftBy (source : Source) (runs : List (Run π)) : Source :=
  (runs.getLast?.map Run.source).getD source

omit [Port π] in
theorem leftBy_cons (source : Source) (run : Run π) (runs : List (Run π)) :
    leftBy source (run :: runs) = leftBy run.source runs := by
  unfold leftBy
  rw [List.getLast?_cons]
  cases runs.getLast? <;> rfl

/-- The account of a run: what was read is what was accepted, in the same order, and then what was
lost, which is no more than the ending allows. -/
def Run.Accounts (forwarder : Forwarder) (run : Run π) (lost : Bytes) : Prop :=
  run.history.delivered = run.history.accepted ++ lost ∧ run.ending.Loses forwarder.blockSize lost

/-- The pieces into which runs have taken their source apart: of each run, what was accepted and
behind it what was lost. -/
def piecesOf (runs : List (Run π)) (losses : List Bytes) : List Bytes :=
  List.zipWith (fun run lost => run.history.accepted ++ lost) runs losses

/-- All bytes that were accepted in some runs. -/
def writtenBy (runs : List (Run π)) : Bytes :=
  runs.flatMap fun run => run.history.accepted

omit [Port π] in
theorem length_piecesOf (runs : List (Run π)) (losses : List Bytes)
    (same : runs.length = losses.length) :
    (piecesOf runs losses).flatten.length = (writtenBy runs).length + losses.flatten.length := by
  induction runs generalizing losses with
  | nil =>
    obtain rfl := List.length_eq_zero_iff.1 same.symm
    rfl
  | cons run rest inductionHypothesis =>
    cases losses with
    | nil => cases same
    | cons lost losses =>
      have shorter := inductionHypothesis losses (Nat.succ.inj same)
      unfold piecesOf writtenBy at shorter ⊢
      simp only [List.zipWith_cons_cons, List.flatten_cons, List.flatMap_cons,
        List.length_append, shorter]
      omega

theorem length_transferEach (observer : Observer) (source : Source) (port : π)
    (forwarders : List Forwarder) :
    (Forwarder.transferEach observer source port forwarders).length = forwarders.length := by
  induction forwarders generalizing source port with
  | nil => rfl
  | cons forwarder rest inductionHypothesis =>
    rw [Forwarder.transferEach, List.length_cons, inductionHypothesis, List.length_cons]

/-- Runs one after the other take their source apart into what each of them wrote and lost, and what
the last of them has left. -/
theorem transferEach_accounts (observer : Observer) (source : Source) (port : π)
    (forwarders : List Forwarder) :
    ∃ losses : List Bytes,
      List.Forall₂ (fun pair lost => Run.Accounts pair.1 pair.2 lost)
        (forwarders.zip (Forwarder.transferEach observer source port forwarders)) losses ∧
      (piecesOf (Forwarder.transferEach observer source port forwarders) losses).flatten ++
          (leftBy source (Forwarder.transferEach observer source port forwarders)).pending =
        source.pending := by
  induction forwarders generalizing source port with
  | nil => exact ⟨[], .nil, rfl⟩
  | cons forwarder rest inductionHypothesis =>
    let run := forwarder.transfer observer source port
    obtain ⟨lost, account⟩ := (transfer_transfers forwarder observer source port).integrity
    obtain ⟨losses, accounts, pieces⟩ := inductionHypothesis run.source run.port
    refine ⟨lost :: losses, .cons account accounts, ?_⟩
    calc
      _ = (run.history.accepted ++ lost) ++
          ((piecesOf (Forwarder.transferEach observer run.source run.port rest) losses).flatten ++
            (leftBy run.source
              (Forwarder.transferEach observer run.source run.port rest)).pending) := by
        rw [Forwarder.transferEach, leftBy_cons, piecesOf, List.zipWith_cons_cons,
          List.flatten_cons, List.append_assoc]
        rfl
      _ = run.history.delivered ++ run.source.pending := by rw [pieces, ← account.1]
      _ = source.pending := transfer_taken forwarder observer source port

/-- No byte is doubled, moved or made up, whatever the devices answer. What one transfer reads is
what the port accepts, in the same order, and then what its ending loses, and nothing that the block
buffer held before gets between. Over any number of transfers on one source and one port, the source
is what was written, with each loss at its place, and what is left. What is said to be read and
accepted is what these devices gave and took when they were called. -/
theorem transfer_integrity (forwarder : Forwarder) (observer : Observer) (source : Source)
    (port : π) :
    (forwarder.transfer observer source port).AnsweredBy source port ∧
      (∃ lost, (forwarder.transfer observer source port).Accounts forwarder lost) ∧
      (∀ stale : Bytes, stale.length = forwarder.blockSize.bytes →
        forwarder.copyThrough observer source port stale {} =
          forwarder.copyBlocks observer source port {}) ∧
      ∀ forwarders : List Forwarder,
        let runs := Forwarder.transferEach observer source port forwarders
        AnsweredInTurn source port runs ∧
        ∃ losses : List Bytes,
          List.Forall₂ (fun pair lost => Run.Accounts pair.1 pair.2 lost) (forwarders.zip runs)
            losses ∧
          (piecesOf runs losses).flatten ++ (leftBy source runs).pending = source.pending ∧
          (writtenBy runs).length + losses.flatten.length + (leftBy source runs).pending.length =
            source.pending.length := by
  refine ⟨transfer_answered forwarder observer source port,
    (transfer_transfers forwarder observer source port).integrity,
    fun stale fits => Forwarder.copyThrough_eq forwarder observer source port stale {} fits,
    fun forwarders => ⟨transferEach_answered observer source port forwarders, ?_⟩⟩
  obtain ⟨losses, accounts, pieces⟩ := transferEach_accounts observer source port forwarders
  refine ⟨losses, accounts, pieces, ?_⟩
  have lengths := accounts.length_eq
  rw [List.length_zip, length_transferEach, Nat.min_self] at lengths
  rw [← length_piecesOf _ losses ((length_transferEach ..).trans lengths), ← List.length_append,
    pieces]

end SerialFeed
