/-
This file holds the transfer of an input stream to a port. The input is cut into blocks: each block
is filled completely before it is written, so that only a block at which the input ran dry can be
short, and an empty block is the end. After the end come a flush, a pause in which the output
settles, and a second flush. The first call that fails for good ends the transfer, and what was
written stays written.

An interrupted call is tried again. A write that the port could not take in time is tried again too,
as long as the deadline of its block, if there is one, has not passed.
-/

import SerialFeed.Config
import SerialFeed.Writing

namespace SerialFeed

/-- What an observer of a transfer is told. -/
inductive Progress where
  /-- A block of so many bytes was accepted by the port. -/
  | block (size : Nat)
  /-- The input has ended and the first flush is done. -/
  | settling
  deriving DecidableEq, Repr

/-! ### Filling a block -/

/-- A block as far as it could be filled. -/
structure Filling where
  source : Source
  block : Bytes
  outcome : Reply Unit
  history : History Progress

namespace Filling

/-- The filling that begins with one more read. -/
def after (entry : Entry Progress) (filling : Filling) : Filling :=
  { filling with
    block := entry.delivered ++ filling.block
    history := entry :: filling.history }

end Filling

/-- Reads until a block has taken `room` more bytes or the source has none to give. -/
def readBlock (source : Source) (room : Nat) : Filling :=
  if room = 0 then ⟨source, [], .gave (), []⟩
  else
    match _ : source.read room with
    | (next, .gave []) => ⟨next, [], .gave (), [.read room (.gave [])]⟩
    | (next, .gave (first :: others)) =>
      (readBlock next (room - (first :: others).length)).after
        (.read room (.gave (first :: others)))
    | (next, .failed fault) =>
      if fault.kind = .interrupted then (readBlock next room).after (.read room (.failed fault))
      else ⟨next, [], .failed fault, [.read room (.failed fault)]⟩
    | (next, .crashed) => ⟨next, [], .crashed, [.read room .crashed]⟩
termination_by room + source.script.length
decreasing_by
  · rename_i answer
    have fewer := Source.read_script_le source room
    rw [answer] at fewer
    have positive : 0 < (first :: others).length := Nat.succ_pos _
    dsimp only at fewer
    omega
  · rename_i answer _
    have fewer := Source.read_script_lt (congrArg Prod.snd answer)
    rw [answer] at fewer
    exact Nat.add_lt_add_left fewer room

/-- Filling a block begins with one read, and the answer says how it goes on. -/
theorem readBlock_eq (source : Source) {room : Nat} (positive : 0 < room) :
    readBlock source room =
      match source.read room with
      | (next, .gave []) => ⟨next, [], .gave (), [.read room (.gave [])]⟩
      | (next, .gave (first :: others)) =>
        (readBlock next (room - (first :: others).length)).after
          (.read room (.gave (first :: others)))
      | (next, .failed fault) =>
        if fault.kind = .interrupted then (readBlock next room).after (.read room (.failed fault))
        else ⟨next, [], .failed fault, [.read room (.failed fault)]⟩
      | (next, .crashed) => ⟨next, [], .crashed, [.read room .crashed]⟩ := by
  rw [readBlock, if_neg (Nat.ne_of_gt positive)]
  split <;> rename_i answer <;> simp only [answer]

/-- Filling a block takes away from the source exactly the bytes of the block. -/
theorem readBlock_pending (source : Source) (room : Nat) :
    (readBlock source room).block ++ (readBlock source room).source.pending = source.pending := by
  fun_induction readBlock source room with
  | case1 => rfl
  | case2 source room nonzero next answer =>
    simpa [answer, Entry.delivered] using Source.read_pending source room
  | case3 source room nonzero next first others answer inductionHypothesis =>
    have taken := Source.read_pending source room
    rw [answer] at taken
    rw [← taken, ← inductionHypothesis]
    simp [Filling.after, Entry.delivered]
  | case4 source room nonzero next fault answer interrupted inductionHypothesis =>
    have taken := Source.read_pending source room
    rw [answer] at taken
    simpa [Filling.after, Entry.delivered] using inductionHypothesis.trans taken
  | case5 source room nonzero next fault answer =>
    simpa [answer, Entry.delivered] using Source.read_pending source room
  | case6 source room nonzero next answer =>
    simpa [answer, Entry.delivered] using Source.read_pending source room

/-- A block that is not empty leaves less to be read. -/
theorem readBlock_pending_lt {source : Source} {room : Nat}
    (nonempty : (readBlock source room).block ≠ []) :
    (readBlock source room).source.pending.length < source.pending.length := by
  have lengths := congrArg List.length (readBlock_pending source room)
  have positive := List.length_pos_iff.2 nonempty
  rw [List.length_append] at lengths
  omega

/-! ### Writing a block -/

/-- The failure of a block whose port accepts nothing. -/
def refusedBlock : Fault :=
  Fault.ofKind .writeZero

/-- Writes until the port has accepted all bytes of a block, which was begun at some moment. -/
def writeBlock {π : Type} [Port π] (forwarder : Forwarder) (observer : Observer) (started : Nat)
    (port : π) (block : Bytes) : Writing π Progress :=
  if block = [] then ⟨port, .gave (), []⟩
  else
    match answer : Port.write port block with
    | (next, .gave 0) =>
      ⟨next, .failed refusedBlock, [.write block (.gave 0) (Port.since next started)]⟩
    | (next, .gave (count + 1)) =>
      (writeBlock forwarder observer started next (block.drop (count + 1))).after
        (.write block (.gave (count + 1)) (Port.since next started))
    | (next, .failed fault) =>
      let entry := .write block (.failed fault) (Port.since next started)
      if fault.kind = .interrupted then
        (writeBlock forwarder observer started next block).after entry
      else if fault.kind = .timedOut ∧ forwarder.mayWait (Port.since next started) then
        let rest := writeBlock forwarder observer started next block
        { rest with
          history := entry :: (observer.note (.portBusy block.length) ++ rest.history) }
      else ⟨next, .failed fault, [entry]⟩
    | (next, .crashed) => ⟨next, .crashed, [.write block .crashed (Port.since next started)]⟩
termination_by (block.length, Port.patience port)
decreasing_by
  · rename_i nonempty
    have := List.length_pos_iff.2 nonempty
    simp only [Prod.lex_def, List.length_drop]
    omega
  · have fewer := Port.patience_lt (congrArg Prod.snd answer)
    rw [answer] at fewer
    exact Prod.Lex.right _ fewer
  · have fewer := Port.patience_lt (congrArg Prod.snd answer)
    rw [answer] at fewer
    exact Prod.Lex.right _ fewer

/-- Writing a block begins with one write, and the answer says how it goes on. -/
theorem writeBlock_eq {π : Type} [Port π] (forwarder : Forwarder) (observer : Observer)
    (started : Nat) (port : π) {block : Bytes} (nonempty : block ≠ []) :
    writeBlock forwarder observer started port block =
      match Port.write port block with
      | (next, .gave 0) =>
        ⟨next, .failed refusedBlock, [.write block (.gave 0) (Port.since next started)]⟩
      | (next, .gave (count + 1)) =>
        (writeBlock forwarder observer started next (block.drop (count + 1))).after
          (.write block (.gave (count + 1)) (Port.since next started))
      | (next, .failed fault) =>
        let entry := .write block (.failed fault) (Port.since next started)
        if fault.kind = .interrupted then
          (writeBlock forwarder observer started next block).after entry
        else if fault.kind = .timedOut ∧ forwarder.mayWait (Port.since next started) then
          let rest := writeBlock forwarder observer started next block
          { rest with
            history := entry :: (observer.note (.portBusy block.length) ++ rest.history) }
        else ⟨next, .failed fault, [entry]⟩
      | (next, .crashed) => ⟨next, .crashed, [.write block .crashed (Port.since next started)]⟩ := by
  rw [writeBlock, if_neg nonempty]
  split <;> rename_i answer <;> simp only [answer]

/-! ### The transfer -/

/-- How a transfer ends. -/
inductive Ending where
  | sent (report : Report)
  | failed (error : ForwardError)
  /-- A device crashed and took the transfer with it. -/
  | crashed
  deriving DecidableEq

/-- A transfer that was carried out: what is left of its devices, how it ended and its history. -/
structure Run (π : Type) where
  source : Source
  port : π
  ending : Ending
  history : History Progress

namespace Forwarder

variable {π : Type} [Port π]

/-- Copies block after block until the input has ended; `report` counts the blocks before. -/
def copyBlocks (forwarder : Forwarder) (observer : Observer) (source : Source) (port : π)
    (report : Report) : Run π :=
  let filling := readBlock source forwarder.blockSize.bytes
  match filling.outcome with
  | .failed fault => ⟨filling.source, port, .failed (.readFailed fault), filling.history⟩
  | .crashed => ⟨filling.source, port, .crashed, filling.history⟩
  | .gave () =>
    if filling.block = [] then ⟨filling.source, port, .sent report, filling.history⟩
    else
      let writing := writeBlock forwarder observer (Port.clock port) port filling.block
      let history := filling.history ++ writing.history
      match writing.outcome with
      | .failed fault => ⟨filling.source, writing.port, .failed (.writeFailed fault), history⟩
      | .crashed => ⟨filling.source, writing.port, .crashed, history⟩
      | .gave () =>
        let rest := copyBlocks forwarder observer filling.source writing.port
          (report.add filling.block)
        { rest with
          history := history ++ (observer.note (.blockSent filling.block) ++
            (observer.event (.block filling.block.length) ++ rest.history)) }
termination_by source.pending.length
decreasing_by
  rename_i nonempty
  exact readBlock_pending_lt nonempty

/-- Flushes, lets the output settle and flushes again. -/
def settleOutput (forwarder : Forwarder) (observer : Observer) (source : Source) (port : π)
    (report : Report) : Run π :=
  let start := observer.note (.inputExhausted report)
  match Port.flush port with
  | (next, .failed fault) =>
    ⟨source, next, .failed (.flushFailed fault), start ++ [.flush (.failed fault)]⟩
  | (next, .crashed) => ⟨source, next, .crashed, start ++ [.flush .crashed]⟩
  | (next, .gave ()) =>
    let history := start ++ .flush (.gave ()) ::
      (observer.event .settling ++ [.pause forwarder.settle])
    match Port.flush next with
    | (last, .failed fault) =>
      ⟨source, last, .failed (.flushFailed fault), history ++ [.flush (.failed fault)]⟩
    | (last, .crashed) => ⟨source, last, .crashed, history ++ [.flush .crashed]⟩
    | (last, .gave ()) => ⟨source, last, .sent report, history ++ [.flush (.gave ())]⟩

/-- Sends all of a source to a port. The buffer for a block is reserved before anything is read. -/
def transfer (forwarder : Forwarder) (observer : Observer) (source : Source) (port : π) : Run π :=
  let size := forwarder.blockSize.bytes
  match Shortage.ofSize? size with
  | some shortage => ⟨source, port, .failed (.bufferFailed size shortage), []⟩
  | none =>
    let copied := forwarder.copyBlocks observer source port {}
    match copied.ending with
    | .sent report =>
      let settled := forwarder.settleOutput observer copied.source copied.port report
      { settled with history := copied.history ++ settled.history }
    | _ => copied

/-- Carries out a transfer for each forwarder, one after the other, each with what the one before
has left of the source and the port. -/
def transferEach (observer : Observer) (source : Source) (port : π) :
    List Forwarder → List (Run π)
  | [] => []
  | forwarder :: rest =>
    let run := forwarder.transfer observer source port
    run :: transferEach observer run.source run.port rest

/-- Carries out so many transfers one after the other. -/
def transfers (forwarder : Forwarder) (observer : Observer) (source : Source) (port : π)
    (count : Nat) : List (Run π) :=
  transferEach observer source port (List.replicate count forwarder)

end Forwarder

end SerialFeed
