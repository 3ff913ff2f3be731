/-
This file copies an input through one buffer, which is made once and used again for block after
block. A read overwrites the front of what is left of the buffer, and what it does not reach keeps
the bytes of earlier blocks. The file shows that none of them ever gets out: whatever the buffer
holds at the beginning, the run is the one in which every block is a list of its own.
-/

import SerialFeed.Proofs.Course

namespace SerialFeed

/-! ### Filling a buffer again -/

/-- A buffer as far as it could be filled: the first `filled` of its bytes have been read, and those
behind them are old. -/
structure Refilling where
  source : Source
  buffer : Bytes
  filled : Nat
  outcome : Reply Unit
  history : History Progress

namespace Refilling

/-- The refilling that begins with one more read. -/
def after (entry : Entry Progress) (refilling : Refilling) : Refilling :=
  { refilling with
    buffer := entry.delivered ++ refilling.buffer
    filled := entry.delivered.length + refilling.filled
    history := entry :: refilling.history }

end Refilling

/-- Reads into a buffer until it is full or the source has none to give. -/
def refillBuffer (source : Source) (buffer : Bytes) : Refilling :=
  if buffer.length = 0 then ⟨source, buffer, 0, .gave (), []⟩
  else
    match _ : source.read buffer.length with
    | (next, .gave []) => ⟨next, buffer, 0, .gave (), [.read buffer.length (.gave [])]⟩
    | (next, .gave (first :: others)) =>
      (refillBuffer next (buffer.drop (first :: others).length)).after
        (.read buffer.length (.gave (first :: others)))
    | (next, .failed fault) =>
      if fault.kind = .interrupted then
        (refillBuffer next buffer).after (.read buffer.length (.failed fault))
      else ⟨next, buffer, 0, .failed fault, [.read buffer.length (.failed fault)]⟩
    | (next, .crashed) => ⟨next, buffer, 0, .crashed, [.read buffer.length .crashed]⟩
termination_by buffer.length + source.script.length
decreasing_by
  · rename_i answer
    have fewer := Source.read_script_le source buffer.length
    rw [answer] at fewer
    have positive : 0 < (first :: others).length := Nat.succ_pos _
    rw [List.length_drop]
    dsimp only at fewer
    omega
  · rename_i answer _
    have fewer := Source.read_script_lt (congrArg Prod.snd answer)
    rw [answer] at fewer
    exact Nat.add_lt_add_left fewer buffer.length

/-- Filling a buffer again puts a new block in front of what is left of the old content. -/
theorem refillBuffer_eq (source : Source) (buffer : Bytes) :
    refillBuffer source buffer =
      let filling := readBlock source buffer.length
      ⟨filling.source, filling.block ++ buffer.drop filling.block.length, filling.block.length,
        filling.outcome, filling.history⟩ := by
  fun_induction refillBuffer source buffer with
  | case1 source buffer empty =>
    rw [readBlock, if_pos empty]
    rfl
  | case2 source buffer nonzero next answer =>
    rw [readBlock_eq source (Nat.pos_of_ne_zero nonzero), answer]
    rfl
  | case3 source buffer nonzero next first others answer inductionHypothesis =>
    rw [readBlock_eq source (Nat.pos_of_ne_zero nonzero), answer, inductionHypothesis]
    simp [Refilling.after, Filling.after, Entry.delivered, Nat.add_right_comm]
  | case4 source buffer nonzero next fault answer again inductionHypothesis =>
    rw [readBlock_eq source (Nat.pos_of_ne_zero nonzero), answer, inductionHypothesis]
    simp [again, Refilling.after, Filling.after, Entry.delivered]
  | case5 source buffer nonzero next fault answer fatal =>
    rw [readBlock_eq source (Nat.pos_of_ne_zero nonzero), answer]
    simp [fatal]
  | case6 source buffer nonzero next answer =>
    rw [readBlock_eq source (Nat.pos_of_ne_zero nonzero), answer]
    rfl

/-- A buffer keeps its size. -/
theorem length_refillBuffer (source : Source) (buffer : Bytes) :
    (refillBuffer source buffer).buffer.length = buffer.length := by
  have fits := (readBlock_fills source buffer.length).length_le
  rw [refillBuffer_eq, List.length_append, List.length_drop]
  omega

/-- A refilling that has read something leaves less to be read. -/
theorem refillBuffer_pending_lt {source : Source} {buffer : Bytes}
    (nonempty : (refillBuffer source buffer).filled ≠ 0) :
    (refillBuffer source buffer).source.pending.length < source.pending.length := by
  rw [refillBuffer_eq] at nonempty ⊢
  exact readBlock_pending_lt (List.length_pos_iff.1 (Nat.pos_of_ne_zero nonempty))

/-! ### Copying through a buffer -/

namespace Forwarder

variable {π : Type} [Port π]

/-- Copies block after block through one buffer until the input has ended. What a refilling has read
is handed to the port as it stands in the buffer. -/
def copyThrough (forwarder : Forwarder) (observer : Observer) (source : Source) (port : π)
    (buffer : Bytes) (report : Report) : Run π :=
  let refilling := refillBuffer source buffer
  match refilling.outcome with
  | .failed fault => ⟨refilling.source, port, .failed (.readFailed fault), refilling.history⟩
  | .crashed => ⟨refilling.source, port, .crashed, refilling.history⟩
  | .gave () =>
    if refilling.filled = 0 then ⟨refilling.source, port, .sent report, refilling.history⟩
    else
      let block := refilling.buffer.take refilling.filled
      let writing := writeBlock forwarder observer (Port.clock port) port block
      let history := refilling.history ++ writing.history
      match writing.outcome with
      | .failed fault => ⟨refilling.source, writing.port, .failed (.writeFailed fault), history⟩
      | .crashed => ⟨refilling.source, writing.port, .crashed, history⟩
      | .gave () =>
        let rest := copyThrough forwarder observer refilling.source writing.port refilling.buffer
          (report.add block)
        { rest with
          history := history ++ (observer.note (.blockSent block) ++
            (observer.event (.block block.length) ++ rest.history)) }
termination_by source.pending.length
decreasing_by
  rename_i nonempty
  exact refillBuffer_pending_lt nonempty

/-- What a buffer held before has no influence on a run. -/
theorem copyThrough_eq (forwarder : Forwarder) (observer : Observer) (source : Source) (port : π)
    (buffer : Bytes) (report : Report) (fits : buffer.length = forwarder.blockSize.bytes) :
    forwarder.copyThrough observer source port buffer report =
      forwarder.copyBlocks observer source port report := by
  fun_induction copyBlocks forwarder observer source port report generalizing buffer with
  | case1 source port report filling fault outcome =>
    rw [copyThrough, refillBuffer_eq, fits]
    simp only [filling] at outcome ⊢
    simp only [outcome]
  | case2 source port report filling outcome =>
    rw [copyThrough, refillBuffer_eq, fits]
    simp only [filling] at outcome ⊢
    simp only [outcome]
  | case3 source port report filling outcome empty =>
    rw [copyThrough, refillBuffer_eq, fits]
    simp only [filling] at outcome empty ⊢
    simp only [outcome, empty, List.length_nil, if_true]
  | case4 source port report filling read nonempty writing history fault outcome =>
    rw [copyThrough, refillBuffer_eq, fits]
    simp only [history, writing, filling] at read nonempty outcome ⊢
    simp only [read, outcome, List.take_left, List.length_eq_zero_iff, nonempty, if_false]
  | case5 source port report filling read nonempty writing history outcome =>
    rw [copyThrough, refillBuffer_eq, fits]
    simp only [history, writing, filling] at read nonempty outcome ⊢
    simp only [read, outcome, List.take_left, List.length_eq_zero_iff, nonempty, if_false]
  | case6 source port report filling read nonempty writing history outcome rest
      inductionHypothesis =>
    have sized := (length_refillBuffer source buffer).trans fits
    rw [refillBuffer_eq, fits] at sized
    rw [copyThrough, refillBuffer_eq, fits]
    simp only [rest, history, writing, filling] at read nonempty outcome inductionHypothesis ⊢
    simp only [read, outcome, List.take_left, List.length_eq_zero_iff, nonempty, if_false]
    rw [inductionHypothesis _ sized]

end Forwarder

end SerialFeed
