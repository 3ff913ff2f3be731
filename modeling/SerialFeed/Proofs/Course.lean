/-
This file says once what a transfer can do. The history of a transfer is put together from few
pieces: reads that fill a block, writes that send it, a record and an event when it is sent, and at
the end two flushes with a pause between them. Each of the inductive predicates below lists the ways
in which one part of a transfer can go, with one constructor for each answer that a device can give,
and the theorem behind it says that this part goes in one of these ways.

What a run does to its bytes, to its events and to the order of its calls is then read off by an
induction over its course, and the definitions of the transfer need not be opened again.
-/

import SerialFeed.Transfer

namespace SerialFeed

/-! ### The course of filling a block -/

/-- How a buffer with some room can be filled: the bytes that it takes up, how the reading stops,
and the reads. -/
inductive Fills : Nat → Bytes → Reply Unit → History Progress → Prop where
  | full : Fills 0 [] (.gave ()) []
  /-- A read of no bytes is taken for the end of the input. -/
  | ended {room : Nat} (positive : 0 < room) :
    Fills room [] (.gave ()) [.read room (.gave [])]
  | piece {room : Nat} {bytes block : Bytes} {outcome : Reply Unit} {history : History Progress}
    (nonempty : bytes ≠ []) (fits : bytes.length ≤ room)
    (rest : Fills (room - bytes.length) block outcome history) :
    Fills room (bytes ++ block) outcome (.read room (.gave bytes) :: history)
  | interrupted {room : Nat} {fault : Fault} {block : Bytes} {outcome : Reply Unit}
    {history : History Progress} (positive : 0 < room) (again : fault.kind = .interrupted)
    (rest : Fills room block outcome history) :
    Fills room block outcome (.read room (.failed fault) :: history)
  | failed {room : Nat} {fault : Fault} (positive : 0 < room)
    (fatal : fault.kind ≠ .interrupted) :
    Fills room [] (.failed fault) [.read room (.failed fault)]
  | crashed {room : Nat} (positive : 0 < room) : Fills room [] .crashed [.read room .crashed]

theorem readBlock_fills (source : Source) (room : Nat) :
    Fills room (readBlock source room).block (readBlock source room).outcome
      (readBlock source room).history := by
  fun_induction readBlock source room with
  | case1 => exact .full
  | case2 source room nonzero => exact .ended (Nat.pos_of_ne_zero nonzero)
  | case3 source room nonzero next first others answer inductionHypothesis =>
    have fits : (first :: others).length ≤ room :=
      Source.length_le_of_read (congrArg Prod.snd answer)
    exact .piece (List.cons_ne_nil _ _) fits inductionHypothesis
  | case4 source room nonzero next fault answer again inductionHypothesis =>
    exact .interrupted (Nat.pos_of_ne_zero nonzero) again inductionHypothesis
  | case5 source room nonzero next fault answer fatal =>
    exact .failed (Nat.pos_of_ne_zero nonzero) fatal
  | case6 source room nonzero => exact .crashed (Nat.pos_of_ne_zero nonzero)

namespace Fills

variable {room : Nat} {block : Bytes} {outcome : Reply Unit} {history : History Progress}

/-- What is read is what is in the block. -/
theorem delivered (fills : Fills room block outcome history) : history.delivered = block := by
  induction fills with
  | full => rfl
  | ended positive => rfl
  | piece nonempty fits rest inductionHypothesis =>
    rw [History.delivered_cons, inductionHypothesis]
    rfl
  | interrupted positive again rest inductionHypothesis =>
    rw [History.delivered_cons, inductionHypothesis]
    rfl
  | failed positive fatal => rfl
  | crashed positive => rfl

theorem length_le (fills : Fills room block outcome history) : block.length ≤ room := by
  induction fills with
  | full => exact Nat.le_refl 0
  | ended positive => exact Nat.zero_le _
  | piece nonempty fits rest inductionHypothesis =>
    rw [List.length_append]
    omega
  | interrupted positive again rest inductionHypothesis => exact inductionHypothesis
  | failed positive fatal => exact Nat.zero_le _
  | crashed positive => exact Nat.zero_le _

/-- A block is filled by reads alone, and none of them asks for nothing. -/
theorem eq_read_of_mem (fills : Fills room block outcome history) {entry : Entry Progress}
    (member : entry ∈ history) :
    ∃ wanted reply, 0 < wanted ∧ wanted ≤ room ∧ entry = .read wanted reply := by
  induction fills with
  | full => cases member
  | ended positive => exact ⟨_, _, positive, Nat.le_refl _, List.mem_singleton.1 member⟩
  | piece nonempty fits rest inductionHypothesis =>
    cases member with
    | head =>
      exact ⟨_, _, Nat.lt_of_lt_of_le (List.length_pos_iff.2 nonempty) fits, Nat.le_refl _, rfl⟩
    | tail _ later =>
      obtain ⟨wanted, reply, positive, small, same⟩ := inductionHypothesis later
      exact ⟨wanted, reply, positive, Nat.le_trans small (Nat.sub_le _ _), same⟩
  | interrupted positive again rest inductionHypothesis =>
    cases member with
    | head => exact ⟨_, _, positive, Nat.le_refl _, rfl⟩
    | tail _ later => exact inductionHypothesis later
  | failed positive fatal => exact ⟨_, _, positive, Nat.le_refl _, List.mem_singleton.1 member⟩
  | crashed positive => exact ⟨_, _, positive, Nat.le_refl _, List.mem_singleton.1 member⟩

theorem reads (fills : Fills room block outcome history) :
    ∀ entry ∈ history, entry.isRead = true := by
  intro entry member
  obtain ⟨wanted, reply, _, _, rfl⟩ := fills.eq_read_of_mem member
  rfl

theorem writeFree (fills : Fills room block outcome history) : history.WriteFree := by
  intro entry member
  obtain ⟨wanted, reply, _, _, rfl⟩ := fills.eq_read_of_mem member
  rfl

theorem accepted (fills : Fills room block outcome history) : history.accepted = [] :=
  fills.writeFree.accepted

/-- A block whose reading failed is not full. -/
theorem length_lt (fills : Fills room block outcome history) (failing : outcome ≠ .gave ()) :
    block.length < room := by
  induction fills with
  | full => exact absurd rfl failing
  | ended positive => exact positive
  | piece nonempty fits rest inductionHypothesis =>
    have shorter := inductionHypothesis failing
    rw [List.length_append]
    omega
  | interrupted positive again rest inductionHypothesis => exact inductionHypothesis failing
  | failed positive fatal => exact positive
  | crashed positive => exact positive

end Fills

/-! ### The course of writing a block -/

/-- How a block can be written: the bytes that are still to go, how the writing stops, and the
writes. -/
inductive Sends (forwarder : Forwarder) (observer : Observer) :
    Bytes → Reply Unit → History Progress → Prop where
  | done : Sends forwarder observer [] (.gave ()) []
  | refused {block : Bytes} {elapsed : Nat} (nonempty : block ≠ []) :
    Sends forwarder observer block (.failed refusedBlock) [.write block (.gave 0) elapsed]
  | piece {block : Bytes} {count elapsed : Nat} {outcome : Reply Unit}
    {history : History Progress} (positive : 0 < count) (fits : count ≤ block.length)
    (rest : Sends forwarder observer (block.drop count) outcome history) :
    Sends forwarder observer block outcome (.write block (.gave count) elapsed :: history)
  | interrupted {block : Bytes} {fault : Fault} {elapsed : Nat} {outcome : Reply Unit}
    {history : History Progress} (nonempty : block ≠ []) (again : fault.kind = .interrupted)
    (rest : Sends forwarder observer block outcome history) :
    Sends forwarder observer block outcome (.write block (.failed fault) elapsed :: history)
  /-- The port could not take the block in time, but it may wait. -/
  | waiting {block : Bytes} {fault : Fault} {elapsed : Nat} {outcome : Reply Unit}
    {history : History Progress} (nonempty : block ≠ []) (late : fault.kind = .timedOut)
    (mayWait : forwarder.mayWait elapsed = true)
    (rest : Sends forwarder observer block outcome history) :
    Sends forwarder observer block outcome (.write block (.failed fault) elapsed ::
      (observer.note (.portBusy block.length) ++ history))
  | failed {block : Bytes} {fault : Fault} {elapsed : Nat} (nonempty : block ≠ [])
    (fatal : fault.kind ≠ .interrupted)
    (overdue : fault.kind = .timedOut → forwarder.mayWait elapsed = false) :
    Sends forwarder observer block (.failed fault) [.write block (.failed fault) elapsed]
  | crashed {block : Bytes} {elapsed : Nat} (nonempty : block ≠ []) :
    Sends forwarder observer block .crashed [.write block .crashed elapsed]

variable {π : Type} [Port π]

theorem writeBlock_sends (forwarder : Forwarder) (observer : Observer) (started : Nat) (port : π)
    (block : Bytes) :
    Sends forwarder observer block (writeBlock forwarder observer started port block).outcome
      (writeBlock forwarder observer started port block).history := by
  fun_induction writeBlock forwarder observer started port block with
  | case1 => exact .done
  | case2 port block nonempty => exact .refused nonempty
  | case3 port block nonempty next count answer inductionHypothesis =>
    have fits : count + 1 ≤ block.length := Port.accepted_le (congrArg Prod.snd answer)
    exact .piece (Nat.succ_pos count) fits inductionHypothesis
  | case4 port block nonempty next fault answer entry again inductionHypothesis =>
    exact .interrupted nonempty again inductionHypothesis
  | case5 port block nonempty next fault answer entry _ waits rest inductionHypothesis =>
    exact .waiting nonempty waits.1 waits.2 inductionHypothesis
  | case6 port block nonempty next fault answer entry fatal overdue =>
    refine .failed nonempty fatal fun late => ?_
    exact Bool.eq_false_iff.2 fun mayWait => overdue ⟨late, mayWait⟩
  | case7 port block nonempty => exact .crashed nonempty

namespace Sends

variable {forwarder : Forwarder} {observer : Observer} {block : Bytes} {outcome : Reply Unit}
  {history : History Progress}

/-- Where nothing is left to be sent, nothing is offered. -/
theorem of_nil (sends : Sends forwarder observer [] outcome history) :
    history = [] ∧ outcome = .gave () := by
  cases sends with
  | done => exact ⟨rfl, rfl⟩
  | piece positive fits rest => exact absurd fits (Nat.not_le.2 positive)
  | refused nonempty => exact absurd rfl nonempty
  | interrupted nonempty => exact absurd rfl nonempty
  | waiting nonempty => exact absurd rfl nonempty
  | failed nonempty => exact absurd rfl nonempty
  | crashed nonempty => exact absurd rfl nonempty

/-- What the port accepts is the block from its beginning, and all of it exactly when the writing
comes to its end. -/
theorem accepted (sends : Sends forwarder observer block outcome history) :
    ∃ lost, block = history.accepted ++ lost ∧ (lost = [] ↔ outcome = .gave ()) := by
  induction sends with
  | done => exact ⟨[], rfl, iff_of_true rfl rfl⟩
  | @refused block _ nonempty => exact ⟨block, rfl, iff_of_false nonempty nofun⟩
  | @piece block count elapsed _ history positive fits rest inductionHypothesis =>
    obtain ⟨lost, split, whole⟩ := inductionHypothesis
    refine ⟨lost, ?_, whole⟩
    calc block = block.take count ++ block.drop count := (List.take_append_drop count block).symm
      _ = block.take count ++ (history.accepted ++ lost) := by rw [← split]
      _ = block.take count ++ history.accepted ++ lost := (List.append_assoc ..).symm
  | interrupted nonempty again rest inductionHypothesis => exact inductionHypothesis
  | waiting nonempty late mayWait rest inductionHypothesis =>
    rw [History.accepted_cons, History.accepted_append, Observer.accepted_note]
    exact inductionHypothesis
  | @failed block _ _ nonempty fatal overdue => exact ⟨block, rfl, iff_of_false nonempty nofun⟩
  | @crashed block _ nonempty => exact ⟨block, rfl, iff_of_false nonempty nofun⟩

/-- What a port accepts of a block that is sent is the block. -/
theorem accepted_of_gave (sends : Sends forwarder observer block (.gave ()) history) :
    history.accepted = block := by
  obtain ⟨lost, split, whole⟩ := sends.accepted
  rw [split, whole.2 rfl, List.append_nil]

/-- A block is sent by writes alone, each of which offers some end of it; only records that the port
is busy come between. -/
theorem eq_write_or_note_of_mem (sends : Sends forwarder observer block outcome history)
    {entry : Entry Progress} (member : entry ∈ history) :
    (∃ offered reply elapsed, offered ≠ [] ∧ offered <:+ block ∧
      entry = .write offered reply elapsed) ∨ ∃ record, entry = .note record := by
  induction sends with
  | done => cases member
  | refused nonempty =>
    exact Or.inl ⟨_, _, _, nonempty, List.suffix_rfl, List.mem_singleton.1 member⟩
  | @piece block count elapsed outcome history positive fits rest inductionHypothesis =>
    cases member with
    | head =>
      have nonempty := List.length_pos_iff.1 (Nat.lt_of_lt_of_le positive fits)
      exact Or.inl ⟨_, _, _, nonempty, List.suffix_rfl, rfl⟩
    | tail _ later =>
      refine (inductionHypothesis later).imp_left ?_
      rintro ⟨offered, reply, elapsed, nonempty, ending, same⟩
      exact ⟨offered, reply, elapsed, nonempty, ending.trans (List.drop_suffix count block), same⟩
  | interrupted nonempty again rest inductionHypothesis =>
    cases member with
    | head => exact Or.inl ⟨_, _, _, nonempty, List.suffix_rfl, rfl⟩
    | tail _ later => exact inductionHypothesis later
  | waiting nonempty late mayWait rest inductionHypothesis =>
    cases member with
    | head => exact Or.inl ⟨_, _, _, nonempty, List.suffix_rfl, rfl⟩
    | tail _ later =>
      rcases List.mem_append.1 later with inNote | inRest
      · exact Or.inr ⟨_, Observer.eq_of_mem_note inNote⟩
      · exact inductionHypothesis inRest
  | failed nonempty fatal overdue =>
    exact Or.inl ⟨_, _, _, nonempty, List.suffix_rfl, List.mem_singleton.1 member⟩
  | crashed nonempty =>
    exact Or.inl ⟨_, _, _, nonempty, List.suffix_rfl, List.mem_singleton.1 member⟩

theorem readFree (sends : Sends forwarder observer block outcome history) : history.ReadFree := by
  intro entry member
  rcases sends.eq_write_or_note_of_mem member with ⟨offered, reply, elapsed, _, _, rfl⟩ | ⟨_, rfl⟩
  · rfl
  · rfl

theorem delivered (sends : Sends forwarder observer block outcome history) :
    history.delivered = [] :=
  sends.readFree.delivered

end Sends

/-! ### The course of a transfer -/

/-- The entries of a block that is sent, from its first read to the event that reports it. -/
def History.ofBlock (observer : Observer) (block : Bytes) (reading writing : History Progress) :
    History Progress :=
  reading ++ writing ++
    (observer.note (.blockSent block) ++ observer.event (.block block.length))

theorem History.ofBlock_append (observer : Observer) (block : Bytes)
    (reading writing rest : History Progress) :
    ofBlock observer block reading writing ++ rest =
      reading ++ writing ++ (observer.note (.blockSent block) ++
        (observer.event (.block block.length) ++ rest)) := by
  unfold ofBlock
  rw [List.append_assoc, List.append_assoc (observer.note _)]

/-- How block after block can be copied, when a report counts the blocks before: how the copying
stops, and all that happens. -/
inductive Copies (forwarder : Forwarder) (observer : Observer) :
    Report → Ending → History Progress → Prop where
  | ended {report : Report} {reading : History Progress}
    (fills : Fills forwarder.blockSize.bytes [] (.gave ()) reading) :
    Copies forwarder observer report (.sent report) reading
  | readFailed {report : Report} {block : Bytes} {fault : Fault} {reading : History Progress}
    (fills : Fills forwarder.blockSize.bytes block (.failed fault) reading) :
    Copies forwarder observer report (.failed (.readFailed fault)) reading
  | readCrashed {report : Report} {block : Bytes} {reading : History Progress}
    (fills : Fills forwarder.blockSize.bytes block .crashed reading) :
    Copies forwarder observer report .crashed reading
  | writeFailed {report : Report} {block : Bytes} {fault : Fault}
    {reading writing : History Progress}
    (fills : Fills forwarder.blockSize.bytes block (.gave ()) reading) (nonempty : block ≠ [])
    (sends : Sends forwarder observer block (.failed fault) writing) :
    Copies forwarder observer report (.failed (.writeFailed fault)) (reading ++ writing)
  | writeCrashed {report : Report} {block : Bytes} {reading writing : History Progress}
    (fills : Fills forwarder.blockSize.bytes block (.gave ()) reading) (nonempty : block ≠ [])
    (sends : Sends forwarder observer block .crashed writing) :
    Copies forwarder observer report .crashed (reading ++ writing)
  | block {report : Report} {block : Bytes} {ending : Ending}
    {reading writing history : History Progress}
    (fills : Fills forwarder.blockSize.bytes block (.gave ()) reading) (nonempty : block ≠ [])
    (sends : Sends forwarder observer block (.gave ()) writing)
    (rest : Copies forwarder observer (report.add block) ending history) :
    Copies forwarder observer report ending (.ofBlock observer block reading writing ++ history)

theorem copyBlocks_copies (forwarder : Forwarder) (observer : Observer) (source : Source)
    (port : π) (report : Report) :
    Copies forwarder observer report (forwarder.copyBlocks observer source port report).ending
      (forwarder.copyBlocks observer source port report).history := by
  fun_induction Forwarder.copyBlocks forwarder observer source port report with
  | case1 source port report filling fault outcome =>
    exact .readFailed (outcome ▸ readBlock_fills source forwarder.blockSize.bytes)
  | case2 source port report filling outcome =>
    exact .readCrashed (outcome ▸ readBlock_fills source forwarder.blockSize.bytes)
  | case3 source port report filling outcome empty =>
    exact .ended (empty ▸ outcome ▸ readBlock_fills source forwarder.blockSize.bytes)
  | case4 source port report filling read nonempty writing history fault outcome =>
    exact .writeFailed (read ▸ readBlock_fills source forwarder.blockSize.bytes) nonempty
      (outcome ▸ writeBlock_sends forwarder observer (Port.clock port) port filling.block)
  | case5 source port report filling read nonempty writing history outcome =>
    exact .writeCrashed (read ▸ readBlock_fills source forwarder.blockSize.bytes) nonempty
      (outcome ▸ writeBlock_sends forwarder observer (Port.clock port) port filling.block)
  | case6 source port report filling read nonempty writing history outcome rest
      inductionHypothesis =>
    have copies := Copies.block (read ▸ readBlock_fills source forwarder.blockSize.bytes) nonempty
      (outcome ▸ writeBlock_sends forwarder observer (Port.clock port) port filling.block)
      inductionHypothesis
    rw [History.ofBlock_append] at copies
    exact copies

section Block

variable {forwarder : Forwarder} {observer : Observer} {block : Bytes}
  {reading writing : History Progress}

theorem delivered_ofBlock {room : Nat} (fills : Fills room block (.gave ()) reading)
    (sends : Sends forwarder observer block (.gave ()) writing) :
    (History.ofBlock observer block reading writing).delivered = block := by
  unfold History.ofBlock
  rw [History.delivered_append, History.delivered_append, History.delivered_append,
    fills.delivered, sends.delivered, Observer.delivered_note, Observer.delivered_event,
    List.append_nil, List.append_nil]
  exact List.append_nil block

theorem accepted_ofBlock {room : Nat} (fills : Fills room block (.gave ()) reading)
    (sends : Sends forwarder observer block (.gave ()) writing) :
    (History.ofBlock observer block reading writing).accepted = block := by
  unfold History.ofBlock
  rw [History.accepted_append, History.accepted_append, History.accepted_append, fills.accepted,
    sends.accepted_of_gave, Observer.accepted_note, Observer.accepted_event, List.append_nil,
    List.append_nil, List.nil_append]

end Block

/-- What the answer of a flush makes of a transfer that has sent everything. -/
def Ending.ofFlush (report : Report) : Reply Unit → Ending
  | .gave () => .sent report
  | .failed fault => .failed (.flushFailed fault)
  | .crashed => .crashed

/-- How the output can be settled, when a report counts what was sent. -/
inductive Settles (forwarder : Forwarder) (observer : Observer) (report : Report) :
    Ending → History Progress → Prop where
  | stopped (reply : Reply Unit) (stops : reply ≠ .gave ()) :
    Settles forwarder observer report (.ofFlush report reply)
      (observer.note (.inputExhausted report) ++ [.flush reply])
  | settled (reply : Reply Unit) :
    Settles forwarder observer report (.ofFlush report reply)
      (observer.note (.inputExhausted report) ++ .flush (.gave ()) ::
        (observer.event .settling ++ [.pause forwarder.settle]) ++ [.flush reply])

theorem settleOutput_settles (forwarder : Forwarder) (observer : Observer) (source : Source)
    (port : π) (report : Report) :
    Settles forwarder observer report
      (forwarder.settleOutput observer source port report).ending
      (forwarder.settleOutput observer source port report).history := by
  unfold Forwarder.settleOutput
  dsimp only
  split
  · exact .stopped (.failed _) nofun
  · exact .stopped .crashed nofun
  · split
    · exact .settled (.failed _)
    · exact .settled .crashed
    · exact .settled (.gave ())

namespace Settles

variable {forwarder : Forwarder} {observer : Observer} {report : Report} {ending : Ending}
  {history : History Progress}

/-- While the output settles, nothing else happens than the following. -/
theorem eq_of_mem (settles : Settles forwarder observer report ending history)
    {entry : Entry Progress} (member : entry ∈ history) :
    entry = .note (.inputExhausted report) ∨ entry = .event .settling ∨
      (∃ reply, entry = .flush reply) ∨ ∃ milliseconds, entry = .pause milliseconds := by
  cases settles with
  | stopped reply stops =>
    rcases List.mem_append.1 member with inNote | inFlush
    · exact Or.inl (Observer.eq_of_mem_note inNote)
    · exact Or.inr (Or.inr (Or.inl ⟨_, List.mem_singleton.1 inFlush⟩))
  | settled reply =>
    rcases List.mem_append.1 member with inFirst | inFlush
    · rcases List.mem_append.1 inFirst with inNote | inOthers
      · exact Or.inl (Observer.eq_of_mem_note inNote)
      · rcases List.mem_cons.1 inOthers with rfl | later
        · exact Or.inr (Or.inr (Or.inl ⟨_, rfl⟩))
        · rcases List.mem_append.1 later with inEvent | inPause
          · exact Or.inr (Or.inl (Observer.eq_of_mem_event inEvent))
          · exact Or.inr (Or.inr (Or.inr ⟨_, List.mem_singleton.1 inPause⟩))
    · exact Or.inr (Or.inr (Or.inl ⟨_, List.mem_singleton.1 inFlush⟩))

theorem readFree (settles : Settles forwarder observer report ending history) :
    history.ReadFree := by
  intro entry member
  rcases settles.eq_of_mem member with rfl | rfl | ⟨_, rfl⟩ | ⟨_, rfl⟩ <;> rfl

theorem writeFree (settles : Settles forwarder observer report ending history) :
    history.WriteFree := by
  intro entry member
  rcases settles.eq_of_mem member with rfl | rfl | ⟨_, rfl⟩ | ⟨_, rfl⟩ <;> rfl

end Settles

/-- How a transfer can go. -/
inductive Transfers (forwarder : Forwarder) (observer : Observer) :
    Ending → History Progress → Prop where
  /-- There is no buffer for a block. -/
  | refused {shortage : Shortage}
    (short : Shortage.ofSize? forwarder.blockSize.bytes = some shortage) :
    Transfers forwarder observer
      (.failed (.bufferFailed forwarder.blockSize.bytes shortage)) []
  | stopped {ending : Ending} {history : History Progress}
    (enough : Shortage.ofSize? forwarder.blockSize.bytes = none)
    (copies : Copies forwarder observer {} ending history)
    (stops : ∀ report, ending ≠ .sent report) :
    Transfers forwarder observer ending history
  | settled {report : Report} {ending : Ending} {copying settling : History Progress}
    (enough : Shortage.ofSize? forwarder.blockSize.bytes = none)
    (copies : Copies forwarder observer {} (.sent report) copying)
    (settles : Settles forwarder observer report ending settling) :
    Transfers forwarder observer ending (copying ++ settling)

theorem transfer_transfers (forwarder : Forwarder) (observer : Observer) (source : Source)
    (port : π) :
    Transfers forwarder observer (forwarder.transfer observer source port).ending
      (forwarder.transfer observer source port).history := by
  have copies := copyBlocks_copies forwarder observer source port {}
  unfold Forwarder.transfer
  dsimp only
  split
  · rename_i shortage short
    exact .refused short
  · rename_i enough
    split
    · rename_i report sent
      exact .settled enough (sent ▸ copies) (settleOutput_settles ..)
    · rename_i stops
      exact .stopped enough copies stops

/-! ### What holds of every entry -/

/-- A fact about entries that holds of everything that a transfer can do: no read asks for more than
a block, no write offers more, and none of them moves nothing on purpose. -/
structure Everywhere (forwarder : Forwarder) (holds : Entry Progress → Prop) : Prop where
  read : ∀ {room reply}, 0 < room → room ≤ forwarder.blockSize.bytes → holds (.read room reply)
  write : ∀ {offered reply elapsed}, offered ≠ [] →
    offered.length ≤ forwarder.blockSize.bytes → holds (.write offered reply elapsed)
  note : ∀ record, holds (.note record)
  event : ∀ reported, holds (.event reported)
  flush : ∀ reply, holds (.flush reply)
  pause : ∀ milliseconds, holds (.pause milliseconds)

namespace Everywhere

variable {forwarder : Forwarder} {observer : Observer} {holds : Entry Progress → Prop}

theorem of_mem_note (everywhere : Everywhere forwarder holds) {record : Note} :
    ∀ entry ∈ (observer.note record : History Progress), holds entry :=
  fun _ member => Observer.eq_of_mem_note member ▸ everywhere.note record

theorem of_mem_event (everywhere : Everywhere forwarder holds) {reported : Progress} :
    ∀ entry ∈ observer.event reported, holds entry :=
  fun _ member => Observer.eq_of_mem_event member ▸ everywhere.event reported

theorem of_fills (everywhere : Everywhere forwarder holds) {block : Bytes} {outcome : Reply Unit}
    {history : History Progress}
    (fills : Fills forwarder.blockSize.bytes block outcome history) :
    ∀ entry ∈ history, holds entry := by
  intro entry member
  obtain ⟨wanted, reply, positive, small, rfl⟩ := fills.eq_read_of_mem member
  exact everywhere.read positive small

theorem of_sends (everywhere : Everywhere forwarder holds) {block : Bytes} {outcome : Reply Unit}
    {history : History Progress} (short : block.length ≤ forwarder.blockSize.bytes)
    (sends : Sends forwarder observer block outcome history) :
    ∀ entry ∈ history, holds entry := by
  intro entry member
  rcases sends.eq_write_or_note_of_mem member with
    ⟨offered, reply, elapsed, nonempty, ending, rfl⟩ | ⟨record, rfl⟩
  · exact everywhere.write nonempty (Nat.le_trans ending.length_le short)
  · exact everywhere.note record

theorem of_copies (everywhere : Everywhere forwarder holds) {report : Report}
    {ending : Ending} {history : History Progress}
    (copies : Copies forwarder observer report ending history) :
    ∀ entry ∈ history, holds entry := by
  induction copies with
  | ended fills => exact everywhere.of_fills fills
  | readFailed fills => exact everywhere.of_fills fills
  | readCrashed fills => exact everywhere.of_fills fills
  | writeFailed fills nonempty sends =>
    exact List.forall_mem_append.2
      ⟨everywhere.of_fills fills, everywhere.of_sends fills.length_le sends⟩
  | writeCrashed fills nonempty sends =>
    exact List.forall_mem_append.2
      ⟨everywhere.of_fills fills, everywhere.of_sends fills.length_le sends⟩
  | block fills nonempty sends rest inductionHypothesis =>
    refine List.forall_mem_append.2 ⟨List.forall_mem_append.2 ⟨?_, ?_⟩, inductionHypothesis⟩
    · exact List.forall_mem_append.2
        ⟨everywhere.of_fills fills, everywhere.of_sends fills.length_le sends⟩
    · exact List.forall_mem_append.2 ⟨everywhere.of_mem_note, everywhere.of_mem_event⟩

theorem of_settles (everywhere : Everywhere forwarder holds) {report : Report}
    {ending : Ending} {history : History Progress}
    (settles : Settles forwarder observer report ending history) :
    ∀ entry ∈ history, holds entry := by
  intro entry member
  rcases settles.eq_of_mem member with rfl | rfl | ⟨_, rfl⟩ | ⟨_, rfl⟩
  · exact everywhere.note _
  · exact everywhere.event _
  · exact everywhere.flush _
  · exact everywhere.pause _

theorem of_transfers (everywhere : Everywhere forwarder holds) {ending : Ending}
    {history : History Progress} (transfers : Transfers forwarder observer ending history) :
    ∀ entry ∈ history, holds entry := by
  cases transfers with
  | refused short => exact fun _ member => nomatch member
  | stopped enough copies stops => exact everywhere.of_copies copies
  | settled enough copies settles =>
    exact List.forall_mem_append.2 ⟨everywhere.of_copies copies, everywhere.of_settles settles⟩

end Everywhere

end SerialFeed
