/-
This file carries a transfer out one call at a time. Between two calls it stands somewhere: a block
is being filled or sent, the input has ended, the output settles, or all is over. What is called
next depends on that alone, and the answer says where the transfer stands after it. Nothing here
bounds how often a call is made, so it is a result, and not a matter of definition, that making one
call after the other comes to an end. It does, and it is the same transfer: the calls that can be
made one after the other are exactly those in its history, and after the last of them the transfer
is over, with its ending and with what it leaves of its devices. A history therefore tells of calls
that its devices have answered, and of no others.
-/

import SerialFeed.Proofs.Observation

namespace SerialFeed

/-! ### Where a transfer stands -/

/-- Where a transfer stands between two calls. The report counts the blocks that were sent. -/
inductive Standing where
  /-- A block has taken these bytes and has room for more. -/
  | filling (report : Report) (taken : Bytes)
  /-- These bytes of a block are to be accepted, and its writing was begun at some moment. -/
  | sending (report : Report) (block pending : Bytes) (started : Nat)
  /-- The input has ended. -/
  | draining (report : Report)
  /-- The first flush is done, and the output has had its time to settle. -/
  | settling (report : Report)
  /-- All is over. -/
  | done (ending : Ending)

namespace Standing

/-- With these bytes in a block; it is sent as soon as it is full. -/
def ofTaken (size : BlockSize) (now : Nat) (report : Report) (taken : Bytes) : Standing :=
  if taken.length < size.bytes then filling report taken else sending report taken taken now

/-- With a block that takes no more bytes; an empty one is the end of the input. -/
def ofBlock (now : Nat) (report : Report) (block : Bytes) : Standing :=
  if block = [] then draining report else sending report block block now

/-- With these bytes of a block still to be accepted; if there are none, the next one is filled. -/
def ofPending (report : Report) (block pending : Bytes) (started : Nat) : Standing :=
  if pending = [] then filling (report.add block) [] else sending report block pending started

/-- After a read into a block with some bytes. -/
def afterRead (size : BlockSize) (now : Nat) (report : Report) (taken : Bytes) :
    Reply Bytes → Standing
  | .gave [] => ofBlock now report taken
  | .gave (first :: others) => ofTaken size now report (taken ++ first :: others)
  | .failed fault =>
    if fault.kind = .interrupted then filling report taken else done (.failed (.readFailed fault))
  | .crashed => done .crashed

/-- After a write of what is pending of a block, so long after its first one. -/
def afterWrite (forwarder : Forwarder) (report : Report) (block pending : Bytes)
    (started elapsed : Nat) : Reply Nat → Standing
  | .gave 0 => done (.failed (.writeFailed refusedBlock))
  | .gave (count + 1) => ofPending report block (pending.drop (count + 1)) started
  | .failed fault =>
    if fault.kind = .interrupted ∨ fault.kind = .timedOut ∧ forwarder.mayWait elapsed then
      sending report block pending started
    else done (.failed (.writeFailed fault))
  | .crashed => done .crashed

/-- After a flush that leads somewhere if it succeeds. -/
def afterFlush (next : Standing) : Reply Unit → Standing
  | .gave () => next
  | .failed fault => done (.failed (.flushFailed fault))
  | .crashed => done .crashed

end Standing

/-- A transfer that is being carried out: where it stands, and what is left of its devices. -/
structure Copying (π : Type) where
  standing : Standing
  source : Source
  port : π

namespace Copying

variable {π : Type}

/-- A transfer before its first call. Without a buffer for a block it is over already. -/
def start (forwarder : Forwarder) (source : Source) (port : π) : Copying π :=
  let size := forwarder.blockSize.bytes
  match Shortage.ofSize? size with
  | some shortage => ⟨.done (.failed (.bufferFailed size shortage)), source, port⟩
  | none => ⟨.filling {} [], source, port⟩

@[simp]
theorem start_source (forwarder : Forwarder) (source : Source) (port : π) :
    (start forwarder source port).source = source := by
  unfold start
  dsimp only
  split <;> rfl

@[simp]
theorem start_port (forwarder : Forwarder) (source : Source) (port : π) :
    (start forwarder source port).port = port := by
  unfold start
  dsimp only
  split <;> rfl

variable [Port π]

/-- The next call with its answer, and the transfer after it; there is none when all is over. -/
def call? (forwarder : Forwarder) (copying : Copying π) : Option (Entry Empty × Copying π) :=
  match copying.standing with
  | .filling report taken =>
    let room := forwarder.blockSize.bytes - taken.length
    let (source, reply) := copying.source.read room
    let now := Port.clock copying.port
    let next := .afterRead forwarder.blockSize now report taken reply
    some (.read room reply, { copying with standing := next, source })
  | .sending report block pending started =>
    let (port, reply) := Port.write copying.port pending
    let elapsed := Port.since port started
    let next := .afterWrite forwarder report block pending started elapsed reply
    some (.write pending reply elapsed, { copying with standing := next, port })
  | .draining report =>
    let (port, reply) := Port.flush copying.port
    some (.flush reply, { copying with standing := .afterFlush (.settling report) reply, port })
  | .settling report =>
    let (port, reply) := Port.flush copying.port
    some (.flush reply,
      { copying with standing := .afterFlush (.done (.sent report)) reply, port })
  | .done _ => none

/-- Whether some calls, one after the other, lead from one point of a transfer to another. -/
inductive Leads (forwarder : Forwarder) : Copying π → History Empty → Copying π → Prop where
  | stay (copying : Copying π) : Leads forwarder copying [] copying
  | call {copying next last : Copying π} {entry : Entry Empty} {calls : History Empty}
    (made : call? forwarder copying = some (entry, next)) (rest : Leads forwarder next calls last) :
    Leads forwarder copying (entry :: calls) last

namespace Leads

variable {forwarder : Forwarder} {copying middle next last : Copying π}
  {first second calls : History Empty} {entry : Entry Empty}

theorem append (earlier : Leads forwarder copying first middle)
    (later : Leads forwarder middle second last) :
    Leads forwarder copying (first ++ second) last := by
  induction earlier with
  | stay => exact later
  | call made rest inductionHypothesis => exact .call made (inductionHypothesis later)

theorem single (made : call? forwarder copying = some (entry, next)) :
    Leads forwarder copying [entry] next :=
  .call made (.stay next)

/-- There is one way to go on: all calls that can be made are among those that lead to the end. -/
theorem prefix_of_done (whole : Leads forwarder copying calls last)
    (ended : call? forwarder last = none) (part : Leads forwarder copying first next) :
    first <+: calls := by
  induction part generalizing calls with
  | stay => exact List.nil_prefix
  | call made rest inductionHypothesis =>
    cases whole with
    | stay => cases made.symm.trans ended
    | call same others =>
      cases made.symm.trans same
      exact (List.prefix_append_right_inj [_]).2 (inductionHypothesis others)

end Leads

/-! ### The parts of a transfer -/

section Parts

variable (forwarder : Forwarder)

/-- Where a transfer stands when a block was filled as far as it could be. -/
def ofFilling (now : Nat) (report : Report) (block : Bytes) : Reply Unit → Standing
  | .gave () => .ofBlock now report block
  | .failed fault => .done (.failed (.readFailed fault))
  | .crashed => .done .crashed

theorem leads_read (report : Report) {taken : Bytes} {room : Nat}
    (rest : taken.length + room = forwarder.blockSize.bytes) (positive : 0 < room)
    {source next : Source} {reply : Reply Bytes} (answer : source.read room = (next, reply))
    (port : π) :
    Leads forwarder
      ⟨.ofTaken forwarder.blockSize (Port.clock port) report taken, source, port⟩
      [.read room reply]
      ⟨.afterRead forwarder.blockSize (Port.clock port) report taken reply, next, port⟩ := by
  have filling : Standing.ofTaken forwarder.blockSize (Port.clock port) report taken =
      .filling report taken := if_pos (by omega)
  have left : forwarder.blockSize.bytes - taken.length = room := by omega
  refine .single ?_
  rw [filling]
  simp only [call?, left, answer]

theorem leads_readBlock (source : Source) (port : π) (report : Report) (taken : Bytes)
    {room : Nat} (rest : taken.length + room = forwarder.blockSize.bytes) :
    Leads forwarder
      ⟨.ofTaken forwarder.blockSize (Port.clock port) report taken, source, port⟩
      (readBlock source room).history.calls
      ⟨ofFilling (Port.clock port) report (taken ++ (readBlock source room).block)
        (readBlock source room).outcome, (readBlock source room).source, port⟩ := by
  fun_induction readBlock source room generalizing taken with
  | case1 =>
    have positive := forwarder.blockSize.positive
    have nonempty : taken ≠ [] := List.length_pos_iff.1 (by omega)
    have full : Standing.ofTaken forwarder.blockSize (Port.clock port) report taken =
        ofFilling (Port.clock port) report (taken ++ []) (.gave ()) := by
      rw [List.append_nil]
      exact (if_neg (by omega)).trans (if_neg nonempty).symm
    rw [full]
    exact .stay _
  | case2 source room nonzero next answer =>
    rw [List.append_nil]
    exact leads_read forwarder report rest (Nat.pos_of_ne_zero nonzero) answer port
  | case3 source room nonzero next first others answer inductionHypothesis =>
    have read := leads_read forwarder report rest (Nat.pos_of_ne_zero nonzero) answer port
    have fits : (first :: others).length ≤ room :=
      Source.length_le_of_read (congrArg Prod.snd answer)
    have less : (taken ++ first :: others).length + (room - (first :: others).length) =
        forwarder.blockSize.bytes := by
      rw [List.length_append]
      omega
    have later := inductionHypothesis _ less
    rw [List.append_assoc] at later
    exact read.append later
  | case4 source room nonzero next fault answer interrupted inductionHypothesis =>
    have positive := Nat.pos_of_ne_zero nonzero
    have read := leads_read forwarder report rest positive answer port
    have again : Standing.afterRead forwarder.blockSize (Port.clock port) report taken
        (.failed fault) = .ofTaken forwarder.blockSize (Port.clock port) report taken :=
      (if_pos interrupted).trans (if_pos (by omega)).symm
    rw [again] at read
    exact read.append (inductionHypothesis taken rest)
  | case5 source room nonzero next fault answer fatal =>
    have read := leads_read forwarder report rest (Nat.pos_of_ne_zero nonzero) answer port
    have failed : Standing.afterRead forwarder.blockSize (Port.clock port) report taken
        (.failed fault) = .done (.failed (.readFailed fault)) := if_neg fatal
    rw [failed] at read
    exact read
  | case6 source room nonzero next answer =>
    exact leads_read forwarder report rest (Nat.pos_of_ne_zero nonzero) answer port

/-- Where a transfer stands when a block was written as far as it could be. -/
def ofWriting (report : Report) (block : Bytes) : Reply Unit → Standing
  | .gave () => .filling (report.add block) []
  | .failed fault => .done (.failed (.writeFailed fault))
  | .crashed => .done .crashed

theorem leads_write (source : Source) {port next : π} (report : Report) (block : Bytes)
    {pending : Bytes} (started : Nat) (nonempty : pending ≠ []) {reply : Reply Nat}
    (answer : Port.write port pending = (next, reply)) :
    Leads forwarder ⟨.ofPending report block pending started, source, port⟩
      [.write pending reply (Port.since next started)]
      ⟨.afterWrite forwarder report block pending started (Port.since next started) reply,
        source, next⟩ := by
  have sending : Standing.ofPending report block pending started =
      .sending report block pending started := if_neg nonempty
  refine .single ?_
  rw [sending]
  simp only [call?, answer]

/-- A write that is tried again leads back to where it was made. -/
theorem leads_again (source : Source) {port next : π} (report : Report) (block : Bytes)
    {pending : Bytes} (started : Nat) (nonempty : pending ≠ []) {fault : Fault}
    (answer : Port.write port pending = (next, .failed fault))
    (again : fault.kind = .interrupted ∨
      fault.kind = .timedOut ∧ forwarder.mayWait (Port.since next started)) :
    Leads forwarder ⟨.ofPending report block pending started, source, port⟩
      [.write pending (.failed fault) (Port.since next started)]
      ⟨.ofPending report block pending started, source, next⟩ := by
  have write := leads_write forwarder source report block started nonempty answer
  have back : Standing.afterWrite forwarder report block pending started
      (Port.since next started) (.failed fault) = .ofPending report block pending started :=
    (if_pos again).trans (if_neg nonempty).symm
  rw [back] at write
  exact write

theorem leads_writeBlock (observer : Observer) (source : Source) (port : π) (report : Report)
    (block pending : Bytes) (started : Nat) :
    Leads forwarder ⟨.ofPending report block pending started, source, port⟩
      (writeBlock forwarder observer started port pending).history.calls
      ⟨ofWriting report block (writeBlock forwarder observer started port pending).outcome,
        source, (writeBlock forwarder observer started port pending).port⟩ := by
  fun_induction writeBlock forwarder observer started port pending with
  | case1 port => exact .stay _
  | case2 port pending nonempty next answer =>
    exact leads_write forwarder source report block started nonempty answer
  | case3 port pending nonempty next count answer inductionHypothesis =>
    have write := leads_write forwarder source report block started nonempty answer
    exact write.append inductionHypothesis
  | case4 port pending nonempty next fault answer entry interrupted inductionHypothesis =>
    have write := leads_again forwarder source report block started nonempty answer
      (Or.inl interrupted)
    exact write.append inductionHypothesis
  | case5 port pending nonempty next fault answer entry _ waits rest inductionHypothesis =>
    have write := leads_again forwarder source report block started nonempty answer (Or.inr waits)
    have calls : History.calls (entry :: (observer.note (.portBusy pending.length) ++
        rest.history)) = [.write pending (.failed fault) (Port.since next started)] ++
          rest.history.calls := by
      rw [← List.singleton_append, History.calls_append, History.calls_append,
        Observer.calls_note]
      rfl
    rw [calls]
    exact write.append inductionHypothesis
  | case6 port pending nonempty next fault answer entry fatal overdue =>
    have write := leads_write forwarder source report block started nonempty answer
    have failed : Standing.afterWrite forwarder report block pending started
        (Port.since next started) (.failed fault) = .done (.failed (.writeFailed fault)) :=
      if_neg (not_or.2 ⟨fatal, overdue⟩)
    rw [failed] at write
    exact write
  | case7 port pending nonempty next answer =>
    exact leads_write forwarder source report block started nonempty answer

/-- A block that is filled from its beginning. -/
theorem leads_filling (source : Source) (port : π) (report : Report) {outcome : Reply Unit}
    (read : (readBlock source forwarder.blockSize.bytes).outcome = outcome) :
    Leads forwarder ⟨.filling report [], source, port⟩
      (readBlock source forwarder.blockSize.bytes).history.calls
      ⟨ofFilling (Port.clock port) report (readBlock source forwarder.blockSize.bytes).block
        outcome, (readBlock source forwarder.blockSize.bytes).source, port⟩ := by
  have reading := leads_readBlock forwarder source port report [] (Nat.zero_add _)
  have empty : Standing.ofTaken forwarder.blockSize (Port.clock port) report [] =
      .filling report [] := if_pos forwarder.blockSize.positive
  rw [empty, read] at reading
  exact reading

/-- A block that was filled is written from its beginning. -/
theorem leads_sending (observer : Observer) (source : Source) (port : π) (report : Report)
    {block : Bytes} (nonempty : block ≠ []) {outcome : Reply Unit}
    (wrote : (writeBlock forwarder observer (Port.clock port) port block).outcome = outcome) :
    Leads forwarder ⟨ofFilling (Port.clock port) report block (.gave ()), source, port⟩
      (writeBlock forwarder observer (Port.clock port) port block).history.calls
      ⟨ofWriting report block outcome, source,
        (writeBlock forwarder observer (Port.clock port) port block).port⟩ := by
  have writing := leads_writeBlock forwarder observer source port report block block
    (Port.clock port)
  have whole : Standing.ofPending report block block (Port.clock port) =
      ofFilling (Port.clock port) report block (.gave ()) :=
    (if_neg nonempty).trans (if_neg nonempty).symm
  rw [whole, wrote] at writing
  exact writing

/-- Where a transfer stands when no more blocks are copied. -/
def ofCopied : Ending → Standing
  | .sent report => .draining report
  | .failed error => .done (.failed error)
  | .crashed => .done .crashed

theorem leads_copyBlocks (observer : Observer) (source : Source) (port : π) (report : Report) :
    Leads forwarder ⟨.filling report [], source, port⟩
      (forwarder.copyBlocks observer source port report).history.calls
      ⟨ofCopied (forwarder.copyBlocks observer source port report).ending,
        (forwarder.copyBlocks observer source port report).source,
        (forwarder.copyBlocks observer source port report).port⟩ := by
  fun_induction Forwarder.copyBlocks forwarder observer source port report with
  | case1 source port report filling fault outcome =>
    exact leads_filling forwarder source port report outcome
  | case2 source port report filling outcome =>
    exact leads_filling forwarder source port report outcome
  | case3 source port report filling outcome empty =>
    have reading := leads_filling forwarder source port report outcome
    rw [show (readBlock source _).block = _ from empty] at reading
    exact reading
  | case4 source port report filling read nonempty writing history fault outcome =>
    have reading := leads_filling forwarder source port report read
    have sending := leads_sending forwarder observer filling.source port report nonempty outcome
    rw [History.calls_append]
    exact reading.append sending
  | case5 source port report filling read nonempty writing history outcome =>
    have reading := leads_filling forwarder source port report read
    have sending := leads_sending forwarder observer filling.source port report nonempty outcome
    rw [History.calls_append]
    exact reading.append sending
  | case6 source port report filling read nonempty writing history outcome rest
      inductionHypothesis =>
    have reading := leads_filling forwarder source port report read
    have sending := leads_sending forwarder observer filling.source port report nonempty outcome
    have calls : History.calls (history ++ (observer.note (.blockSent filling.block) ++
        (observer.event (.block filling.block.length) ++ rest.history))) =
          filling.history.calls ++ writing.history.calls ++ rest.history.calls := by
      rw [History.calls_append, History.calls_append, History.calls_append, History.calls_append,
        Observer.calls_note, Observer.calls_event, List.nil_append, List.nil_append]
    rw [calls]
    exact (reading.append sending).append inductionHypothesis

/-- The calls of an output that settles are its flushes. -/
theorem calls_settled (observer : Observer) (report : Report) (settle : Nat) (reply : Reply Unit) :
    History.calls (observer.note (.inputExhausted report) ++ .flush (.gave ()) ::
      (observer.event Progress.settling ++ [.pause settle]) ++ [.flush reply]) =
        [.flush (.gave ()), .flush reply] := by
  have pause : History.calls ([.pause settle] : History Progress) = [] := rfl
  rw [History.calls_append, History.calls_append, Observer.calls_note, ← List.singleton_append,
    History.calls_append, History.calls_append, Observer.calls_event, pause]
  rfl

theorem leads_settleOutput (observer : Observer) (source : Source) (port : π) (report : Report) :
    Leads forwarder ⟨.draining report, source, port⟩
      (forwarder.settleOutput observer source port report).history.calls
      ⟨.done (forwarder.settleOutput observer source port report).ending,
        (forwarder.settleOutput observer source port report).source,
        (forwarder.settleOutput observer source port report).port⟩ := by
  have opening : ∀ reply, History.calls
      (observer.note (.inputExhausted report) ++ [.flush reply] : History Progress) =
        [.flush reply] := fun reply => by
    rw [History.calls_append, Observer.calls_note]
    rfl
  have first : ∀ {next : π} {reply}, Port.flush port = (next, reply) →
      Leads forwarder ⟨.draining report, source, port⟩ [.flush reply]
        ⟨.afterFlush (.settling report) reply, source, next⟩ := fun answer =>
    .single (by simp only [call?, answer])
  have second : ∀ {next last : π} {reply}, Port.flush next = (last, reply) →
      Leads forwarder ⟨.settling report, source, next⟩ [.flush reply]
        ⟨.afterFlush (.done (.sent report)) reply, source, last⟩ := fun answer =>
    .single (by simp only [call?, answer])
  unfold Forwarder.settleOutput
  split
  · rename_i next fault answer
    rw [opening]
    exact first answer
  · rename_i next answer
    rw [opening]
    exact first answer
  · rename_i next answer
    split
    · rename_i last fault again
      rw [calls_settled]
      exact (first answer).append (second again)
    · rename_i last again
      rw [calls_settled]
      exact (first answer).append (second again)
    · rename_i last again
      rw [calls_settled]
      exact (first answer).append (second again)

end Parts

/-- The calls of a transfer, one after the other, lead from its beginning to its end. -/
theorem leads_transfer (forwarder : Forwarder) (observer : Observer) (source : Source) (port : π) :
    let run := forwarder.transfer observer source port
    Leads forwarder (start forwarder source port) run.history.calls
      ⟨.done run.ending, run.source, run.port⟩ := by
  intro run
  have copying := leads_copyBlocks forwarder observer source port {}
  unfold start run Forwarder.transfer
  dsimp only
  cases Shortage.ofSize? forwarder.blockSize.bytes with
  | some shortage => exact .stay _
  | none =>
    dsimp only
    split
    · rename_i report sent
      rw [sent] at copying
      rw [History.calls_append]
      exact copying.append (leads_settleOutput forwarder observer _ _ report)
    · rename_i stops
      cases ending : (forwarder.copyBlocks observer source port {}).ending with
      | sent report => exact absurd ending (stops report)
      | failed error =>
        rw [ending] at copying
        exact copying
      | crashed =>
        rw [ending] at copying
        exact copying

end Copying

/-! ### The devices behind the calls -/

section Devices

variable {π : Type} [Port π]

/-- Whether calls come one after the other on a source and a port and are answered as the two answer
them, so that together they lead from one state of the devices to another. A write tells the time
that has passed since the last read before it, which is when its block was begun. -/
inductive Answered : Source → π → Nat → History Empty → Source → π → Prop where
  | nil (source : Source) (port : π) (begun : Nat) : Answered source port begun [] source port
  | read {source next left : Source} {port last : π} {begun room : Nat} {reply : Reply Bytes}
    {calls : History Empty} (answer : source.read room = (next, reply))
    (rest : Answered next port (Port.clock port) calls left last) :
    Answered source port begun (.read room reply :: calls) left last
  | write {source left : Source} {port next last : π} {begun : Nat} {offered : Bytes}
    {reply : Reply Nat} {calls : History Empty} (answer : Port.write port offered = (next, reply))
    (rest : Answered source next begun calls left last) :
    Answered source port begun (.write offered reply (Port.since next begun) :: calls) left last
  | flush {source left : Source} {port next last : π} {begun : Nat} {reply : Reply Unit}
    {calls : History Empty} (answer : Port.flush port = (next, reply))
    (rest : Answered source next begun calls left last) :
    Answered source port begun (.flush reply :: calls) left last

/-- Whether a run has made its calls on these devices: they gave the answers of which its history
tells, and the run leaves of them what the calls have left. -/
def Run.AnsweredBy (run : Run π) (source : Source) (port : π) : Prop :=
  Answered source port (Port.clock port) run.history.calls run.source run.port

namespace Standing

/-- Whether the block that is being sent, if there is one, was begun at this moment. -/
def BegunAt (moment : Nat) : Standing → Prop
  | sending _ _ _ started => started = moment
  | _ => True

theorem begunAt_ofTaken (size : BlockSize) (now : Nat) (report : Report) (taken : Bytes) :
    (ofTaken size now report taken).BegunAt now := by
  unfold ofTaken
  split
  · trivial
  · rfl

theorem begunAt_ofBlock (now : Nat) (report : Report) (block : Bytes) :
    (ofBlock now report block).BegunAt now := by
  unfold ofBlock
  split
  · trivial
  · rfl

theorem begunAt_afterRead (size : BlockSize) (now : Nat) (report : Report) (taken : Bytes)
    (reply : Reply Bytes) : (afterRead size now report taken reply).BegunAt now := by
  unfold afterRead
  split
  · exact begunAt_ofBlock now report taken
  · exact begunAt_ofTaken size now report _
  · split <;> trivial
  · trivial

theorem begunAt_afterWrite (forwarder : Forwarder) (report : Report) (block pending : Bytes)
    (started elapsed : Nat) (reply : Reply Nat) :
    (afterWrite forwarder report block pending started elapsed reply).BegunAt started := by
  unfold afterWrite
  split
  · trivial
  · unfold ofPending
    split
    · trivial
    · rfl
  · split
    · rfl
    · trivial
  · trivial

theorem begunAt_afterFlush {next : Standing} {moment : Nat} (begun : next.BegunAt moment)
    (reply : Reply Unit) : (afterFlush next reply).BegunAt moment := by
  cases reply with
  | gave => exact begun
  | failed fault => trivial
  | crashed => trivial

end Standing

/-- The calls that carry a transfer out are answered by its devices. -/
theorem Copying.Leads.answered {forwarder : Forwarder} {copying last : Copying π}
    {calls : History Empty} (leads : Leads forwarder copying calls last) {begun : Nat}
    (since : copying.standing.BegunAt begun) :
    Answered copying.source copying.port begun calls last.source last.port := by
  induction leads generalizing begun with
  | stay copying => exact .nil copying.source copying.port begun
  | @call copying next last entry calls made rest inductionHypothesis =>
    unfold call? at made
    split at made
    · cases made
      exact .read rfl (inductionHypothesis (Standing.begunAt_afterRead ..))
    · rename_i report block pending started sending
      rw [sending] at since
      cases made
      obtain rfl : started = begun := since
      exact .write rfl (inductionHypothesis (Standing.begunAt_afterWrite ..))
    · rename_i report draining
      have settles : (Standing.settling report).BegunAt begun := trivial
      cases made
      exact .flush rfl (inductionHypothesis (Standing.begunAt_afterFlush settles _))
    · rename_i report settling
      have ends : (Standing.done (.sent report)).BegunAt begun := trivial
      cases made
      exact .flush rfl (inductionHypothesis (Standing.begunAt_afterFlush ends _))
    · cases made

/-- No transfer makes a call that its devices do not answer as its history says. -/
theorem transfer_answered (forwarder : Forwarder) (observer : Observer) (source : Source)
    (port : π) : (forwarder.transfer observer source port).AnsweredBy source port := by
  have leads := Copying.leads_transfer forwarder observer source port
  have begins : (Copying.start forwarder source port).standing.BegunAt (Port.clock port) := by
    unfold Copying.start
    dsimp only
    split <;> trivial
  have answered := leads.answered begins
  rwa [Copying.start_source, Copying.start_port] at answered

/-- Whether runs one after the other have made their calls on these devices, each as the one before
it has left them. -/
def AnsweredInTurn (source : Source) (port : π) : List (Run π) → Prop
  | [] => True
  | run :: rest => run.AnsweredBy source port ∧ AnsweredInTurn run.source run.port rest

theorem transferEach_answered (observer : Observer) (source : Source) (port : π)
    (forwarders : List Forwarder) :
    AnsweredInTurn source port (Forwarder.transferEach observer source port forwarders) := by
  induction forwarders generalizing source port with
  | nil => trivial
  | cons forwarder rest inductionHypothesis =>
    exact ⟨transfer_answered forwarder observer source port, inductionHypothesis _ _⟩

end Devices

end SerialFeed
