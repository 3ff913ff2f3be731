/-
This file shows that a transfer goes through its phases in one order: a block is filled, then it is
sent, then it is reported, and so on to the end of the input; after that come the first flush, the
report that the output settles, the pause and the second flush. Nothing of a later phase happens in
an earlier one, and a call that fails for good cuts the order off where it stands.

A phase knows the bytes that are under way in it. What a history has done with its bytes, its
flushes and its reports before a call can therefore be read off the phase in which the call is made;
one move preserves this, and so does a whole transfer.
-/

import Mathlib.Algebra.GroupWithZero.Nat
import SerialFeed.Proofs.Outcome

namespace SerialFeed

/-! ### Reads, flushes and reports of a history -/

def Entry.reading? {Event : Type} : Entry Event → Option (Reply Bytes)
  | read _ reply => some reply
  | _ => none

def Entry.flushing? {Event : Type} : Entry Event → Option (Reply Unit)
  | flush reply => some reply
  | _ => none

/-- The bytes of the block that an event reports. -/
def Progress.size : Progress → Nat
  | block size => size
  | settling => 0

namespace History

/-- The answers of all reads. -/
def readings {Event : Type} (history : History Event) : List (Reply Bytes) :=
  history.filterMap Entry.reading?

/-- The answers of all flushes. -/
def flushings {Event : Type} (history : History Event) : List (Reply Unit) :=
  history.filterMap Entry.flushing?

/-- How many bytes the reported blocks have. -/
def reported (history : History Progress) : Nat :=
  (history.events.map Progress.size).sum

@[simp]
theorem readings_append {Event : Type} (first second : History Event) :
    readings (first ++ second) = first.readings ++ second.readings :=
  List.filterMap_append

@[simp]
theorem flushings_append {Event : Type} (first second : History Event) :
    flushings (first ++ second) = first.flushings ++ second.flushings :=
  List.filterMap_append

@[simp]
theorem reported_append (first second : History Progress) :
    reported (first ++ second) = first.reported + second.reported := by
  unfold reported
  rw [events_append, List.map_append, List.sum_append]

end History

/-! ### Phases -/

/-- Where a transfer stands. -/
inductive Phase where
  /-- A block is being filled and has taken these bytes. -/
  | filling (taken : Bytes)
  /-- A block has been filled, and these bytes of it are still to be accepted. -/
  | sending (block pending : Bytes)
  /-- The input has ended. -/
  | ended
  /-- The first flush is done. -/
  | flushed
  /-- It has been reported that the output settles. -/
  | settling
  /-- The output has had its time to settle. -/
  | settled
  /-- The second flush is done. -/
  | closed
  /-- A call has failed for good. -/
  | stopped
  deriving DecidableEq

namespace Phase

/-- The phase of a block that has taken some bytes: it is sent as soon as it is full. -/
def ofTaken (size : BlockSize) (taken : Bytes) : Phase :=
  if taken.length < size.bytes then filling taken else sending taken taken

/-- A block that has room left is being filled. -/
theorem ofTaken_of_room {size : BlockSize} {taken : Bytes} {room : Nat}
    (rest : taken.length + room = size.bytes) (positive : 0 < room) :
    ofTaken size taken = filling taken :=
  if_pos (by omega)

/-- The phase behind a block that takes no more bytes; an empty one is the end of the input. -/
def ofBlock (block : Bytes) : Phase :=
  if block = [] then ended else sending block block

/-- The phase that is reached by an answer, if success leads to `next`. -/
def after (next : Phase) : Reply Unit → Phase
  | .gave () => next
  | .failed _ => stopped
  | .crashed => stopped

/-- The phase that is reached with an ending, if success leads to `next`. -/
def endingWith (next : Phase) : Ending → Phase
  | .sent _ => next
  | .failed _ => stopped
  | .crashed => stopped

/-- Whether a transfer in this phase goes on. -/
def Ongoing (phase : Phase) : Prop :=
  phase ≠ closed ∧ phase ≠ stopped

theorem ongoing_sending (block pending : Bytes) : (sending block pending).Ongoing :=
  ⟨nofun, nofun⟩

theorem ongoing_ended : ended.Ongoing :=
  ⟨nofun, nofun⟩

/-- Whether the input has ended, or a call has failed for good. -/
def Over : Phase → Prop
  | filling _ => False
  | sending .. => False
  | _ => True

end Phase

/-- What can happen in a phase, and the phase that it leads to. -/
inductive Moves (forwarder : Forwarder) : Phase → Entry Progress → Phase → Prop where
  /-- Some bytes are read into the rest of the block. -/
  | take {taken bytes : Bytes} {room : Nat} (rest : taken.length + room = forwarder.blockSize.bytes)
    (nonempty : bytes ≠ []) (fits : bytes.length ≤ room) :
    Moves forwarder (.filling taken) (.read room (.gave bytes))
      (.ofTaken forwarder.blockSize (taken ++ bytes))
  /-- A read that gives nothing ends a block that has begun, and the input otherwise. -/
  | dry {taken : Bytes} {room : Nat} (rest : taken.length + room = forwarder.blockSize.bytes) :
    Moves forwarder (.filling taken) (.read room (.gave [])) (.ofBlock taken)
  | readAgain {taken : Bytes} {room : Nat} {fault : Fault}
    (rest : taken.length + room = forwarder.blockSize.bytes)
    (again : fault.kind = .interrupted) :
    Moves forwarder (.filling taken) (.read room (.failed fault)) (.filling taken)
  | readFails {taken : Bytes} {room : Nat} {reply : Reply Bytes} {ending : Ending}
    (rest : taken.length + room = forwarder.blockSize.bytes)
    (fatal : (Entry.read room reply : Entry Progress).fatal? forwarder = some ending) :
    Moves forwarder (.filling taken) (.read room reply) .stopped
  /-- What is left of a block is offered, and some of it accepted. -/
  | send {block pending : Bytes} {count elapsed : Nat} (positive : 0 < count)
    (fits : count ≤ pending.length) :
    Moves forwarder (.sending block pending) (.write pending (.gave count) elapsed)
      (.sending block (pending.drop count))
  | writeAgain {block pending : Bytes} {fault : Fault} {elapsed : Nat} (nonempty : pending ≠ [])
    (again : fault.kind = .interrupted ∨
      fault.kind = .timedOut ∧ forwarder.mayWait elapsed = true) :
    Moves forwarder (.sending block pending) (.write pending (.failed fault) elapsed)
      (.sending block pending)
  | writeFails {block pending : Bytes} {reply : Reply Nat} {elapsed : Nat} {ending : Ending}
    (nonempty : pending ≠ [])
    (fatal : (Entry.write pending reply elapsed : Entry Progress).fatal? forwarder = some ending) :
    Moves forwarder (.sending block pending) (.write pending reply elapsed) .stopped
  /-- A block all of which has been accepted is reported. -/
  | report {block : Bytes} :
    Moves forwarder (.sending block []) (.event (.block block.length)) (.filling [])
  | flush : Moves forwarder .ended (.flush (.gave ())) .flushed
  | settle : Moves forwarder .flushed (.event .settling) .settling
  | pause : Moves forwarder .settling (.pause forwarder.settle) .settled
  | close : Moves forwarder .settled (.flush (.gave ())) .closed
  | flushFails {phase : Phase} {reply : Reply Unit} (due : phase = .ended ∨ phase = .settled)
    (fatal : reply ≠ .gave ()) :
    Moves forwarder phase (.flush reply) .stopped
  /-- Records may be written as long as the transfer goes on. -/
  | note {phase : Phase} {record : Note} (ongoing : phase.Ongoing) :
    Moves forwarder phase (.note record) phase

/-- Whether a history leads from one phase to another, move by move. -/
inductive Follows (forwarder : Forwarder) : Phase → History Progress → Phase → Prop where
  | nil {phase : Phase} : Follows forwarder phase [] phase
  | cons {phase middle last : Phase} {entry : Entry Progress} {history : History Progress}
    (move : Moves forwarder phase entry middle) (rest : Follows forwarder middle history last) :
    Follows forwarder phase (entry :: history) last

namespace Follows

variable {forwarder : Forwarder} {phase middle last : Phase} {first second : History Progress}

theorem single {entry : Entry Progress} (move : Moves forwarder phase entry last) :
    Follows forwarder phase [entry] last :=
  .cons move .nil

theorem append (earlier : Follows forwarder phase first middle)
    (later : Follows forwarder middle second last) :
    Follows forwarder phase (first ++ second) last := by
  induction earlier with
  | nil => exact later
  | cons move rest inductionHypothesis => exact .cons move (inductionHypothesis later)

/-- Between two parts of a history there is a phase. -/
theorem split (follows : Follows forwarder phase (first ++ second) last) :
    ∃ middle, Follows forwarder phase first middle ∧ Follows forwarder middle second last := by
  induction first generalizing phase with
  | nil => exact ⟨phase, .nil, follows⟩
  | cons entry rest inductionHypothesis =>
    cases follows with
    | cons move later =>
      obtain ⟨middle, before, behind⟩ := inductionHypothesis later
      exact ⟨middle, .cons move before, behind⟩

theorem ofNote (ongoing : phase.Ongoing) (observer : Observer) (record : Note) :
    Follows forwarder phase (observer.note record) phase := by
  unfold Observer.note
  split
  · exact single (.note ongoing)
  · exact .nil

theorem ofEvent {observer : Observer} (listening : observer.events = true) {reported : Progress}
    (move : Moves forwarder phase (.event reported) last) :
    Follows forwarder phase (observer.event reported) last := by
  unfold Observer.event
  rw [if_pos listening]
  exact single move

end Follows

/-! ### The phases of a transfer -/

section Course

variable {forwarder : Forwarder} {observer : Observer} {history : History Progress}

theorem Fills.follows {room : Nat} {block : Bytes} {outcome : Reply Unit}
    (fills : Fills room block outcome history) {taken : Bytes}
    (rest : taken.length + room = forwarder.blockSize.bytes) :
    Follows forwarder (.ofTaken forwarder.blockSize taken) history
      ((Phase.ofBlock (taken ++ block)).after outcome) := by
  induction fills generalizing taken with
  | full =>
    -- A full block is in its next phase already, without anything happening.
    have full : taken.length = forwarder.blockSize.bytes := rest
    have positive := forwarder.blockSize.positive
    have nonempty : taken ≠ [] := List.length_pos_iff.1 (full ▸ positive)
    rw [Phase.ofTaken, if_neg (by omega), List.append_nil, Phase.ofBlock, if_neg nonempty]
    exact .nil
  | ended positive =>
    rw [Phase.ofTaken_of_room rest positive, List.append_nil]
    exact .single (.dry rest)
  | @piece room bytes block outcome history nonempty fits later inductionHypothesis =>
    have some := List.length_pos_iff.2 nonempty
    have less : (taken ++ bytes).length + (room - bytes.length) = forwarder.blockSize.bytes := by
      rw [List.length_append]
      omega
    rw [Phase.ofTaken_of_room rest (by omega), ← List.append_assoc]
    exact .cons (.take rest nonempty fits) (inductionHypothesis less)
  | interrupted positive again later inductionHypothesis =>
    have reading := inductionHypothesis rest
    rw [Phase.ofTaken_of_room rest positive] at reading ⊢
    exact .cons (.readAgain rest again) reading
  | failed positive fatal =>
    rw [Phase.ofTaken_of_room rest positive]
    exact .single (.readFails rest (if_neg fatal))
  | crashed positive =>
    rw [Phase.ofTaken_of_room rest positive]
    exact .single (.readFails rest rfl)

theorem Sends.follows {pending : Bytes} {outcome : Reply Unit}
    (sends : Sends forwarder observer pending outcome history) (block : Bytes) :
    Follows forwarder (.sending block pending) history
      ((Phase.sending block []).after outcome) := by
  induction sends with
  | done => exact .nil
  | refused nonempty => exact .single (.writeFails nonempty rfl)
  | piece positive fits rest inductionHypothesis =>
    exact .cons (.send positive fits) inductionHypothesis
  | interrupted nonempty again rest inductionHypothesis =>
    exact .cons (.writeAgain nonempty (Or.inl again)) inductionHypothesis
  | waiting nonempty late mayWait rest inductionHypothesis =>
    refine .cons (.writeAgain nonempty (Or.inr ⟨late, mayWait⟩)) ?_
    exact (Follows.ofNote (Phase.ongoing_sending _ _) observer _).append inductionHypothesis
  | failed nonempty fatal overdue =>
    exact .single (.writeFails nonempty
      (Entry.fatal?_eq_writeFailed.2 (Or.inr ⟨fatal, _, _, rfl, overdue⟩)))
  | crashed nonempty => exact .single (.writeFails nonempty rfl)

/-- A new block is read like one that has taken nothing yet. -/
theorem Fills.follows_new {block : Bytes} {outcome : Reply Unit}
    (fills : Fills forwarder.blockSize.bytes block outcome history) :
    Follows forwarder (.filling []) history ((Phase.ofBlock block).after outcome) := by
  have new : Phase.ofTaken forwarder.blockSize [] = .filling [] :=
    if_pos forwarder.blockSize.positive
  exact new ▸ fills.follows (Nat.zero_add _)

/-- A new block that takes up some bytes is sent next. -/
theorem Fills.follows_block {block : Bytes} {outcome : Reply Unit}
    (fills : Fills forwarder.blockSize.bytes block outcome history) (nonempty : block ≠ []) :
    Follows forwarder (.filling []) history ((Phase.sending block block).after outcome) := by
  have sent : Phase.ofBlock block = .sending block block := if_neg nonempty
  exact sent ▸ fills.follows_new

theorem Copies.follows {report : Report} {ending : Ending}
    (copies : Copies forwarder observer report ending history)
    (listening : observer.events = true) :
    Follows forwarder (.filling []) history (Phase.ended.endingWith ending) := by
  induction copies with
  | ended fills => exact fills.follows_new
  | readFailed fills => exact fills.follows_new
  | readCrashed fills => exact fills.follows_new
  | @writeFailed report block fault reading writing fills nonempty sends =>
    exact (fills.follows_block nonempty).append (sends.follows block)
  | @writeCrashed report block reading writing fills nonempty sends =>
    exact (fills.follows_block nonempty).append (sends.follows block)
  | @block report block ending reading writing history fills nonempty sends rest
      inductionHypothesis =>
    have sending := (fills.follows_block nonempty).append (sends.follows block)
    refine (sending.append ?_).append inductionHypothesis
    refine (Follows.ofNote (Phase.ongoing_sending block []) observer _).append ?_
    exact .ofEvent listening .report

theorem Settles.follows {report : Report} {ending : Ending}
    (settles : Settles forwarder observer report ending history)
    (listening : observer.events = true) :
    Follows forwarder .ended history (Phase.closed.endingWith ending) := by
  cases settles with
  | stopped reply stops =>
    have flush : Follows forwarder .ended [.flush reply] .stopped :=
      .single (.flushFails (Or.inl rfl) stops)
    refine (Follows.ofNote Phase.ongoing_ended observer _).append ?_
    cases reply with
    | gave => exact absurd rfl stops
    | failed fault => exact flush
    | crashed => exact flush
  | settled reply =>
    have settling : Follows forwarder .ended
        (.flush (.gave ()) :: (observer.event .settling ++ [.pause forwarder.settle])) .settled :=
      .cons .flush ((Follows.ofEvent listening .settle).append (.single .pause))
    refine ((Follows.ofNote Phase.ongoing_ended observer _).append settling).append ?_
    cases reply with
    | gave => exact .single .close
    | failed fault => exact .single (.flushFails (Or.inr rfl) nofun)
    | crashed => exact .single (.flushFails (Or.inr rfl) nofun)

theorem Transfers.follows {ending : Ending}
    (transfers : Transfers forwarder observer ending history)
    (listening : observer.events = true)
    (enough : Shortage.ofSize? forwarder.blockSize.bytes = none) :
    Follows forwarder (.filling []) history (Phase.closed.endingWith ending) := by
  cases transfers with
  | refused short =>
    rw [enough] at short
    cases short
  | stopped _ copies stops =>
    have copying := copies.follows listening
    cases ending with
    | sent report => exact absurd rfl (stops report)
    | failed error => exact copying
    | crashed => exact copying
  | settled _ copies settles => exact (copies.follows listening).append (settles.follows listening)

end Course

/-! ### What has happened before a phase -/

/-- What a history has done when some bytes are under way: all other bytes that it has read were
accepted, the accepted ones are those of the reported blocks and `begun` more, and it has made these
flushes and reported that the output settles or not. -/
structure Account (history : History Progress) (unsent : Bytes) (begun : Nat)
    (flushes : List (Reply Unit)) (settling : Bool) : Prop where
  bytes : history.delivered = history.accepted ++ unsent
  blocks : history.accepted.length = history.reported + begun
  flushes : history.flushings = flushes
  settling : .settling ∈ history.events ↔ settling = true

namespace Account

variable {history : History Progress} {unsent : Bytes} {begun : Nat}
  {flushes : List (Reply Unit)} {settling : Bool}

theorem start : Account [] [] 0 [] false :=
  ⟨rfl, rfl, rfl, iff_of_false List.not_mem_nil Bool.false_ne_true⟩

/-- One more entry changes the bytes under way by what it delivers and what it accepts. -/
theorem next (account : Account history unsent begun flushes settling) {entry : Entry Progress}
    {left : Bytes} {more : Nat} (bytes : unsent ++ entry.delivered = entry.accepted ++ left)
    (blocks : begun + entry.accepted.length = History.reported [entry] + more) :
    Account (history ++ [entry]) left more (flushes ++ entry.flushing?.toList)
      (settling || entry.event? = some .settling) where
  bytes := by
    rw [History.delivered_append, History.accepted_append, account.bytes]
    simpa using bytes
  blocks := by
    have before := account.blocks
    rw [History.accepted_append, List.length_append, History.reported_append]
    simp only [History.accepted_cons, History.accepted_nil, List.append_nil]
    omega
  flushes := by
    rw [History.flushings_append, account.flushes]
    exact congrArg (flushes ++ ·) (List.filterMap_cons ..)
  settling := by
    rw [History.events_append, List.mem_append, account.settling, Bool.or_eq_true,
      decide_eq_true_iff, History.events_cons, History.events_nil, List.append_nil,
      Option.mem_toList]

end Account

/-- Whether a history could still go on, or was cut off: the output was reported to settle exactly
if the first flush succeeded, and no second flush has succeeded. -/
structure History.Unfinished (history : History Progress) : Prop where
  few : history.flushings.length ≤ 2
  unfinished : history.flushings ≠ [.gave (), .gave ()]
  settling : .settling ∈ history.events ↔ history.flushings.head? = some (.gave ())

theorem Account.unfinished {history : History Progress} {unsent : Bytes} {begun : Nat}
    {flushes : List (Reply Unit)} {settling : Bool}
    (account : Account history unsent begun flushes settling) (few : flushes.length ≤ 2)
    (unfinished : flushes ≠ [.gave (), .gave ()])
    (reported : settling = true ↔ flushes.head? = some (.gave ())) : history.Unfinished := by
  obtain ⟨_, _, rfl, told⟩ := account
  exact ⟨few, unfinished, told.trans reported⟩

/-- A history without a flush is unfinished. -/
theorem Account.unfinished_of_nil {history : History Progress} {unsent : Bytes} {begun : Nat}
    (account : Account history unsent begun [] false) : history.Unfinished :=
  account.unfinished (Nat.zero_le 2) nofun (iff_of_false nofun nofun)

/-- Whether a block cannot take more bytes, because it is full or the last read gave nothing. -/
def History.Filled (size : BlockSize) (block : Bytes) (history : History Progress) : Prop :=
  block.length = size.bytes ∨ history.readings.getLast? = some (.gave [])

/-- A block stays filled when something happens that is no read. -/
theorem History.Filled.concat {size : BlockSize} {block : Bytes} {history : History Progress}
    (filled : history.Filled size block) {entry : Entry Progress} (other : entry.reading? = none) :
    History.Filled size block (history ++ [entry]) := by
  have nothing : readings [entry] = [] := List.filterMap_cons_none other
  unfold Filled
  rw [readings_append, nothing, List.append_nil]
  exact filled

/-- What a write accepts is the beginning of what it was offered. -/
theorem Entry.exists_accepted_append (offered : Bytes) (reply : Reply Nat) (elapsed : Nat) :
    ∃ left, offered = (write offered reply elapsed : Entry Progress).accepted ++ left := by
  cases reply with
  | gave count => exact ⟨offered.drop count, (List.take_append_drop count offered).symm⟩
  | failed fault => exact ⟨offered, rfl⟩
  | crashed => exact ⟨offered, rfl⟩

namespace Phase

/-- What is known of the history before a phase. -/
def Holds (size : BlockSize) (history : History Progress) : Phase → Prop
  | filling taken => taken.length < size.bytes ∧ Account history taken 0 [] false
  | sending block pending => ∃ begun, begun + pending.length = block.length ∧
      history.Filled size block ∧
      Account history pending begun [] false
  | ended => Account history [] 0 [] false
  | flushed => Account history [] 0 [.gave ()] false
  | settling => Account history [] 0 [.gave ()] true
  | settled => Account history [] 0 [.gave ()] true
  | closed => Account history [] 0 [.gave (), .gave ()] true
  | stopped => history.Unfinished

end Phase

section Holds

variable {forwarder : Forwarder} {history : History Progress} {phase next : Phase}

/-- What a phase knows of the history before it is carried on by one move. -/
theorem Moves.holds {entry : Entry Progress} (move : Moves forwarder phase entry next)
    (holds : phase.Holds forwarder.blockSize history) :
    next.Holds forwarder.blockSize (history ++ [entry]) := by
  cases move with
  | @take taken bytes room rest nonempty fits =>
    obtain ⟨short, account⟩ := holds
    have reading : Account (history ++ [.read room (.gave bytes)]) (taken ++ bytes) 0 [] false :=
      account.next rfl rfl
    unfold Phase.ofTaken
    split
    · rename_i less
      exact ⟨less, reading⟩
    · rename_i full
      rw [List.length_append] at full
      refine ⟨0, Nat.zero_add _, Or.inl ?_, reading⟩
      rw [List.length_append]
      omega
  | @dry taken room rest =>
    obtain ⟨short, account⟩ := holds
    have reading : Account (history ++ [.read room (.gave [])]) taken 0 [] false :=
      account.next (List.append_nil taken) rfl
    unfold Phase.ofBlock
    split
    · rename_i empty
      rw [empty] at reading
      exact reading
    · refine ⟨0, Nat.zero_add _, Or.inr ?_, reading⟩
      rw [History.readings_append]
      exact List.getLast?_concat
  | readAgain rest again =>
    obtain ⟨short, account⟩ := holds
    exact ⟨short, account.next (List.append_nil _) rfl⟩
  | readFails rest fatal =>
    obtain ⟨short, account⟩ := holds
    exact (account.next rfl rfl).unfinished_of_nil
  | @send block pending count elapsed positive fits =>
    obtain ⟨begun, whole, filled, account⟩ := holds
    have accepted : (pending.take count).length = count := List.length_take_of_le fits
    refine ⟨begun + count, ?_, filled.concat rfl, account.next ?_ ?_⟩
    · rw [List.length_drop]
      omega
    · exact (List.append_nil pending).trans (List.take_append_drop count pending).symm
    · exact (congrArg (begun + ·) accepted).trans (Nat.zero_add _).symm
  | @writeAgain block pending fault elapsed nonempty again =>
    obtain ⟨begun, whole, filled, account⟩ := holds
    exact ⟨begun, whole, filled.concat rfl,
      account.next (List.append_nil pending) (Nat.zero_add begun).symm⟩
  | @writeFails block pending reply elapsed ending nonempty fatal =>
    obtain ⟨begun, whole, filled, account⟩ := holds
    obtain ⟨left, split⟩ := Entry.exists_accepted_append pending reply elapsed
    have writing : Account (history ++ [.write pending reply elapsed]) left _ [] false :=
      account.next ((List.append_nil pending).trans split) (Nat.zero_add _).symm
    exact writing.unfinished_of_nil
  | @report block =>
    obtain ⟨begun, whole, filled, account⟩ := holds
    refine ⟨forwarder.blockSize.positive, account.next rfl ?_⟩
    exact whole
  | flush => exact Account.next holds rfl rfl
  | settle => exact Account.next holds rfl rfl
  | pause => exact Account.next holds rfl rfl
  | close => exact Account.next holds rfl rfl
  | @flushFails _ reply due fatal =>
    rcases due with rfl | rfl
    · have account : Account (history ++ [.flush reply]) [] 0 [reply] false := holds.next rfl rfl
      refine account.unfinished (Nat.le_succ 1) nofun (iff_of_false nofun fun first => ?_)
      exact fatal (Option.some.inj first)
    · have account : Account (history ++ [.flush reply]) [] 0 [.gave (), reply] true :=
        holds.next rfl rfl
      refine account.unfinished (Nat.le_refl 2) (fun same => ?_) (iff_of_true rfl rfl)
      exact fatal (List.cons.inj (List.cons.inj same).2).1
  | note ongoing =>
    cases phase with
    | filling taken => exact ⟨holds.1, holds.2.next (List.append_nil taken) rfl⟩
    | sending block pending =>
      obtain ⟨begun, whole, filled, account⟩ := holds
      exact ⟨begun, whole, filled.concat rfl,
        account.next (List.append_nil pending) (Nat.zero_add begun).symm⟩
    | ended => exact Account.next holds rfl rfl
    | flushed => exact Account.next holds rfl rfl
    | settling => exact Account.next holds rfl rfl
    | settled => exact Account.next holds rfl rfl
    | closed => exact absurd rfl ongoing.1
    | stopped => exact absurd rfl ongoing.2

/-- What a phase knows of the history before it is carried on by many moves. -/
theorem Follows.holds {later : History Progress} (follows : Follows forwarder phase later next)
    (holds : phase.Holds forwarder.blockSize history) :
    next.Holds forwarder.blockSize (history ++ later) := by
  induction follows generalizing history with
  | nil => rwa [List.append_nil]
  | @cons phase middle last entry rest move later inductionHypothesis =>
    rw [List.append_cons]
    exact inductionHypothesis (move.holds holds)

theorem Follows.holds_start {later : History Progress}
    (follows : Follows forwarder (.filling []) later next) :
    next.Holds forwarder.blockSize later := by
  have start : (Phase.filling []).Holds forwarder.blockSize [] :=
    ⟨forwarder.blockSize.positive, .start⟩
  exact follows.holds start

end Holds

/-! ### The calls of a transfer -/

section Calls

variable {forwarder : Forwarder} {phase next last : Phase} {history before after : History Progress}

theorem Moves.of_read {room : Nat} {reply : Reply Bytes}
    (move : Moves forwarder phase (.read room reply) next) :
    ∃ taken, phase = .filling taken ∧ taken.length + room = forwarder.blockSize.bytes := by
  cases move with
  | take rest nonempty fits => exact ⟨_, rfl, rest⟩
  | dry rest => exact ⟨_, rfl, rest⟩
  | readAgain rest again => exact ⟨_, rfl, rest⟩
  | readFails rest fatal => exact ⟨_, rfl, rest⟩

theorem Moves.of_write {offered : Bytes} {reply : Reply Nat} {elapsed : Nat}
    (move : Moves forwarder phase (.write offered reply elapsed) next) :
    ∃ block, phase = .sending block offered := by
  cases move with
  | send positive fits => exact ⟨_, rfl⟩
  | writeAgain nonempty again => exact ⟨_, rfl⟩
  | writeFails nonempty fatal => exact ⟨_, rfl⟩

theorem Moves.of_flush {reply : Reply Unit} (move : Moves forwarder phase (.flush reply) next) :
    phase = .ended ∨ phase = .settled := by
  cases move with
  | flush => exact Or.inl rfl
  | close => exact Or.inr rfl
  | flushFails due fatal => exact due

/-- When the input has ended nothing is read or written any more. -/
theorem Moves.of_over {entry : Entry Progress} (move : Moves forwarder phase entry next)
    (past : phase.Over) : next.Over ∧ entry.isRead = false ∧ entry.isWrite = false := by
  cases move with
  | flush => exact ⟨trivial, rfl, rfl⟩
  | settle => exact ⟨trivial, rfl, rfl⟩
  | pause => exact ⟨trivial, rfl, rfl⟩
  | close => exact ⟨trivial, rfl, rfl⟩
  | flushFails => exact ⟨trivial, rfl, rfl⟩
  | note => exact ⟨past, rfl, rfl⟩
  | _ => exact past.elim

theorem Follows.free_of_over (follows : Follows forwarder phase history last)
    (past : phase.Over) : history.ReadFree ∧ history.WriteFree := by
  induction follows with
  | nil => exact ⟨nofun, nofun⟩
  | cons move rest inductionHypothesis =>
    obtain ⟨overNext, noRead, noWrite⟩ := move.of_over past
    obtain ⟨readFree, writeFree⟩ := inductionHypothesis overNext
    exact ⟨List.forall_mem_cons.2 ⟨noRead, readFree⟩, List.forall_mem_cons.2 ⟨noWrite, writeFree⟩⟩

/-- When something is read, all bytes of the blocks before have been accepted and reported. -/
theorem Follows.at_read {room : Nat} {reply : Reply Bytes}
    (follows : Follows forwarder (.filling []) (before ++ .read room reply :: after) last) :
    before.flushings = [] ∧ before.accepted.length = before.reported ∧
      ∃ taken, before.delivered = before.accepted ++ taken ∧
        taken.length + room = forwarder.blockSize.bytes := by
  obtain ⟨phase, earlier, later⟩ := follows.split
  cases later with
  | cons move rest =>
    obtain ⟨taken, rfl, room⟩ := move.of_read
    obtain ⟨short, account⟩ := earlier.holds_start
    exact ⟨account.flushes, account.blocks, taken, account.bytes, room⟩

/-- When something is written, it is what has been read and not accepted yet, and the block that it
is the rest of takes no more bytes. -/
theorem Follows.at_write {offered : Bytes} {reply : Reply Nat} {elapsed : Nat}
    (follows : Follows forwarder (.filling []) (before ++ .write offered reply elapsed :: after)
      last) :
    before.flushings = [] ∧ before.delivered = before.accepted ++ offered ∧
      ∃ begun, before.accepted.length = before.reported + begun ∧
        (begun + offered.length = forwarder.blockSize.bytes ∨
          before.readings.getLast? = some (.gave [])) := by
  obtain ⟨phase, earlier, later⟩ := follows.split
  cases later with
  | cons move rest =>
    obtain ⟨block, rfl⟩ := move.of_write
    obtain ⟨begun, whole, filled, account⟩ := earlier.holds_start
    exact ⟨account.flushes, account.bytes, begun, account.blocks, whole ▸ filled⟩

/-- When the port is flushed, everything that was read has been accepted, and nothing more is read
or written. -/
theorem Follows.at_flush {reply : Reply Unit}
    (follows : Follows forwarder (.filling []) (before ++ .flush reply :: after) last) :
    before.delivered = before.accepted ∧ after.ReadFree ∧ after.WriteFree := by
  obtain ⟨phase, earlier, later⟩ := follows.split
  have known := earlier.holds_start
  cases later with
  | cons move rest =>
    have past : phase.Over ∧ before.delivered = before.accepted := by
      rcases move.of_flush with rfl | rfl
      · exact ⟨trivial, known.bytes.trans (List.append_nil _)⟩
      · exact ⟨trivial, known.bytes.trans (List.append_nil _)⟩
    exact ⟨past.2, rest.free_of_over (move.of_over past.1).1⟩

end Calls

/-! ### The order of a transfer -/

section Order

variable {forwarder : Forwarder} {observer : Observer} {ending : Ending}
  {history : History Progress}

theorem Transfers.exists_follows (transfers : Transfers forwarder observer ending history)
    (listening : observer.events = true) :
    ∃ last, Follows forwarder (.filling []) history last := by
  cases capacity : Shortage.ofSize? forwarder.blockSize.bytes with
  | some shortage =>
    rw [(transfers.of_short capacity).2]
    exact ⟨_, .nil⟩
  | none => exact ⟨_, transfers.follows listening capacity⟩

/-- The flushes of a transfer tell whether the output was reported to settle and whether everything
was sent. -/
theorem Transfers.flushings (transfers : Transfers forwarder observer ending history)
    (listening : observer.events = true) :
    (.settling ∈ history.events ↔ history.flushings.head? = some (.gave ())) ∧
      history.flushings.length ≤ 2 ∧
      (history.flushings = [.gave (), .gave ()] ↔ ∃ report, ending = .sent report) := by
  cases capacity : Shortage.ofSize? forwarder.blockSize.bytes with
  | some shortage =>
    obtain ⟨rfl, rfl⟩ := transfers.of_short capacity
    exact ⟨iff_of_false nofun nofun, Nat.zero_le 2, iff_of_false nofun nofun⟩
  | none =>
    have known := (transfers.follows listening capacity).holds_start
    cases ending with
    | sent report =>
      rw [known.flushes]
      exact ⟨iff_of_true (known.settling.2 rfl) rfl, Nat.le_refl 2, iff_of_true rfl ⟨report, rfl⟩⟩
    | failed error => exact ⟨known.settling, known.few, iff_of_false known.unfinished nofun⟩
    | crashed => exact ⟨known.settling, known.few, iff_of_false known.unfinished nofun⟩

end Order

/-- A transfer goes through its phases in order, up to the second flush or up to a call that fails
for good; without a buffer nothing happens. The answers of its calls are those of its devices.
Whenever something is read, no block is partly written. Whenever something is written, its block has
been read as far as it goes, and what is offered is all that has been read and not accepted yet.
Whenever the port is flushed, everything that was read has been accepted, and nothing is read or
written afterwards. The output is reported to settle exactly if the first flush succeeds, there are
two flushes at most, and the transfer has sent everything exactly if two were made and succeeded. -/
theorem transfer_phases {π : Type} [Port π] (forwarder : Forwarder) (verbosity : Verbosity)
    (source : Source) (port : π) :
    let run := forwarder.transfer { verbosity } source port
    let size := forwarder.blockSize.bytes
    run.AnsweredBy source port ∧
    (∀ shortage, Shortage.ofSize? size = some shortage → run.history = []) ∧
    (Shortage.ofSize? size = none →
      Follows forwarder (.filling []) run.history (Phase.closed.endingWith run.ending)) ∧
    (∀ (before after : History Progress) room reply,
      run.history = before ++ .read room reply :: after →
        before.flushings = [] ∧ before.accepted.length = before.reported ∧
          ∃ taken, before.delivered = before.accepted ++ taken ∧ taken.length + room = size) ∧
    (∀ (before after : History Progress) offered reply elapsed,
      run.history = before ++ .write offered reply elapsed :: after →
        before.flushings = [] ∧ before.delivered = before.accepted ++ offered ∧
          ∃ begun, before.accepted.length = before.reported + begun ∧
            (begun + offered.length = size ∨ before.readings.getLast? = some (.gave []))) ∧
    (∀ (before after : History Progress) reply,
      run.history = before ++ .flush reply :: after →
        before.delivered = before.accepted ∧ after.ReadFree ∧ after.WriteFree) ∧
    (.settling ∈ run.history.events ↔ run.history.flushings.head? = some (.gave ())) ∧
    run.history.flushings.length ≤ 2 ∧
    (run.history.flushings = [.gave (), .gave ()] ↔ ∃ report, run.ending = .sent report) := by
  intro run size
  have transfers : Transfers forwarder { verbosity } run.ending run.history :=
    transfer_transfers forwarder { verbosity } source port
  obtain ⟨last, follows⟩ := transfers.exists_follows rfl
  refine ⟨transfer_answered forwarder { verbosity } source port,
    fun _ short => (transfers.of_short short).2, fun enough => transfers.follows rfl enough, ?_, ?_, ?_, transfers.flushings rfl⟩
  · intro before after room reply here
    exact (here ▸ follows).at_read
  · intro before after offered reply elapsed here
    exact (here ▸ follows).at_write
  · intro before after reply here
    exact (here ▸ follows).at_flush

end SerialFeed
