/-
This file shows that the log of a transfer is a faithful record of what was sent. With every record
written down, a transfer is a row of passages, one for each block that was sent, and a rest in which
no block is sent to its end. The last entries of a passage are the write with which the port took
what was left of the block, the record of the block, and its event; so a block is never recorded
before the port has all of it, and the recorded bytes are the accepted ones but for a part of a
block whose write has failed for good.

The records are taken as they are written: the bytes of a block are read back from the text.
-/

import SerialFeed.Proofs.Phases
import SerialFeed.Proofs.Tally

namespace SerialFeed

/-! ### The blocks that are recorded -/

/-- The block that the text of a record shows, in digits without capitals. -/
def Note.sentBlock? (note : Note) : Option Bytes :=
  match note.text.toList with
  | 't' :: 'x' :: ' ' :: digits =>
    if digits.all Text.Hex.digits.contains then Text.Hex.decode digits else none
  | _ => none

namespace Note

/-- The record of a block shows the block. -/
theorem sentBlock?_blockSent (block : Bytes) : (blockSent block).sentBlock? = some block := by
  have text : (blockSent block).text.toList = 't' :: 'x' :: ' ' :: Text.Hex.encode block := by
    have parts : (blockSent block).text = "tx " ++ Text.Hex.text block := rfl
    rw [parts, String.toList_append, Text.Hex.text, String.toList_ofList, String.toList_ofList]
    rfl
  have plain : (Text.Hex.encode block).all Text.Hex.digits.contains = true :=
    List.all_eq_true.2 fun _ member => List.contains_iff_mem.2 (Text.Hex.mem_encode member)
  unfold sentBlock?
  rw [text]
  simp only
  rw [if_pos plain, Text.Hex.decode_encode]

/-- No other record begins like that of a block. -/
theorem head?_text_ne {note : Note} (other : ∀ block, note ≠ blockSent block) :
    note.text.toList.head? ≠ some 't' := by
  cases note with
  | blockSent block => exact absurd rfl (other block)
  | _ =>
    unfold text
    simp only [String.toList_append, List.head?_append]
    exact nofun

theorem sentBlock?_eq_none {note : Note} (other : ∀ block, note ≠ blockSent block) :
    note.sentBlock? = none := by
  have head := head?_text_ne other
  unfold sentBlock?
  split
  · rename_i text
    rw [text] at head
    exact absurd rfl head
  · rfl

end Note

namespace Entry

/-- Whether an entry says that a block was sent: its record or its event. -/
def closesBlock : Entry Progress → Bool
  | note (.blockSent _) => true
  | event (.block _) => true
  | _ => false

/-- Whether an entry may stand between the first and the last write of a block. -/
def IsWriting (entry : Entry Progress) : Prop :=
  entry.isWrite = true ∨ ∃ pending, entry = note (.portBusy pending)

variable {entry : Entry Progress}

theorem isWrite_of_isRead (isRead : entry.isRead = true) : entry.isWrite = false := by
  cases entry with
  | read => rfl
  | _ => cases isRead

theorem closesBlock_of_isRead (isRead : entry.isRead = true) : entry.closesBlock = false := by
  cases entry with
  | read => rfl
  | _ => cases isRead

theorem IsWriting.closesBlock (writing : entry.IsWriting) : entry.closesBlock = false := by
  rcases writing with isWrite | ⟨pending, rfl⟩
  · cases entry with
    | write => rfl
    | _ => cases isWrite
  · rfl

end Entry

namespace History

/-- The blocks that the records show. -/
def recorded (history : History Progress) : List Bytes :=
  history.notes.filterMap Note.sentBlock?

theorem recorded_append (first second : History Progress) :
    recorded (first ++ second) = first.recorded ++ second.recorded := by
  unfold recorded notes
  rw [List.filterMap_append, List.filterMap_append]

/-- Whether no block is sent to its end. -/
def Unclosed (history : History Progress) : Prop :=
  ∀ entry ∈ history, entry.closesBlock = false

variable {history first second : History Progress}

theorem Unclosed.append (left : first.Unclosed) (right : second.Unclosed) :
    Unclosed (first ++ second) :=
  List.forall_mem_append.2 ⟨left, right⟩

theorem Unclosed.recorded (unclosed : history.Unclosed) : history.recorded = [] := by
  refine List.filterMap_eq_nil_iff.2 fun note member => ?_
  obtain ⟨entry, inHistory, isNote⟩ := List.mem_filterMap.1 member
  cases entry with
  | note record =>
    cases isNote
    refine Note.sentBlock?_eq_none fun block same => ?_
    subst same
    cases unclosed _ inHistory
  | _ => cases isNote

theorem Unclosed.sizes (unclosed : history.Unclosed) : history.sizes = [] := by
  refine List.filterMap_eq_nil_iff.2 fun reported member => ?_
  obtain ⟨entry, inHistory, isEvent⟩ := List.mem_filterMap.1 member
  cases entry with
  | event told =>
    cases isEvent
    cases reported with
    | block size => cases unclosed _ inHistory
    | settling => rfl
  | _ => cases isEvent

end History

/-! ### The passages of a transfer -/

/-- The passage of a block that is sent. -/
structure Passage where
  block : Bytes
  reading : History Progress
  writing : History Progress

namespace Passage

/-- What happens from the first read of the block to its event. -/
def entries (passage : Passage) : History Progress :=
  passage.reading ++ passage.writing ++
    [.note (.blockSent passage.block), .event (.block passage.block.length)]

/-- Whether the block is read, and then written until a last write has the rest of it accepted;
nothing but records that the port is busy comes between the writes. -/
structure Complete (passage : Passage) : Prop where
  reads : ∀ entry ∈ passage.reading, entry.isRead = true
  delivered : passage.reading.delivered = passage.block
  writes : ∀ entry ∈ passage.writing, entry.IsWriting
  accepted : passage.writing.accepted = passage.block
  last : ∃ offered elapsed, [.write offered (.gave offered.length) elapsed] <:+ passage.writing

variable {passage : Passage}

theorem Complete.unclosed (complete : passage.Complete) :
    History.Unclosed (passage.reading ++ passage.writing) :=
  List.forall_mem_append.2
    ⟨fun entry member => Entry.closesBlock_of_isRead (complete.reads entry member),
      fun entry member => (complete.writes entry member).closesBlock⟩

theorem Complete.recorded (complete : passage.Complete) :
    passage.entries.recorded = [passage.block] := by
  unfold entries
  rw [History.recorded_append, complete.unclosed.recorded, List.nil_append]
  exact List.filterMap_cons_some (Note.sentBlock?_blockSent passage.block)

theorem Complete.sizes (complete : passage.Complete) :
    passage.entries.sizes = [passage.block.length] := by
  unfold entries
  rw [History.sizes_append, complete.unclosed.sizes]
  rfl

theorem Complete.accepted_entries (complete : passage.Complete) :
    passage.entries.accepted = passage.block := by
  have free : History.WriteFree passage.reading := fun entry member =>
    Entry.isWrite_of_isRead (complete.reads entry member)
  unfold entries
  rw [History.accepted_append, History.accepted_append, free.accepted, complete.accepted]
  exact List.append_nil _

end Passage

/-- Whether a history is a row of passages and a rest in which no block is sent to its end. -/
structure History.Passes (history : History Progress) (passages : List Passage)
    (rest : History Progress) : Prop where
  split : history = passages.flatMap Passage.entries ++ rest
  complete : ∀ passage ∈ passages, passage.Complete
  unclosed : rest.Unclosed

namespace History.Passes

variable {history rest other : History Progress} {passage : Passage} {passages : List Passage}

theorem of_unclosed (unclosed : history.Unclosed) : history.Passes [] history :=
  ⟨rfl, nofun, unclosed⟩

theorem cons (complete : passage.Complete) (passes : history.Passes passages rest) :
    History.Passes (passage.entries ++ history) (passage :: passages) rest where
  split := by rw [passes.split, List.flatMap_cons, List.append_assoc]
  complete := List.forall_mem_cons.2 ⟨complete, passes.complete⟩
  unclosed := passes.unclosed

theorem append (passes : history.Passes passages rest) (unclosed : other.Unclosed) :
    History.Passes (history ++ other) passages (rest ++ other) where
  split := by rw [passes.split, List.append_assoc]
  complete := passes.complete
  unclosed := passes.unclosed.append unclosed

theorem recorded (passes : history.Passes passages rest) :
    history.recorded = passages.map Passage.block := by
  obtain ⟨rfl, complete, unclosed⟩ := passes
  induction passages with
  | nil => exact unclosed.recorded
  | cons passage others inductionHypothesis =>
    obtain ⟨first, later⟩ := List.forall_mem_cons.1 complete
    rw [List.flatMap_cons, List.append_assoc, History.recorded_append, first.recorded,
      inductionHypothesis later]
    rfl

theorem sizes (passes : history.Passes passages rest) :
    history.sizes = history.recorded.map List.length := by
  rw [passes.recorded]
  obtain ⟨rfl, complete, unclosed⟩ := passes
  induction passages with
  | nil => exact unclosed.sizes
  | cons passage others inductionHypothesis =>
    obtain ⟨first, later⟩ := List.forall_mem_cons.1 complete
    rw [List.flatMap_cons, List.append_assoc, History.sizes_append, first.sizes,
      inductionHypothesis later]
    rfl

theorem accepted (passes : history.Passes passages rest) :
    history.accepted = history.recorded.flatten ++ rest.accepted := by
  rw [passes.recorded]
  obtain ⟨rfl, complete, unclosed⟩ := passes
  induction passages with
  | nil => rfl
  | cons passage others inductionHypothesis =>
    obtain ⟨first, later⟩ := List.forall_mem_cons.1 complete
    rw [List.flatMap_cons, List.append_assoc, History.accepted_append, first.accepted_entries,
      inductionHypothesis later, List.map_cons, List.flatten_cons, List.append_assoc]

end History.Passes

/-! ### What goes unrecorded -/

/-- The blocks that an ending leaves unrecorded, and the bytes of them that were accepted: a part of
one block, but not all of it, if a write has failed for good or a device has crashed in it. -/
def Ending.Omits (blocks : List Bytes) (part : Bytes) : Ending → Prop
  | .failed (.writeFailed _) => ∃ lost, lost ≠ [] ∧ blocks = [part ++ lost]
  | .crashed => (blocks = [] ∧ part = []) ∨ ∃ lost, lost ≠ [] ∧ blocks = [part ++ lost]
  | _ => blocks = [] ∧ part = []

/-- An observer for whom every record is written. -/
def Observer.tracing : Observer :=
  { verbosity := some .trace }

theorem Observer.note_tracing {Event : Type} (record : Note) :
    (tracing.note record : History Event) = [.note record] := by
  cases record <;> rfl

section Copies

variable {forwarder : Forwarder} {report : Report} {ending : Ending} {history : History Progress}

theorem Fills.unclosed {room : Nat} {block : Bytes} {outcome : Reply Unit}
    (fills : Fills room block outcome history) : history.Unclosed :=
  fun entry member => Entry.closesBlock_of_isRead (fills.reads entry member)

/-- Between the writes of a block there is nothing but records that the port is busy. -/
theorem Sends.isWriting {observer : Observer} {block : Bytes} {outcome : Reply Unit}
    (sends : Sends forwarder observer block outcome history) :
    ∀ entry ∈ history, entry.IsWriting := by
  have write : ∀ offered reply elapsed,
      Entry.IsWriting (.write offered reply elapsed) := fun _ _ _ => Or.inl rfl
  induction sends with
  | done => exact nofun
  | refused nonempty => exact List.forall_mem_singleton.2 (write _ _ _)
  | piece positive fits rest inductionHypothesis =>
    exact List.forall_mem_cons.2 ⟨write _ _ _, inductionHypothesis⟩
  | interrupted nonempty again rest inductionHypothesis =>
    exact List.forall_mem_cons.2 ⟨write _ _ _, inductionHypothesis⟩
  | waiting nonempty late mayWait rest inductionHypothesis =>
    refine List.forall_mem_cons.2 ⟨write _ _ _, List.forall_mem_append.2 ⟨?_, inductionHypothesis⟩⟩
    exact fun entry member => Or.inr ⟨_, Observer.eq_of_mem_note member⟩
  | failed nonempty fatal overdue => exact List.forall_mem_singleton.2 (write _ _ _)
  | crashed nonempty => exact List.forall_mem_singleton.2 (write _ _ _)

theorem Sends.unclosed {observer : Observer} {block : Bytes} {outcome : Reply Unit}
    (sends : Sends forwarder observer block outcome history) : history.Unclosed :=
  fun entry member => (sends.isWriting entry member).closesBlock

/-- The last write of a block that is sent has everything accepted that was left of it. -/
theorem Sends.last {observer : Observer} {block : Bytes}
    (sends : Sends forwarder observer block (.gave ()) history) (nonempty : block ≠ []) :
    ∃ offered elapsed, [.write offered (.gave offered.length) elapsed] <:+ history := by
  generalize gave : Reply.gave () = outcome at sends
  induction sends with
  | done => exact absurd rfl nonempty
  | refused nonempty => cases gave
  | @piece block count elapsed outcome history positive fits rest inductionHypothesis =>
    by_cases whole : block.drop count = []
    · have all : count = block.length := Nat.le_antisymm fits (List.drop_eq_nil_iff.1 whole)
      obtain ⟨rfl, _⟩ := (whole ▸ rest).of_nil
      rw [all]
      exact ⟨block, elapsed, List.suffix_rfl⟩
    · obtain ⟨offered, later, last⟩ := inductionHypothesis whole gave
      exact ⟨offered, later, last.trans (List.suffix_cons _ _)⟩
  | interrupted nonempty again rest inductionHypothesis =>
    obtain ⟨offered, later, last⟩ := inductionHypothesis nonempty gave
    exact ⟨offered, later, last.trans (List.suffix_cons _ _)⟩
  | waiting nonempty late mayWait rest inductionHypothesis =>
    obtain ⟨offered, later, last⟩ := inductionHypothesis nonempty gave
    exact ⟨offered, later, (last.trans (List.suffix_append _ _)).trans (List.suffix_cons _ _)⟩
  | failed nonempty fatal overdue => cases gave
  | crashed nonempty => cases gave

/-- A block that was sent is a passage. -/
theorem complete_passage {observer : Observer} {room : Nat} {block : Bytes}
    {reading writing : History Progress} (fills : Fills room block (.gave ()) reading)
    (nonempty : block ≠ []) (sends : Sends forwarder observer block (.gave ()) writing) :
    Passage.Complete ⟨block, reading, writing⟩ where
  reads := fills.reads
  delivered := fills.delivered
  writes := sends.isWriting
  accepted := sends.accepted_of_gave
  last := sends.last nonempty

theorem ofBlock_tracing (block : Bytes) (reading writing : History Progress) :
    History.ofBlock .tracing block reading writing =
      Passage.entries ⟨block, reading, writing⟩ := by
  unfold History.ofBlock
  rw [Observer.note_tracing]
  rfl

/-- A block of which the port has accepted some part only goes unrecorded. -/
theorem Sends.passes {observer : Observer} {room : Nat} {block : Bytes} {outcome : Reply Unit}
    {reading writing : History Progress} (positive : 0 < room)
    (fills : Fills room block (.gave ()) reading) (nonempty : block ≠ [])
    (sends : Sends forwarder observer block outcome writing) (stops : outcome ≠ .gave ())
    (fresh : Bool) :
    History.Passes (reading ++ writing) [] (reading ++ writing) ∧
      ∃ lost, lost ≠ [] ∧ History.blocksFrom fresh (reading ++ writing) =
        [History.accepted (reading ++ writing) ++ lost] := by
  obtain ⟨lost, split, whole⟩ := sends.accepted
  have blocks := sends.blocksFrom_append nonempty []
  rw [List.append_nil] at blocks
  refine ⟨.of_unclosed (fills.unclosed.append sends.unclosed), lost,
    fun none => stops (whole.1 none), ?_⟩
  rw [fills.blocksFrom_append positive, blocks, History.accepted_append, fills.accepted,
    List.nil_append, ← split]
  rfl

/-- Blocks are copied in passages, and the blocks that are recorded are those that are counted. -/
theorem Copies.passes (copies : Copies forwarder .tracing report ending history) (fresh : Bool) :
    ∃ passages rest unrecorded, history.Passes passages rest ∧
      history.blocksFrom fresh = passages.map Passage.block ++ unrecorded ∧
      ending.Omits unrecorded rest.accepted ∧
      ∀ final, ending = .sent final →
        final = (passages.map Passage.block).foldl Report.add report := by
  have positive := forwarder.blockSize.positive
  induction copies generalizing fresh with
  | @ended report reading fills =>
    refine ⟨[], reading, [], .of_unclosed fills.unclosed,
      History.blocksFrom_eq_nil fills.writeFree fresh, ⟨rfl, fills.accepted⟩, ?_⟩
    rintro _ ⟨⟩
    rfl
  | @readFailed _ _ _ reading fills =>
    exact ⟨[], reading, [], .of_unclosed fills.unclosed,
      History.blocksFrom_eq_nil fills.writeFree fresh, ⟨rfl, fills.accepted⟩, nofun⟩
  | @readCrashed _ _ reading fills =>
    exact ⟨[], reading, [], .of_unclosed fills.unclosed,
      History.blocksFrom_eq_nil fills.writeFree fresh, Or.inl ⟨rfl, fills.accepted⟩, nofun⟩
  | writeFailed fills nonempty sends =>
    obtain ⟨passes, lost, some, blocks⟩ := sends.passes positive fills nonempty nofun fresh
    exact ⟨[], _, _, passes, blocks, ⟨lost, some, rfl⟩, nofun⟩
  | writeCrashed fills nonempty sends =>
    obtain ⟨passes, lost, some, blocks⟩ := sends.passes positive fills nonempty nofun fresh
    exact ⟨[], _, _, passes, blocks, Or.inr ⟨lost, some, rfl⟩, nofun⟩
  | @block report block _ reading writing _ fills nonempty sends rest inductionHypothesis =>
    obtain ⟨passages, others, unrecorded, passes, blocks, omits, counted⟩ :=
      inductionHypothesis false
    refine ⟨⟨block, reading, writing⟩ :: passages, others, unrecorded, ?_, ?_, omits, counted⟩
    · rw [ofBlock_tracing]
      exact passes.cons (complete_passage fills nonempty sends)
    · rw [blocksFrom_ofBlock fills nonempty sends, blocks]
      rfl

end Copies

/-! ### The records that the port is busy -/

/-- Whether each record that the port is busy tells how much the next write offers. -/
def History.Announced (history : History Progress) : Prop :=
  ∀ (before after : History Progress) pending,
    history = before ++ .note (.portBusy pending) :: after →
      ∃ offered reply elapsed later, after = .write offered reply elapsed :: later ∧
        offered.length = pending

namespace History

variable {history first second : History Progress}

/-- Where the port is never recorded to be busy. -/
theorem announced_of_forall_ne
    (idle : ∀ entry ∈ history, ∀ pending, entry ≠ .note (.portBusy pending)) :
    history.Announced := by
  rintro before after pending rfl
  exact absurd rfl (idle _ (List.mem_append_right _ List.mem_cons_self) pending)

theorem Announced.append (left : first.Announced) (right : second.Announced) :
    Announced (first ++ second) := by
  intro before after pending same
  rcases List.append_eq_append_iff.1 same with ⟨middle, rfl, later⟩ | ⟨middle, rfl, later⟩
  · exact right middle after pending later
  · cases middle with
    | nil => exact right [] after pending later.symm
    | cons entry others =>
      obtain ⟨rfl, rfl⟩ := List.cons.inj later
      obtain ⟨offered, reply, elapsed, rest, rfl, length⟩ := left before others pending rfl
      exact ⟨offered, reply, elapsed, rest ++ second, rfl, length⟩

/-- A record that the port is busy, right before a write of what is pending. -/
theorem announced_cons {offered : Bytes} {reply : Reply Nat} {elapsed : Nat}
    (announced : Announced (.write offered reply elapsed :: history)) :
    Announced (.note (.portBusy offered.length) :: .write offered reply elapsed :: history) := by
  intro before after pending same
  cases before with
  | nil =>
    obtain ⟨⟨⟩, rfl⟩ := List.cons.inj same
    exact ⟨offered, reply, elapsed, history, rfl, rfl⟩
  | cons entry others => exact announced others after pending (List.cons.inj same).2

end History

section Announced

variable {forwarder : Forwarder} {observer : Observer} {ending : Ending}
  {history : History Progress}

theorem Sends.announced {block : Bytes} {outcome : Reply Unit}
    (sends : Sends forwarder observer block outcome history) : history.Announced := by
  have write : ∀ (offered : Bytes) reply elapsed,
      History.Announced [.write offered reply elapsed] := fun _ _ _ =>
    History.announced_of_forall_ne (List.forall_mem_singleton.2 nofun)
  induction sends with
  | done => exact History.announced_of_forall_ne nofun
  | refused nonempty => exact write _ _ _
  | piece positive fits rest inductionHypothesis => exact (write _ _ _).append inductionHypothesis
  | interrupted nonempty again rest inductionHypothesis =>
    exact (write _ _ _).append inductionHypothesis
  | @waiting block fault elapsed _ history nonempty late mayWait rest inductionHypothesis =>
    refine (write _ _ _).append (?_ : History.Announced (observer.note _ ++ history))
    obtain ⟨reply, later, others, rfl⟩ := rest.exists_eq_cons nonempty
    unfold Observer.note
    split
    · exact History.announced_cons inductionHypothesis
    · exact inductionHypothesis
  | failed nonempty fatal overdue => exact write _ _ _
  | crashed nonempty => exact write _ _ _

theorem Fills.announced {room : Nat} {block : Bytes} {outcome : Reply Unit}
    (fills : Fills room block outcome history) : history.Announced := by
  refine History.announced_of_forall_ne fun entry member pending same => ?_
  obtain ⟨wanted, reply, _, _, rfl⟩ := fills.eq_read_of_mem member
  cases same

theorem Copies.announced {report : Report}
    (copies : Copies forwarder observer report ending history) : history.Announced := by
  induction copies with
  | ended fills => exact fills.announced
  | readFailed fills => exact fills.announced
  | readCrashed fills => exact fills.announced
  | writeFailed fills nonempty sends => exact fills.announced.append sends.announced
  | writeCrashed fills nonempty sends => exact fills.announced.append sends.announced
  | @block _ block _ _ _ _ fills nonempty sends rest inductionHypothesis =>
    have closing : History.Announced (observer.note (.blockSent block) ++
        observer.event (.block block.length)) := by
      refine History.announced_of_forall_ne (List.forall_mem_append.2 ⟨?_, ?_⟩)
      · rintro _ member pending rfl
        cases Observer.eq_of_mem_note member
      · rintro _ member pending rfl
        cases Observer.eq_of_mem_event member
    exact ((fills.announced.append sends.announced).append closing).append inductionHypothesis

theorem Settles.announced {report : Report}
    (settles : Settles forwarder observer report ending history) : history.Announced := by
  refine History.announced_of_forall_ne fun entry member pending => ?_
  rcases settles.eq_of_mem member with rfl | rfl | ⟨_, rfl⟩ | ⟨_, rfl⟩ <;> exact nofun

theorem Transfers.announced (transfers : Transfers forwarder observer ending history) :
    history.Announced := by
  cases transfers with
  | refused short => exact History.announced_of_forall_ne nofun
  | stopped enough copies stops => exact copies.announced
  | settled enough copies settles => exact copies.announced.append settles.announced

end Announced

/-! ### The record of the end of the input -/

section Settling

variable {forwarder : Forwarder} {observer : Observer} {report : Report} {ending : Ending}
  {history : History Progress}

theorem Settles.unclosed (settles : Settles forwarder observer report ending history) :
    history.Unclosed := by
  intro entry member
  rcases settles.eq_of_mem member with rfl | rfl | ⟨_, rfl⟩ | ⟨_, rfl⟩ <;> rfl

/-- While the output settles, nothing is left to be recorded. -/
theorem Settles.omits (settles : Settles forwarder observer report ending history) :
    ending.Omits [] [] := by
  have ofFlush : ∀ reply, (Ending.ofFlush report reply).Omits [] [] := by
    intro reply
    cases reply with
    | gave => exact ⟨rfl, rfl⟩
    | failed fault => exact ⟨rfl, rfl⟩
    | crashed => exact Or.inl ⟨rfl, rfl⟩
  cases settles with
  | stopped reply stops => exact ofFlush reply
  | settled reply => exact ofFlush reply

/-- The end of the input is recorded right before the first flush. -/
theorem Settles.exists_eq_cons (settles : Settles forwarder .tracing report ending history) :
    ∃ reply after, history = .note (.inputExhausted report) :: .flush reply :: after := by
  cases settles with
  | stopped reply stops => exact ⟨_, _, rfl⟩
  | settled reply => exact ⟨_, _, rfl⟩

/-- Before the input has ended there are no flushes. -/
theorem Copies.flushings (copies : Copies forwarder observer report ending history) :
    history.flushings = [] := by
  have reads : ∀ {room block outcome reading}, Fills room block outcome reading →
      reading.flushings = [] := fun fills => List.filterMap_eq_nil_iff.2 fun entry member => by
    obtain ⟨wanted, reply, _, _, rfl⟩ := fills.eq_read_of_mem member
    rfl
  have writes : ∀ {block outcome writing}, Sends forwarder observer block outcome writing →
      writing.flushings = [] := fun sends => List.filterMap_eq_nil_iff.2 fun entry member => by
    rcases sends.eq_write_or_note_of_mem member with ⟨_, _, _, _, _, rfl⟩ | ⟨_, rfl⟩
    · rfl
    · rfl
  induction copies with
  | ended fills => exact reads fills
  | readFailed fills => exact reads fills
  | readCrashed fills => exact reads fills
  | writeFailed fills nonempty sends =>
    rw [History.flushings_append, reads fills, writes sends]
    rfl
  | writeCrashed fills nonempty sends =>
    rw [History.flushings_append, reads fills, writes sends]
    rfl
  | @block _ block _ _ _ _ fills nonempty sends rest inductionHypothesis =>
    have note : (observer.note (.blockSent block) : History Progress).flushings = [] :=
      List.filterMap_eq_nil_iff.2 fun _ member => Observer.eq_of_mem_note member ▸ rfl
    have event : (observer.event (Progress.block block.length)).flushings = [] :=
      List.filterMap_eq_nil_iff.2 fun _ member => Observer.eq_of_mem_event member ▸ rfl
    unfold History.ofBlock
    rw [History.flushings_append, History.flushings_append, History.flushings_append,
      History.flushings_append, reads fills, writes sends, note, event, inductionHypothesis]
    rfl

/-- Whether the end of the input is recorded right before the first flush, if there is one, with
the number of the recorded blocks and that of their bytes. -/
def History.Concludes (history : History Progress) : Prop :=
  history.flushings ≠ [] → ∃ (before : History Progress) (reply : Reply Unit)
    (after : History Progress),
    history = before ++ .note (.inputExhausted ⟨UInt64.ofNat history.recorded.length,
      UInt64.ofNat history.recorded.flatten.length⟩) :: .flush reply :: after ∧
    before.flushings = []

/-- A transfer is a row of passages, which are recorded as they are counted. -/
theorem Transfers.passes (transfers : Transfers forwarder .tracing ending history) :
    ∃ passages rest unrecorded, history.Passes passages rest ∧
      history.blocks = history.recorded ++ unrecorded ∧ ending.Omits unrecorded rest.accepted ∧
      history.Concludes := by
  cases transfers with
  | refused short =>
    exact ⟨[], [], [], .of_unclosed nofun, rfl, ⟨rfl, rfl⟩, fun some => absurd rfl some⟩
  | stopped enough copies stops =>
    obtain ⟨passages, rest, unrecorded, passes, blocks, omits, _⟩ := copies.passes true
    refine ⟨passages, rest, unrecorded, passes, ?_, omits, fun some => absurd copies.flushings some⟩
    rw [passes.recorded]
    exact blocks
  | @settled report ending copying settling enough copies settles =>
    obtain ⟨passages, rest, unrecorded, passes, blocks, ⟨rfl, lost⟩, counted⟩ := copies.passes true
    have all := passes.append settles.unclosed
    refine ⟨passages, rest ++ settling, [], all, ?_, ?_, fun _ => ?_⟩
    · rw [all.recorded]
      exact (History.blocksFrom_append_of_writeFree settles.writeFree true).trans blocks
    · rw [History.accepted_append, lost, settles.writeFree.accepted]
      exact settles.omits
    · obtain ⟨reply, after, rfl⟩ := settles.exists_eq_cons
      have total : report = ⟨UInt64.ofNat (passages.map Passage.block).length,
          UInt64.ofNat (passages.map Passage.block).flatten.length⟩ := by
        rw [counted report rfl, foldl_add]
        exact congrArg₂ Report.mk (UInt64.zero_add _) (UInt64.zero_add _)
      refine ⟨copying, reply, after, ?_, copies.flushings⟩
      rw [all.recorded, ← total]

end Settling

/-- A number of 64 bits is written like the number that it stands for. -/
theorem toString_ofNat {number : Nat} (small : number < 2 ^ 64) :
    toString (UInt64.ofNat number) = toString number :=
  congrArg (fun value : Nat => toString value) (UInt64.toNat_ofNat_of_lt small)

/-- There are no more recorded bytes, and no more recorded blocks, than bytes in the input. -/
theorem length_recorded_le {π : Type} [Port π] (forwarder : Forwarder) (source : Source)
    (port : π) :
    let recorded := (forwarder.transfer .tracing source port).history.recorded
    recorded.length ≤ recorded.flatten.length ∧
      recorded.flatten.length ≤ source.pending.length := by
  intro recorded
  have transfers := transfer_transfers forwarder .tracing source port
  obtain ⟨passages, rest, unrecorded, passes, _⟩ := transfers.passes
  obtain ⟨sent, begun, taken, tally, _⟩ := transfers.tally rfl
  obtain ⟨lost, read, _⟩ := transfers.integrity
  have fewer := tally.sum_sizes.1
  rw [passes.sizes, List.length_map, ← List.length_flatten] at fewer
  refine ⟨fewer, ?_⟩
  rw [← transfer_taken forwarder .tracing source port, read, passes.accepted, List.append_assoc,
    List.append_assoc, List.length_append]
  exact Nat.le_add_right _ _

/-- The log of a transfer is a faithful record of what was sent, if every record is written: of the
bytes that the source gave and the port took when they were called. The transfer is a row of
passages: each is read and written, and then the block is recorded and reported; outside of them no
block is recorded or reported. So there is one record for each event, after the last write of the
block and directly before the event, and the records show the blocks in hexadecimal digits, each of
the size that its event tells. If everything was sent, or a read or a flush failed, these are all
blocks, and the port has accepted them and nothing else; if a write failed, the port has accepted a
part of one block more, but not all of it. The record right before the first flush tells how many
blocks and bytes are recorded, and a record that the port is busy tells how many bytes the next
write offers. -/
theorem transfer_log {π : Type} [Port π] (forwarder : Forwarder) (source : Source) (port : π) :
    let run := forwarder.transfer { verbosity := some .trace } source port
    let recorded := run.history.recorded
    run.AnsweredBy source port ∧
    (∃ (passages : List Passage) (rest : History Progress),
      run.history = passages.flatMap Passage.entries ++ rest ∧
      (∀ passage ∈ passages, passage.Complete) ∧ (∀ entry ∈ rest, entry.closesBlock = false) ∧
      recorded = passages.map Passage.block) ∧
    run.history.sizes = recorded.map List.length ∧
    ((∃ report, run.ending = .sent report) ∨ (∃ fault, run.ending = .failed (.readFailed fault)) ∨
      (∃ fault, run.ending = .failed (.flushFailed fault)) →
        run.history.blocks = recorded ∧ run.history.accepted = recorded.flatten) ∧
    (∀ fault, run.ending = .failed (.writeFailed fault) →
      ∃ part lost, lost ≠ [] ∧ run.history.blocks = recorded ++ [part ++ lost] ∧
        run.history.accepted = recorded.flatten ++ part) ∧
    (run.history.flushings ≠ [] →
      ∃ (before : History Progress) (report : Report) (reply : Reply Unit)
        (after : History Progress),
        run.history = before ++ .note (.inputExhausted report) :: .flush reply :: after ∧
        before.flushings = [] ∧
        report = ⟨UInt64.ofNat recorded.length, UInt64.ofNat recorded.flatten.length⟩ ∧
        (source.pending.length < 2 ^ 64 → (Note.inputExhausted report).text =
          s!"input exhausted after {recorded.length} blocks ({recorded.flatten.length} bytes)")) ∧
    ∀ (before after : History Progress) pending,
      run.history = before ++ .note (.portBusy pending) :: after →
        ∃ offered reply elapsed later, after = .write offered reply elapsed :: later ∧
          (Note.portBusy pending).text =
            s!"port busy, {offered.length} bytes of block pending" := by
  intro run recorded
  have transfers : Transfers forwarder .tracing run.ending run.history :=
    transfer_transfers forwarder .tracing source port
  obtain ⟨passages, rest, unrecorded, passes, blocks, omits, concludes⟩ := transfers.passes
  have accepted : run.history.accepted = recorded.flatten ++ rest.accepted := passes.accepted
  refine ⟨transfer_answered forwarder .tracing source port, ⟨passages, rest, passes.split, passes.complete, passes.unclosed, passes.recorded⟩,
    passes.sizes, fun well => ?_, fun fault failed => ?_, fun some => ?_,
    fun before after pending here => ?_⟩
  · have none : unrecorded = [] ∧ rest.accepted = [] := by
      rcases well with ⟨report, same⟩ | ⟨fault, same⟩ | ⟨fault, same⟩
      · rwa [same] at omits
      · rwa [same] at omits
      · rwa [same] at omits
    rw [none.1, List.append_nil] at blocks
    rw [none.2, List.append_nil] at accepted
    exact ⟨blocks, accepted⟩
  · rw [failed] at omits
    obtain ⟨lost, some, rfl⟩ := omits
    exact ⟨rest.accepted, lost, some, blocks, accepted⟩
  · obtain ⟨before, reply, after, split, first⟩ := concludes some
    obtain ⟨fewer, bytes⟩ : recorded.length ≤ recorded.flatten.length ∧
        recorded.flatten.length ≤ source.pending.length :=
      length_recorded_le forwarder source port
    refine ⟨before, _, reply, after, split, first, rfl, fun input => ?_⟩
    have small := Nat.lt_of_le_of_lt bytes input
    rw [← toString_ofNat small, ← toString_ofNat (Nat.lt_of_le_of_lt fewer small)]
    rfl
  · obtain ⟨offered, reply, elapsed, later, rfl, rfl⟩ :=
      transfers.announced before after pending here
    exact ⟨offered, reply, elapsed, later, rfl, rfl⟩

end SerialFeed
