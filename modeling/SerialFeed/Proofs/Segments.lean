/-
This file looks at the history of a transfer in two ways that leave out how its calls were cut to
pieces. The segments are the bytes between one read that gave nothing and the next, however many
reads delivered them. The blocks are what was offered to the port for the first time, however many
writes it took to send them. Between the two stand the chunks of some bytes: pieces of one size, the
last of them possibly shorter.

Each part of a transfer has its effect on both views. The reads that fill a block either go on with
a segment or end it, and the writes that send a block add just this block.
-/

import Mathlib.Algebra.GroupWithZero.Nat
import SerialFeed.Proofs.Course

namespace SerialFeed

/-! ### Reads that give nothing -/

namespace Entry

variable {Event : Type}

/-- Whether a read gave nothing, which a source does at its end, but may do anywhere. -/
def isDry : Entry Event → Bool
  | read _ (.gave []) => true
  | _ => false

theorem isDry_of_isRead {entry : Entry Event} (other : entry.isRead = false) :
    entry.isDry = false := by
  cases entry with
  | read => cases other
  | _ => rfl

end Entry

namespace History

variable {Event : Type} {first second : History Event}

/-- Whether no read of a history gave nothing. -/
def Wet (history : History Event) : Prop :=
  ∀ entry ∈ history, entry.isDry = false

theorem ReadFree.wet (free : first.ReadFree) : first.Wet :=
  fun entry member => Entry.isDry_of_isRead (free entry member)

/-! ### The segments of an input -/

/-- The segments that are ended by a read that gives nothing, if some bytes of the first of them
have been read already. -/
def segmentsFrom (begun : Bytes) : History Event → List Bytes
  | [] => []
  | entry :: rest =>
    if entry.isDry then begun :: segmentsFrom [] rest
    else segmentsFrom (begun ++ entry.delivered) rest

/-- What was read before the first read that gave nothing, between it and the next, and so on. -/
def segments (history : History Event) : List Bytes :=
  segmentsFrom [] history

/-- As long as every read gives something, the segment goes on. -/
theorem segmentsFrom_append (wet : first.Wet) (begun : Bytes) :
    segmentsFrom begun (first ++ second) = segmentsFrom (begun ++ first.delivered) second := by
  induction first generalizing begun with
  | nil => rw [List.nil_append, delivered_nil, List.append_nil]
  | cons entry rest inductionHypothesis =>
    have damp : entry.isDry = false := wet entry List.mem_cons_self
    have later : Wet rest := fun other member => wet other (List.mem_cons_of_mem entry member)
    rw [List.cons_append, segmentsFrom, damp, if_neg Bool.false_ne_true,
      inductionHypothesis later, delivered_cons, List.append_assoc]

theorem segmentsFrom_append_of_readFree (free : first.ReadFree) (begun : Bytes) :
    segmentsFrom begun (first ++ second) = segmentsFrom begun second := by
  rw [segmentsFrom_append free.wet, free.delivered, List.append_nil]

/-- A segment that is not ended does not count. -/
theorem segmentsFrom_eq_nil (wet : first.Wet) (begun : Bytes) : segmentsFrom begun first = [] := by
  have ended : segmentsFrom begun (first ++ []) = segmentsFrom (begun ++ first.delivered) [] :=
    segmentsFrom_append wet begun
  rw [List.append_nil] at ended
  exact ended

theorem segmentsFrom_append_of_wet (wet : second.Wet) (begun : Bytes) :
    segmentsFrom begun (first ++ second) = segmentsFrom begun first := by
  induction first generalizing begun with
  | nil => exact segmentsFrom_eq_nil wet begun
  | cons entry rest inductionHypothesis =>
    rw [List.cons_append, segmentsFrom, segmentsFrom, inductionHypothesis, inductionHypothesis]

/-! ### The blocks that were sent -/

/-- What was offered for the first time since a read, if there was a read right before or not. -/
def blocksFrom (fresh : Bool) : History Event → List Bytes
  | [] => []
  | .read .. :: rest => blocksFrom true rest
  | .write offered .. :: rest =>
    if fresh then offered :: blocksFrom false rest else blocksFrom false rest
  | _ :: rest => blocksFrom fresh rest

/-- The blocks that a port was handed: what each write offered that was the first since a read. -/
def blocks (history : History Event) : List Bytes :=
  blocksFrom true history

theorem blocksFrom_append_of_readFree (free : first.ReadFree) :
    blocksFrom false (first ++ second) = blocksFrom false second := by
  induction first with
  | nil => rfl
  | cons entry rest inductionHypothesis =>
    have later := inductionHypothesis fun other member =>
      free other (List.mem_cons_of_mem entry member)
    cases entry with
    | read room reply => cases free _ List.mem_cons_self
    | _ => exact later

theorem blocksFrom_eq_nil (free : first.WriteFree) (fresh : Bool) :
    blocksFrom fresh first = [] := by
  induction first generalizing fresh with
  | nil => rfl
  | cons entry rest inductionHypothesis =>
    have later := inductionHypothesis fun other member =>
      free other (List.mem_cons_of_mem entry member)
    cases entry with
    | write offered reply elapsed => cases free _ List.mem_cons_self
    | _ => exact later _

theorem blocksFrom_append_of_writeFree (free : second.WriteFree) (fresh : Bool) :
    blocksFrom fresh (first ++ second) = blocksFrom fresh first := by
  induction first generalizing fresh with
  | nil => exact blocksFrom_eq_nil free fresh
  | cons entry rest inductionHypothesis =>
    cases entry with
    | write offered reply elapsed =>
      cases fresh with
      | true => exact congrArg (offered :: ·) (inductionHypothesis false)
      | false => exact inductionHypothesis false
    | _ => exact inductionHypothesis _

/-- After some reads everything that is offered is new. -/
theorem blocksFrom_append_of_reads (nonempty : first ≠ [])
    (reads : ∀ entry ∈ first, entry.isRead = true) (fresh : Bool) :
    blocksFrom fresh (first ++ second) = blocksFrom true second := by
  induction first generalizing fresh with
  | nil => exact absurd rfl nonempty
  | cons entry rest inductionHypothesis =>
    have later : ∀ other ∈ rest, other.isRead = true := fun other member =>
      reads other (List.mem_cons_of_mem entry member)
    cases entry with
    | read room reply =>
      by_cases last : rest = []
      · rw [last]
        rfl
      · exact inductionHypothesis last later true
    | _ => cases reads _ List.mem_cons_self

end History

/-! ### The chunks of some bytes -/

/-- The pieces of a size into which bytes can be cut from the front. -/
def chunks (size : BlockSize) (bytes : Bytes) : List Bytes :=
  if bytes = [] then [] else bytes.take size.bytes :: chunks size (bytes.drop size.bytes)
termination_by bytes.length
decreasing_by
  rename_i nonempty
  have some := List.length_pos_iff.2 nonempty
  have positive := size.positive
  rw [List.length_drop]
  omega

section Chunks

variable {size : BlockSize} {bytes : Bytes}

@[simp]
theorem chunks_nil : chunks size [] = [] := by
  rw [chunks, if_pos rfl]

theorem chunks_of_ne_nil (nonempty : bytes ≠ []) :
    chunks size bytes = bytes.take size.bytes :: chunks size (bytes.drop size.bytes) := by
  rw [chunks, if_neg nonempty]

theorem chunks_of_length_le (nonempty : bytes ≠ []) (short : bytes.length ≤ size.bytes) :
    chunks size bytes = [bytes] := by
  rw [chunks_of_ne_nil nonempty, List.take_of_length_le short, List.drop_eq_nil_of_le short,
    chunks_nil]

/-- A full block at the front is the first chunk. -/
theorem chunks_append_of_length_eq {block : Bytes} (full : block.length = size.bytes) :
    chunks size (block ++ bytes) = block :: chunks size bytes := by
  have nonempty : block ++ bytes ≠ [] := by
    have positive := size.positive
    rw [← full] at positive
    exact List.append_ne_nil_of_left_ne_nil (List.length_pos_iff.1 positive) bytes
  rw [chunks_of_ne_nil nonempty, List.take_left' full, List.drop_left' full]

/-- Bytes can be cut apart where a chunk ends. -/
theorem chunks_append_of_dvd {first : Bytes} (whole : size.bytes ∣ first.length) :
    chunks size (first ++ bytes) = chunks size first ++ chunks size bytes := by
  fun_induction chunks size first with
  | case1 => rfl
  | case2 first nonempty inductionHypothesis =>
    have some := List.length_pos_iff.2 nonempty
    have enough : size.bytes ≤ first.length := Nat.le_of_dvd some whole
    have full : (first.take size.bytes).length = size.bytes := List.length_take_of_le enough
    have rest : size.bytes ∣ (first.drop size.bytes).length := by
      rw [List.length_drop]
      exact Nat.dvd_sub whole (Nat.dvd_refl _)
    calc chunks size (first ++ bytes)
      _ = chunks size (first.take size.bytes ++ (first.drop size.bytes ++ bytes)) := by
        rw [← List.append_assoc, List.take_append_drop]
      _ = first.take size.bytes :: chunks size (first.drop size.bytes ++ bytes) :=
        chunks_append_of_length_eq full
      _ = _ := by rw [inductionHypothesis rest, List.cons_append]

/-- The chunks are the bytes again. -/
theorem flatten_chunks (size : BlockSize) (bytes : Bytes) :
    (chunks size bytes).flatten = bytes := by
  fun_induction chunks size bytes with
  | case1 => rfl
  | case2 bytes nonempty inductionHypothesis =>
    rw [List.flatten_cons, inductionHypothesis, List.take_append_drop]

/-- There are as many chunks as the length divided by the size, rounded up. -/
theorem length_chunks (size : BlockSize) (bytes : Bytes) :
    (chunks size bytes).length = (bytes.length + size.bytes - 1) / size.bytes := by
  have positive := size.positive
  fun_induction chunks size bytes with
  | case1 =>
    refine (Nat.div_eq_of_lt ?_).symm
    rw [List.length_nil]
    omega
  | case2 bytes nonempty inductionHypothesis =>
    have some := List.length_pos_iff.2 nonempty
    rw [List.length_cons, inductionHypothesis, List.length_drop]
    by_cases short : bytes.length ≤ size.bytes
    · have none : bytes.length - size.bytes + size.bytes - 1 < size.bytes := by omega
      have one : bytes.length + size.bytes - 1 = (bytes.length - 1) + size.bytes := by omega
      rw [Nat.div_eq_of_lt none, one, Nat.add_div_right _ positive,
        Nat.div_eq_of_lt (by omega : bytes.length - 1 < size.bytes)]
    · have less : bytes.length + size.bytes - 1 =
          (bytes.length - size.bytes + size.bytes - 1) + size.bytes := by omega
      rw [less, Nat.add_div_right _ positive]

/-- The chunks of several pieces are the pieces again. -/
theorem flatten_flatMap_chunks (size : BlockSize) (pieces : List Bytes) :
    (pieces.flatMap (chunks size)).flatten = pieces.flatten := by
  induction pieces with
  | nil => rfl
  | cons piece rest inductionHypothesis =>
    rw [List.flatMap_cons, List.flatten_append, flatten_chunks, inductionHypothesis,
      List.flatten_cons]

theorem length_flatMap_chunks (size : BlockSize) (pieces : List Bytes) :
    (pieces.flatMap (chunks size)).length =
      (pieces.map fun piece => (piece.length + size.bytes - 1) / size.bytes).sum := by
  rw [List.length_flatMap]
  exact congrArg List.sum (congrArg (pieces.map ·) (funext (length_chunks size)))

end Chunks

/-! ### The parts of a transfer -/

namespace Fills

variable {room : Nat} {block : Bytes} {outcome : Reply Unit} {history : History Progress}

/-- Where there is room, something is read. -/
theorem history_ne_nil (fills : Fills room block outcome history) (positive : 0 < room) :
    history ≠ [] := by
  cases fills with
  | full => exact absurd positive (Nat.lt_irrefl 0)
  | _ => exact List.cons_ne_nil _ _

/-- A block is filled without a read that gives nothing, or its last read is the only such read and
the block is short. -/
theorem wet_or_dry (fills : Fills room block outcome history) :
    (history.Wet ∧ (outcome = .gave () → block.length = room)) ∨
      (outcome = .gave () ∧ block.length < room ∧
        ∃ before wanted, history = before ++ [.read wanted (.gave [])] ∧ History.Wet before) := by
  induction fills with
  | full => exact Or.inl ⟨fun _ member => (nomatch member), fun _ => rfl⟩
  | ended positive =>
    exact Or.inr ⟨rfl, positive, [], _, rfl, fun _ member => nomatch member⟩
  | @piece room bytes block outcome history nonempty fits rest inductionHypothesis =>
    have damp : (Entry.read room (.gave bytes) : Entry Progress).isDry = false := by
      cases bytes with
      | nil => exact absurd rfl nonempty
      | cons => rfl
    refine inductionHypothesis.imp ?_ ?_
    · rintro ⟨wet, full⟩
      refine ⟨List.forall_mem_cons.2 ⟨damp, wet⟩, fun gave => ?_⟩
      rw [List.length_append, full gave]
      omega
    · rintro ⟨gave, short, before, wanted, rfl, wet⟩
      refine ⟨gave, ?_, _ :: before, wanted, rfl, List.forall_mem_cons.2 ⟨damp, wet⟩⟩
      rw [List.length_append]
      omega
  | interrupted positive again rest inductionHypothesis =>
    refine inductionHypothesis.imp ?_ ?_
    · rintro ⟨wet, full⟩
      exact ⟨List.forall_mem_cons.2 ⟨rfl, wet⟩, full⟩
    · rintro ⟨gave, short, before, wanted, rfl, wet⟩
      exact ⟨gave, short, _ :: before, wanted, rfl, List.forall_mem_cons.2 ⟨rfl, wet⟩⟩
  | failed positive fatal =>
    exact Or.inl ⟨List.forall_mem_singleton.2 rfl, fun gave => nomatch gave⟩
  | crashed positive =>
    exact Or.inl ⟨List.forall_mem_singleton.2 rfl, fun gave => nomatch gave⟩

/-- A full block goes on with its segment. -/
theorem segmentsFrom_of_full (fills : Fills room block (.gave ()) history)
    (full : block.length = room) (begun : Bytes) (rest : History Progress) :
    History.segmentsFrom begun (history ++ rest) = History.segmentsFrom (begun ++ block) rest := by
  rcases fills.wet_or_dry with ⟨wet, _⟩ | ⟨_, short, _⟩
  · rw [History.segmentsFrom_append wet, fills.delivered]
  · exact absurd full (Nat.ne_of_lt short)

/-- A short block ends its segment. -/
theorem segmentsFrom_of_short (fills : Fills room block (.gave ()) history)
    (short : block.length < room) (begun : Bytes) (rest : History Progress) :
    History.segmentsFrom begun (history ++ rest) =
      (begun ++ block) :: History.segmentsFrom [] rest := by
  rcases fills.wet_or_dry with ⟨_, full⟩ | ⟨_, _, before, wanted, rfl, wet⟩
  · exact absurd (full rfl) (Nat.ne_of_lt short)
  · have read := fills.delivered
    rw [History.delivered_append] at read
    rw [List.append_assoc, History.segmentsFrom_append wet, ← read]
    exact congrArg (· :: _) (congrArg (begun ++ ·) (List.append_nil before.delivered).symm)

theorem blocksFrom_append (fills : Fills room block outcome history) (positive : 0 < room)
    (fresh : Bool) (rest : History Progress) :
    History.blocksFrom fresh (history ++ rest) = History.blocksFrom true rest :=
  History.blocksFrom_append_of_reads (fills.history_ne_nil positive) fills.reads fresh

end Fills

namespace Sends

variable {forwarder : Forwarder} {observer : Observer} {block : Bytes} {outcome : Reply Unit}
  {history : History Progress}

/-- The first write of a block offers all of it. -/
theorem exists_eq_cons (sends : Sends forwarder observer block outcome history)
    (nonempty : block ≠ []) :
    ∃ reply elapsed rest, history = .write block reply elapsed :: rest := by
  cases sends with
  | done => exact absurd rfl nonempty
  | _ => exact ⟨_, _, _, rfl⟩

/-- However many writes it takes, one block is sent. -/
theorem blocksFrom_append (sends : Sends forwarder observer block outcome history)
    (nonempty : block ≠ []) (rest : History Progress) :
    History.blocksFrom true (history ++ rest) = block :: History.blocksFrom false rest := by
  obtain ⟨reply, elapsed, others, rfl⟩ := sends.exists_eq_cons nonempty
  have free : History.ReadFree others := fun entry member =>
    sends.readFree entry (List.mem_cons_of_mem _ member)
  exact congrArg (block :: ·) (History.blocksFrom_append_of_readFree free)

end Sends

section Block

variable {forwarder : Forwarder} {observer : Observer} {block : Bytes}
  {reading writing rest : History Progress}

/-- However a block was read and written, it is one block. -/
theorem blocksFrom_ofBlock (fills : Fills forwarder.blockSize.bytes block (.gave ()) reading)
    (nonempty : block ≠ []) (sends : Sends forwarder observer block (.gave ()) writing)
    (fresh : Bool) :
    History.blocksFrom fresh (.ofBlock observer block reading writing ++ rest) =
      block :: rest.blocksFrom false := by
  rw [History.ofBlock_append, List.append_assoc,
    fills.blocksFrom_append forwarder.blockSize.positive, sends.blocksFrom_append nonempty,
    History.blocksFrom_append_of_readFree (observer.readFree_note _),
    History.blocksFrom_append_of_readFree (observer.readFree_event _)]

/-- No read of a full block gives nothing. -/
theorem wet_ofBlock (fills : Fills forwarder.blockSize.bytes block (.gave ()) reading)
    (sends : Sends forwarder observer block (.gave ()) writing)
    (full : block.length = forwarder.blockSize.bytes) :
    History.Wet (.ofBlock observer block reading writing) := by
  rcases fills.wet_or_dry with ⟨wet, _⟩ | ⟨_, short, _⟩
  · have free : History.ReadFree (observer.note (.blockSent block) ++
        observer.event (Progress.block block.length)) :=
      (observer.readFree_note _).append (observer.readFree_event _)
    exact List.forall_mem_append.2
      ⟨List.forall_mem_append.2 ⟨wet, sends.readFree.wet⟩, free.wet⟩
  · exact absurd full (Nat.ne_of_lt short)

/-- After a full block the segment goes on, and after a short one there begins another. -/
theorem segmentsFrom_ofBlock (fills : Fills forwarder.blockSize.bytes block (.gave ()) reading)
    (sends : Sends forwarder observer block (.gave ()) writing) (begun : Bytes) :
    History.segmentsFrom begun (.ofBlock observer block reading writing ++ rest) =
      if block.length = forwarder.blockSize.bytes then rest.segmentsFrom (begun ++ block)
      else (begun ++ block) :: rest.segmentsFrom [] := by
  have later : ∀ other, History.segmentsFrom other (writing ++ (observer.note (.blockSent block) ++
      (observer.event (.block block.length) ++ rest))) = rest.segmentsFrom other := by
    intro other
    rw [History.segmentsFrom_append_of_readFree sends.readFree,
      History.segmentsFrom_append_of_readFree (observer.readFree_note _),
      History.segmentsFrom_append_of_readFree (observer.readFree_event _)]
  rw [History.ofBlock_append, List.append_assoc]
  split
  · rename_i full
    rw [fills.segmentsFrom_of_full full, later]
  · rename_i partly
    rw [fills.segmentsFrom_of_short (Nat.lt_of_le_of_ne fills.length_le partly), later]

end Block

end SerialFeed
