/-
This file compares what a transfer does with the rule that the first read that gives nothing is the
end of the input: that nothing is read after it, and that only the last block can be short. The rule
is kept by a transfer whose first such read comes where a block is full, or whose port does not take
all that was read before, and by no other. Otherwise the read falls inside a block, the short block
is sent, and the transfer reads on; a source that then has more to give makes it send more blocks
behind the short one.
-/

import SerialFeed.Proofs.Segments

namespace SerialFeed

/-! ### Histories that stop reading at the end -/

namespace History

variable {Event : Type} {first second : History Event}

/-- Whether nothing is read after a read that gave nothing. -/
def StopsAtEnd (history : History Event) : Prop :=
  history.Pairwise fun earlier later => earlier.isDry = true → later.isRead = false

/-- Whether every block but the last is full. -/
def FullButLast (size : BlockSize) (history : History Event) : Prop :=
  ∀ block ∈ history.blocks.dropLast, block.length = size.bytes

instance (history : History Event) : Decidable history.StopsAtEnd :=
  inferInstanceAs (Decidable (List.Pairwise _ history))

instance (size : BlockSize) (history : History Event) : Decidable (history.FullButLast size) :=
  inferInstanceAs (Decidable (∀ block ∈ history.blocks.dropLast, block.length = size.bytes))

theorem Wet.stopsAtEnd (wet : first.Wet) : first.StopsAtEnd := by
  refine List.pairwise_iff_forall_sublist.2 fun {earlier later} order dry => ?_
  have member : earlier ∈ first := order.subset List.mem_cons_self
  rw [wet earlier member] at dry
  cases dry

/-- Reads that all give something forbid nothing. -/
theorem stopsAtEnd_append_of_wet (wet : first.Wet) :
    StopsAtEnd (first ++ second) ↔ second.StopsAtEnd := by
  unfold StopsAtEnd
  rw [List.pairwise_append]
  refine ⟨fun ⟨_, kept, _⟩ => kept, fun kept => ⟨wet.stopsAtEnd, kept, ?_⟩⟩
  intro earlier member later _ dry
  rw [wet earlier member] at dry
  cases dry

/-- What is no read is not forbidden. -/
theorem stopsAtEnd_append_of_readFree (free : second.ReadFree) :
    StopsAtEnd (first ++ second) ↔ first.StopsAtEnd := by
  unfold StopsAtEnd
  rw [List.pairwise_append]
  refine ⟨fun ⟨kept, _, _⟩ => kept, fun kept => ⟨kept, free.wet.stopsAtEnd, ?_⟩⟩
  exact fun _ _ later member _ => free later member

theorem not_stopsAtEnd_append {dry read : Entry Event} (inFirst : dry ∈ first)
    (isDry : dry.isDry = true) (inSecond : read ∈ second) (isRead : read.isRead = true) :
    ¬ StopsAtEnd (first ++ second) := by
  intro stops
  have apart := (List.pairwise_append.1 stops).2.2 dry inFirst read inSecond isDry
  rw [isRead] at apart
  cases apart

end History

/-! ### The parts of a transfer -/

variable {forwarder : Forwarder} {observer : Observer} {history : History Progress}

/-- The reads that fill one block stop at the end of the input. -/
theorem Fills.stopsAtEnd {room : Nat} {block : Bytes} {outcome : Reply Unit}
    (fills : Fills room block outcome history) : history.StopsAtEnd := by
  rcases fills.wet_or_dry with ⟨wet, _⟩ | ⟨_, _, before, wanted, rfl, wet⟩
  · exact wet.stopsAtEnd
  · exact (History.stopsAtEnd_append_of_wet wet).2 (List.pairwise_singleton _ _)

/-- A failing read comes before any read that gives nothing. -/
theorem Fills.segmentsFrom_of_failing {room : Nat} {block : Bytes} {outcome : Reply Unit}
    (fills : Fills room block outcome history) (failing : outcome ≠ .gave ()) (begun : Bytes) :
    history.segmentsFrom begun = [] := by
  rcases fills.wet_or_dry with ⟨wet, _⟩ | ⟨gave, _⟩
  · exact History.segmentsFrom_eq_nil wet begun
  · exact absurd gave failing

theorem Fills.exists_read {room : Nat} {block : Bytes} {outcome : Reply Unit}
    (fills : Fills room block outcome history) (positive : 0 < room) :
    ∃ entry ∈ history, entry.isRead = true := by
  obtain ⟨entry, member⟩ := List.exists_mem_of_ne_nil history (fills.history_ne_nil positive)
  exact ⟨entry, member, fills.reads entry member⟩

/-- Copying begins with a read. -/
theorem Copies.exists_read {report : Report} {ending : Ending}
    (copies : Copies forwarder observer report ending history) :
    ∃ entry ∈ history, entry.isRead = true := by
  have positive := forwarder.blockSize.positive
  cases copies with
  | ended fills => exact fills.exists_read positive
  | readFailed fills => exact fills.exists_read positive
  | readCrashed fills => exact fills.exists_read positive
  | writeFailed fills nonempty sends =>
    obtain ⟨entry, member, isRead⟩ := fills.exists_read positive
    exact ⟨entry, List.mem_append_left _ member, isRead⟩
  | writeCrashed fills nonempty sends =>
    obtain ⟨entry, member, isRead⟩ := fills.exists_read positive
    exact ⟨entry, List.mem_append_left _ member, isRead⟩
  | block fills nonempty sends rest =>
    obtain ⟨entry, member, isRead⟩ := fills.exists_read positive
    refine ⟨entry, ?_, isRead⟩
    rw [History.ofBlock_append, List.append_assoc]
    exact List.mem_append_left _ member

/-! ### When the rule is kept -/

/-- Whether the first segment is made of full blocks, or the port has not accepted all of it. Here
`begun` has been read before, and accepted. -/
def History.EndsWhole (size : BlockSize) (begun : Bytes) (history : History Progress) : Prop :=
  ∀ segment ∈ (history.segmentsFrom begun).head?,
    size.bytes ∣ segment.length ∨ begun.length + history.accepted.length < segment.length

/-- What comes behind a full block decides, as if the block had not been there. -/
theorem forall_mem_dropLast_cons {holds : Bytes → Prop} {block : Bytes} (held : holds block)
    (blocks : List Bytes) :
    (∀ other ∈ (block :: blocks).dropLast, holds other) ↔
      ∀ other ∈ blocks.dropLast, holds other := by
  cases blocks with
  | nil => exact Iff.rfl
  | cons next rest =>
    rw [List.dropLast_cons_of_ne_nil (List.cons_ne_nil next rest), List.forall_mem_cons]
    exact and_iff_right held

/-- A block that cannot be read or written to its end keeps the rule. -/
theorem keeps_of_unsent {block : Bytes} {outcome stopping : Reply Unit}
    {reading writing : History Progress}
    (fills : Fills forwarder.blockSize.bytes block outcome reading) (nonempty : block ≠ [])
    (sends : Sends forwarder observer block stopping writing) (stops : stopping ≠ .gave ())
    (begun : Bytes) (fresh : Bool) :
    History.StopsAtEnd (reading ++ writing) ∧
      (∀ other ∈ (History.blocksFrom fresh (reading ++ writing)).dropLast,
        other.length = forwarder.blockSize.bytes) ∧
      History.EndsWhole forwarder.blockSize begun (reading ++ writing) := by
  have positive := forwarder.blockSize.positive
  have blocks : History.blocksFrom fresh (reading ++ writing) = [block] := by
    have sent := sends.blocksFrom_append nonempty []
    rw [List.append_nil] at sent
    rw [fills.blocksFrom_append positive, sent]
    rfl
  refine ⟨(History.stopsAtEnd_append_of_readFree sends.readFree).2 fills.stopsAtEnd, ?_, ?_⟩
  · rw [blocks]
    exact nofun
  · intro segment member
    right
    obtain ⟨lost, split, whole⟩ := sends.accepted
    have some : 0 < lost.length := List.length_pos_iff.2 fun none => stops (whole.1 none)
    have fewer : writing.accepted.length < block.length := by
      rw [split, List.length_append]
      omega
    rw [History.segmentsFrom_append_of_wet sends.readFree.wet] at member
    rw [History.accepted_append, fills.accepted, List.nil_append]
    rcases fills.wet_or_dry with ⟨wet, _⟩ | ⟨rfl, short, _⟩
    · rw [History.segmentsFrom_eq_nil wet] at member
      cases member
    · have cut := fills.segmentsFrom_of_short short begun []
      rw [List.append_nil] at cut
      rw [cut] at member
      cases member
      rw [List.length_append]
      omega

/-- A block that cannot be read keeps the rule. -/
theorem keeps_of_unread {block : Bytes} {outcome : Reply Unit}
    (fills : Fills forwarder.blockSize.bytes block outcome history) (fails : outcome ≠ .gave ())
    (begun : Bytes) (fresh : Bool) :
    history.StopsAtEnd ∧
      (∀ other ∈ (history.blocksFrom fresh).dropLast,
        other.length = forwarder.blockSize.bytes) ∧
      history.EndsWhole forwarder.blockSize begun := by
  unfold History.EndsWhole
  rw [fills.segmentsFrom_of_failing fails, History.blocksFrom_eq_nil fills.writeFree]
  exact ⟨fills.stopsAtEnd, nofun, nofun⟩

/-- An empty block is the end, and keeps the rule if there are full blocks before it. -/
theorem keeps_of_ended (fills : Fills forwarder.blockSize.bytes [] (.gave ()) history)
    {begun : Bytes} (whole : forwarder.blockSize.bytes ∣ begun.length) (fresh : Bool) :
    history.StopsAtEnd ∧
      (∀ other ∈ (history.blocksFrom fresh).dropLast,
        other.length = forwarder.blockSize.bytes) ∧
      history.EndsWhole forwarder.blockSize begun := by
  have cut := fills.segmentsFrom_of_short forwarder.blockSize.positive begun []
  rw [List.append_nil, List.append_nil] at cut
  unfold History.EndsWhole
  rw [cut, History.blocksFrom_eq_nil fills.writeFree]
  refine ⟨fills.stopsAtEnd, nofun, fun segment member => ?_⟩
  cases member
  exact Or.inl whole

/-- The read that cuts a block short is followed by another one, so the rule is broken. -/
theorem not_stopsAtEnd_of_short {block : Bytes} {reading writing rest : History Progress}
    (fills : Fills forwarder.blockSize.bytes block (.gave ()) reading)
    (short : block.length < forwarder.blockSize.bytes)
    (more : ∃ entry ∈ rest, entry.isRead = true) :
    ¬ History.StopsAtEnd (.ofBlock observer block reading writing ++ rest) := by
  obtain ⟨read, inRest, isRead⟩ := more
  rcases fills.wet_or_dry with ⟨_, full⟩ | ⟨_, _, before, wanted, rfl, _⟩
  · exact absurd (full rfl) (Nat.ne_of_lt short)
  · have member : .read wanted (.gave []) ∈ before ++ [.read wanted (.gave [])] :=
      List.mem_append_right before (List.mem_singleton_self _)
    have inBlock : .read wanted (.gave []) ∈
        History.ofBlock observer block (before ++ [.read wanted (.gave [])]) writing :=
      List.mem_append_left _ (List.mem_append_left writing member)
    exact History.not_stopsAtEnd_append inBlock rfl inRest isRead

/-- The rule is kept by copying exactly when the first segment is made of full blocks, or is not
accepted. Here `begun` has been read and accepted before, in full blocks. -/
theorem Copies.keeps_iff {report : Report} {ending : Ending}
    (copies : Copies forwarder observer report ending history) {begun : Bytes}
    (whole : forwarder.blockSize.bytes ∣ begun.length) (fresh : Bool) :
    (history.StopsAtEnd ∧ ∀ block ∈ (history.blocksFrom fresh).dropLast,
        block.length = forwarder.blockSize.bytes) ↔
      history.EndsWhole forwarder.blockSize begun := by
  induction copies generalizing begun fresh with
  | ended fills =>
    obtain ⟨stops, full, ends⟩ := keeps_of_ended fills whole fresh
    exact iff_of_true ⟨stops, full⟩ ends
  | readFailed fills =>
    obtain ⟨stops, full, ends⟩ := keeps_of_unread fills nofun begun fresh
    exact iff_of_true ⟨stops, full⟩ ends
  | readCrashed fills =>
    obtain ⟨stops, full, ends⟩ := keeps_of_unread fills nofun begun fresh
    exact iff_of_true ⟨stops, full⟩ ends
  | writeFailed fills nonempty sends =>
    obtain ⟨stops, full, ends⟩ := keeps_of_unsent fills nonempty sends nofun begun fresh
    exact iff_of_true ⟨stops, full⟩ ends
  | writeCrashed fills nonempty sends =>
    obtain ⟨stops, full, ends⟩ := keeps_of_unsent fills nonempty sends nofun begun fresh
    exact iff_of_true ⟨stops, full⟩ ends
  | @block report block ending reading writing history fills nonempty sends rest
      inductionHypothesis =>
    unfold History.EndsWhole at inductionHypothesis ⊢
    rw [blocksFrom_ofBlock fills nonempty sends, segmentsFrom_ofBlock fills sends,
      History.accepted_append, accepted_ofBlock fills sends, List.length_append]
    by_cases full : block.length = forwarder.blockSize.bytes
    · have wholeBlock : forwarder.blockSize.bytes ∣ (begun ++ block).length := by
        rw [List.length_append, full]
        exact Nat.dvd_add whole (Nat.dvd_refl _)
      have keeps := inductionHypothesis wholeBlock false
      rw [List.length_append, Nat.add_assoc] at keeps
      rw [if_pos full, History.stopsAtEnd_append_of_wet (wet_ofBlock fills sends full),
        forall_mem_dropLast_cons full]
      exact keeps
    · have short := Nat.lt_of_le_of_ne fills.length_le full
      rw [if_neg full]
      refine iff_of_false (fun keeps => ?_) fun ends => ?_
      · exact not_stopsAtEnd_of_short fills short rest.exists_read keeps.1
      · rcases ends (begun ++ block) rfl with even | fewer
        · rw [List.length_append, Nat.dvd_add_right whole] at even
          have fits := Nat.le_of_dvd (List.length_pos_iff.2 nonempty) even
          exact absurd fits (Nat.not_le.2 short)
        · rw [List.length_append] at fewer
          omega

theorem Transfers.keeps_iff {ending : Ending}
    (transfers : Transfers forwarder observer ending history) :
    (history.StopsAtEnd ∧ history.FullButLast forwarder.blockSize) ↔
      history.EndsWhole forwarder.blockSize [] := by
  have none : forwarder.blockSize.bytes ∣ ([] : Bytes).length := Nat.dvd_zero _
  cases transfers with
  | refused short => exact iff_of_true ⟨.nil, nofun⟩ nofun
  | stopped enough copies stops => exact copies.keeps_iff none true
  | settled enough copies settles =>
    unfold History.FullButLast History.EndsWhole History.blocks
    rw [History.stopsAtEnd_append_of_readFree settles.readFree,
      History.blocksFrom_append_of_writeFree settles.writeFree,
      History.segmentsFrom_append_of_wet settles.readFree.wet, History.accepted_append,
      settles.writeFree.accepted, List.append_nil]
    exact copies.keeps_iff none true

/-- Nothing is read after a read that gave nothing, and only the last block is short, exactly if
what is read before the first such read is a whole number of blocks, or the port does not accept all
of it. -/
theorem transfer_endOfInput {π : Type} [Port π] (forwarder : Forwarder) (observer : Observer)
    (source : Source) (port : π) :
    let history := (forwarder.transfer observer source port).history
    (history.StopsAtEnd ∧ history.FullButLast forwarder.blockSize) ↔
      ∀ segment ∈ history.segments.head?,
        forwarder.blockSize.bytes ∣ segment.length ∨
          history.accepted.length < segment.length := by
  intro history
  have keeps := (transfer_transfers forwarder observer source port).keeps_iff
  unfold History.EndsWhole at keeps
  rw [List.length_nil, Nat.zero_add] at keeps
  exact keeps

/-- A source of eight bytes that gives nothing after the first two, and then goes on. -/
def resuming : Source :=
  { pending := [97, 98, 99, 100, 101, 102, 103, 104]
    script := [.upTo 2, .upTo 0] }

/-- With blocks of four bytes such a source is read on, and its first block is short. -/
theorem transfer_resuming :
    let forwarder : Forwarder := { blockSize := ⟨4, by decide⟩ }
    let history := (forwarder.transfer {} resuming ({} : Link)).history
    ¬ history.StopsAtEnd ∧ ¬ history.FullButLast forwarder.blockSize := by
  have calls :
      (Forwarder.transfer { blockSize := ⟨4, by decide⟩ } {} resuming ({} : Link)).history =
      [.read 4 (.gave [97, 98]), .read 2 (.gave []), .write [97, 98] (.gave 2) 0,
        .event (.block 2), .read 4 (.gave [99, 100, 101, 102]),
        .write [99, 100, 101, 102] (.gave 4) 0, .event (.block 4), .read 4 (.gave [103, 104]),
        .read 2 (.gave []), .write [103, 104] (.gave 2) 0, .event (.block 2), .read 4 (.gave []),
        .flush (.gave ()), .event .settling, .pause 1000, .flush (.gave ())] := by
    cbv
  dsimp only
  rw [calls]
  decide

end SerialFeed
