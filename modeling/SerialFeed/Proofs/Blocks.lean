/-
This file shows into which blocks a transfer cuts its input. A block is filled by as many reads as
it takes, so how the source cuts its bytes to pieces does not matter, and neither does how many
writes the port needs; what matters are the reads that give nothing. Such a read ends the block that
is being filled. If it had to be ended short, the transfer sends it and goes on reading; if there
was nothing in it, the input has ended. The blocks are thus the chunks of the segments between such
reads, and the transfer stops at the first of these reads that comes where a chunk ends.

A source whose reads give nothing only when there is nothing left is cut into the chunks of its
bytes.
-/

import SerialFeed.Proofs.Integrity
import SerialFeed.Proofs.Segments
import SerialFeed.Proofs.Willing

namespace SerialFeed

/-! ### What copying everything comes to -/

variable {forwarder : Forwarder} {observer : Observer} {report : Report}
  {history : History Progress}

theorem Fills.events {room : Nat} {block : Bytes} {outcome : Reply Unit}
    (fills : Fills room block outcome history) : history.events = [] := by
  refine List.filterMap_eq_nil_iff.2 fun entry member => ?_
  obtain ⟨wanted, reply, _, _, rfl⟩ := fills.eq_read_of_mem member
  rfl

theorem Sends.events {block : Bytes} {outcome : Reply Unit}
    (sends : Sends forwarder observer block outcome history) : history.events = [] := by
  refine List.filterMap_eq_nil_iff.2 fun entry member => ?_
  rcases sends.eq_write_or_note_of_mem member with ⟨offered, reply, elapsed, _, _, rfl⟩ | ⟨_, rfl⟩
  · rfl
  · rfl

/-- An observer who listens is told of the block. -/
theorem events_ofBlock (listening : observer.events = true) {room : Nat} {block : Bytes}
    {reading writing : History Progress} (fills : Fills room block (.gave ()) reading)
    (sends : Sends forwarder observer block (.gave ()) writing) :
    (History.ofBlock observer block reading writing).events = [.block block.length] := by
  unfold History.ofBlock
  rw [History.events_append, History.events_append, History.events_append, fills.events,
    sends.events, Observer.events_note, Observer.events_event listening]
  rfl

/-! ### Copying until everything is sent -/

/-- How everything can be copied, when a report counts the blocks before and another one counts all
of them: block after block, and then the reads of an empty one. -/
inductive Copied (forwarder : Forwarder) (observer : Observer) (final : Report) :
    Report → History Progress → Prop where
  | ended {reading : History Progress}
    (fills : Fills forwarder.blockSize.bytes [] (.gave ()) reading) :
    Copied forwarder observer final final reading
  | block {report : Report} {block : Bytes} {reading writing history : History Progress}
    (fills : Fills forwarder.blockSize.bytes block (.gave ()) reading) (nonempty : block ≠ [])
    (sends : Sends forwarder observer block (.gave ()) writing)
    (rest : Copied forwarder observer final (report.add block) history) :
    Copied forwarder observer final report
      (.ofBlock observer block reading writing ++ history)

theorem Copies.copied {ending : Ending} {final : Report}
    (copies : Copies forwarder observer report ending history) (sent : ending = .sent final) :
    Copied forwarder observer final report history := by
  induction copies with
  | ended fills =>
    cases sent
    exact .ended fills
  | readFailed fills => cases sent
  | readCrashed fills => cases sent
  | writeFailed fills nonempty sends => cases sent
  | writeCrashed fills nonempty sends => cases sent
  | block fills nonempty sends rest inductionHypothesis =>
    exact .block fills nonempty sends (inductionHypothesis sent)

namespace Copied

variable {final : Report}

/-- The blocks are the chunks of the segments, and the copying stops at the first segment that is
made of full chunks. Here `begun` has been read before, in full blocks. -/
theorem segments_blocks (copied : Copied forwarder observer final report history)
    {begun : Bytes} (whole : forwarder.blockSize.bytes ∣ begun.length) (fresh : Bool) :
    ∃ earlier last, history.segmentsFrom begun = earlier ++ [last] ∧
      (∀ segment ∈ earlier, ¬ forwarder.blockSize.bytes ∣ segment.length) ∧
      forwarder.blockSize.bytes ∣ last.length ∧
      (history.segmentsFrom begun).flatMap (chunks forwarder.blockSize) =
        chunks forwarder.blockSize begun ++ history.blocksFrom fresh := by
  induction copied generalizing begun fresh with
  | ended fills =>
    have segments := fills.segmentsFrom_of_short forwarder.blockSize.positive begun []
    rw [List.append_nil, List.append_nil] at segments
    refine ⟨[], begun, segments, nofun, whole, ?_⟩
    rw [segments, History.blocksFrom_eq_nil fills.writeFree, List.append_nil]
    exact List.flatMap_singleton _ begun
  | @block report block reading writing history fills nonempty sends rest inductionHypothesis =>
    have one : chunks forwarder.blockSize block = [block] :=
      chunks_of_length_le nonempty fills.length_le
    have cutBlock : chunks forwarder.blockSize (begun ++ block) =
        chunks forwarder.blockSize begun ++ [block] := by
      rw [chunks_append_of_dvd whole, one]
    rw [segmentsFrom_ofBlock fills sends, blocksFrom_ofBlock fills nonempty sends]
    by_cases full : block.length = forwarder.blockSize.bytes
    · have wholeBlock : forwarder.blockSize.bytes ∣ (begun ++ block).length := by
        rw [List.length_append, full]
        exact Nat.dvd_add whole (Nat.dvd_refl _)
      obtain ⟨earlier, last, cut, partly, complete, same⟩ := inductionHypothesis wholeBlock false
      rw [if_pos full]
      refine ⟨earlier, last, cut, partly, complete, ?_⟩
      rw [same, cutBlock, List.append_assoc]
      rfl
    · have none : forwarder.blockSize.bytes ∣ ([] : Bytes).length := Nat.dvd_zero _
      obtain ⟨earlier, last, cut, partly, complete, same⟩ := inductionHypothesis none false
      rw [if_neg full]
      refine ⟨(begun ++ block) :: earlier, last, congrArg (_ :: ·) cut,
        List.forall_mem_cons.2 ⟨fun even => ?_, partly⟩, complete, ?_⟩
      · rw [List.length_append, Nat.dvd_add_right whole] at even
        have fits := Nat.le_of_dvd (List.length_pos_iff.2 nonempty) even
        exact full (Nat.le_antisymm fills.length_le fits)
      · rw [List.flatMap_cons, same, chunks_nil, List.nil_append, cutBlock, List.append_assoc]
        rfl

/-- The report counts the blocks, the port has accepted them, and an observer was told of them. -/
theorem account (copied : Copied forwarder observer final report history) (fresh : Bool) :
    final = (history.blocksFrom fresh).foldl Report.add report ∧
      history.accepted = (history.blocksFrom fresh).flatten ∧
      (observer.events = true →
        history.events = (history.blocksFrom fresh).map fun block => .block block.length) := by
  induction copied generalizing fresh with
  | ended fills =>
    rw [History.blocksFrom_eq_nil fills.writeFree]
    exact ⟨rfl, fills.accepted, fun _ => fills.events⟩
  | block fills nonempty sends rest inductionHypothesis =>
    obtain ⟨counted, accepted, events⟩ := inductionHypothesis false
    rw [blocksFrom_ofBlock fills nonempty sends]
    refine ⟨counted, ?_, fun listening => ?_⟩
    · rw [History.accepted_append, accepted_ofBlock fills sends, accepted, List.flatten_cons]
    · rw [History.events_append, events_ofBlock listening fills sends, events listening]
      rfl

/-- The last read is one that gave nothing. -/
theorem exists_last_read (copied : Copied forwarder observer final report history) :
    ∃ before room, history = before ++ [.read room (.gave [])] := by
  induction copied with
  | ended fills =>
    rcases fills.wet_or_dry with ⟨_, full⟩ | ⟨_, _, before, wanted, same, _⟩
    · exact absurd (full rfl) (Nat.ne_of_lt forwarder.blockSize.positive)
    · exact ⟨before, wanted, same⟩
  | block fills nonempty sends rest inductionHypothesis =>
    obtain ⟨before, room, rfl⟩ := inductionHypothesis
    exact ⟨_, room, (List.append_assoc ..).symm⟩

end Copied

/-- A report that has counted some more blocks. -/
theorem foldl_add (blocks : List Bytes) (report : Report) :
    blocks.foldl Report.add report =
      ⟨report.blocks + UInt64.ofNat blocks.length,
        report.bytes + UInt64.ofNat blocks.flatten.length⟩ := by
  induction blocks generalizing report with
  | nil =>
    show report = ⟨report.blocks + 0, report.bytes + 0⟩
    rw [UInt64.add_zero, UInt64.add_zero]
  | cons block rest inductionHypothesis =>
    rw [List.foldl_cons, inductionHypothesis, List.length_cons, List.flatten_cons,
      List.length_append, Nat.add_comm rest.length 1, UInt64.ofNat_add, UInt64.ofNat_add,
      ← UInt64.add_assoc, ← UInt64.add_assoc]
    rfl

/-! ### Sources that give nothing only at their end -/

namespace Source

variable {source : Source}

/-- Whether every read of a source gives something for as long as there is something left. -/
def Steady (source : Source) : Prop :=
  (∀ step ∈ source.script, step ≠ .upTo 0) ∧ source.cap ≠ some 0

instance (source : Source) : Decidable source.Steady :=
  inferInstanceAs (Decidable (_ ∧ _))

theorem Steady.read (steady : source.Steady) (room : Nat) : (source.read room).1.Steady := by
  refine ⟨fun step member => ?_, ?_⟩
  · exact steady.1 step ((source.read_script_suffix room).subset member)
  · rw [source.read_cap]
    exact steady.2

/-- A source that gives nothing although it may give something is used up. -/
theorem pending_of_deliver {count : Nat} (positive : 0 < count)
    (answer : (source.deliver count).2 = .gave []) : source.pending = [] := by
  have taken : source.pending.take count = [] := Reply.gave.inj answer
  exact (List.take_eq_nil_iff.1 taken).resolve_left (Nat.ne_of_gt positive)

theorem Steady.pending (steady : source.Steady) {room : Nat} (positive : 0 < room)
    (answer : (source.read room).2 = .gave []) : (source.read room).1.pending = [] := by
  have untouched := Source.read_pending source room
  rw [answer] at untouched
  rw [show (source.read room).1.pending = source.pending from untouched]
  unfold Source.read at answer
  split at answer
  · refine pending_of_deliver (Nat.lt_min.2 ⟨?_, positive⟩) answer
    cases cap : source.cap with
    | none => exact positive
    | some most => exact Nat.pos_of_ne_zero fun zero => steady.2 (zero ▸ cap)
  · rename_i count rest script
    have some : 0 < count := Nat.pos_of_ne_zero fun zero =>
      steady.1 (.upTo count) (script ▸ List.mem_cons_self) (congrArg Step.upTo zero)
    exact pending_of_deliver (Nat.lt_min.2 ⟨some, positive⟩) answer
  · cases answer
  · cases answer

end Source

/-- A block that comes out short has taken all that was left of a steady source. -/
theorem readBlock_steady {source : Source} (steady : source.Steady) (room : Nat) :
    (readBlock source room).source.Steady ∧
      ((readBlock source room).outcome = .gave () → (readBlock source room).block.length < room →
        (readBlock source room).source.pending = []) := by
  fun_induction readBlock source room with
  | case1 => exact ⟨steady, fun _ short => absurd short (Nat.lt_irrefl 0)⟩
  | case2 source room nonzero next answer =>
    have kept := steady.read room
    have empty := steady.pending (Nat.pos_of_ne_zero nonzero) (congrArg Prod.snd answer)
    rw [answer] at kept empty
    exact ⟨kept, fun _ _ => empty⟩
  | case3 source room nonzero next first others answer inductionHypothesis =>
    have kept := steady.read room
    rw [answer] at kept
    refine (inductionHypothesis kept).imp_right fun empty gave short => empty gave ?_
    have shorter : ((first :: others) ++
      (readBlock next (room - (first :: others).length)).block).length < room := short
    rw [List.length_append] at shorter
    omega
  | case4 source room nonzero next fault answer again inductionHypothesis =>
    have kept := steady.read room
    rw [answer] at kept
    exact inductionHypothesis kept
  | case5 source room nonzero next fault answer fatal =>
    have kept := steady.read room
    rw [answer] at kept
    refine ⟨kept, fun gave => ?_⟩
    cases gave
  | case6 source room nonzero next answer =>
    have kept := steady.read room
    rw [answer] at kept
    refine ⟨kept, fun gave => ?_⟩
    cases gave

/-- A steady source is cut into the chunks of its bytes, and nothing of it is left. -/
theorem copyBlocks_steady {π : Type} [Port π] (forwarder : Forwarder) (observer : Observer)
    {source : Source} (steady : source.Steady) (port : π) (report : Report) (fresh : Bool)
    {final : Report}
    (sent : (forwarder.copyBlocks observer source port report).ending = .sent final) :
    (forwarder.copyBlocks observer source port report).history.blocksFrom fresh =
        chunks forwarder.blockSize source.pending ∧
      (forwarder.copyBlocks observer source port report).source.pending = [] := by
  have positive := forwarder.blockSize.positive
  fun_induction Forwarder.copyBlocks forwarder observer source port report
      generalizing fresh with
  | case1 source port report filling fault outcome => cases sent
  | case2 source port report filling outcome => cases sent
  | case3 source port report filling outcome empty =>
    have left := (readBlock_steady steady forwarder.blockSize.bytes).2 outcome
      (empty ▸ positive)
    have taken := readBlock_pending source forwarder.blockSize.bytes
    have fills := readBlock_fills source forwarder.blockSize.bytes
    rw [left, show (readBlock source _).block = [] from empty] at taken
    refine ⟨?_, left⟩
    rw [← taken]
    exact (History.blocksFrom_eq_nil fills.writeFree fresh).trans chunks_nil.symm
  | case4 source port report filling read nonempty writing history fault outcome => cases sent
  | case5 source port report filling read nonempty writing history outcome => cases sent
  | case6 source port report filling read nonempty writing history outcome rest
      inductionHypothesis =>
    obtain ⟨kept, short⟩ := readBlock_steady steady forwarder.blockSize.bytes
    have fills : Fills _ filling.block (.gave ()) filling.history :=
      read ▸ readBlock_fills source forwarder.blockSize.bytes
    have sends : Sends forwarder observer filling.block (.gave ()) writing.history :=
      outcome ▸ writeBlock_sends forwarder observer (Port.clock port) port filling.block
    have taken : filling.block ++ filling.source.pending = source.pending :=
      readBlock_pending source forwarder.blockSize.bytes
    obtain ⟨blocks, empty⟩ := inductionHypothesis kept false sent
    refine ⟨?_, empty⟩
    show History.blocksFrom fresh (filling.history ++ writing.history ++ _) = _
    rw [← History.ofBlock_append, blocksFrom_ofBlock fills nonempty sends, blocks, ← taken]
    by_cases full : filling.block.length = forwarder.blockSize.bytes
    · rw [chunks_append_of_length_eq full]
    · have left := short read (Nat.lt_of_le_of_ne fills.length_le full)
      rw [show filling.source.pending = [] from left, chunks_nil, List.append_nil,
        chunks_of_length_le nonempty fills.length_le]

/-! ### The blocks of a transfer -/

/-- The end of a transfer that has sent everything. -/
theorem Settles.sent {ending : Ending} {final : Report}
    (settles : Settles forwarder observer report ending history) (sent : ending = .sent final) :
    final = report ∧ (observer.events = true → history.events = [.settling]) := by
  have ofFlush : ∀ reply, Ending.ofFlush report reply = .sent final →
      final = report ∧ reply = .gave () := by
    intro reply same
    cases reply with
    | gave => exact ⟨(Ending.sent.inj same).symm, rfl⟩
    | failed fault => cases same
    | crashed => cases same
  cases settles with
  | stopped reply stops => exact absurd (ofFlush reply sent).2 stops
  | settled reply =>
    refine ⟨(ofFlush reply sent).1, fun listening => ?_⟩
    simp only [History.events_append, History.events_cons, Observer.events_note,
      Observer.events_event listening]
    rfl

/-- A transfer that has sent everything has copied everything and has then settled. -/
theorem Transfers.sent {ending : Ending} {final : Report}
    (transfers : Transfers forwarder observer ending history) (sent : ending = .sent final) :
    ∃ copying settling, history = copying ++ settling ∧
      Copied forwarder observer final {} copying ∧ History.ReadFree settling ∧
      History.WriteFree settling ∧ (observer.events = true → settling.events = [.settling]) := by
  cases transfers with
  | refused short => cases sent
  | stopped enough copies stops => exact absurd sent (stops final)
  | settled enough copies settles =>
    obtain ⟨rfl, events⟩ := settles.sent sent
    exact ⟨_, _, rfl, copies.copied rfl, settles.readFree, settles.writeFree, events⟩

theorem transfer_steady {π : Type} [Port π] (forwarder : Forwarder) (observer : Observer)
    {source : Source} (steady : source.Steady) (port : π) {final : Report}
    (sent : (forwarder.transfer observer source port).ending = .sent final) :
    (forwarder.transfer observer source port).history.blocks =
        chunks forwarder.blockSize source.pending ∧
      (forwarder.transfer observer source port).source.pending = [] := by
  revert sent
  unfold Forwarder.transfer
  dsimp only
  split
  · exact nofun
  · split
    · rename_i report copiedAll
      intro _
      obtain ⟨blocks, empty⟩ := copyBlocks_steady forwarder observer steady port {} true copiedAll
      have free := (settleOutput_settles forwarder observer
        (forwarder.copyBlocks observer source port {}).source
        (forwarder.copyBlocks observer source port {}).port report).writeFree
      refine ⟨?_, ?_⟩
      · rw [← blocks]
        exact History.blocksFrom_append_of_writeFree free true
      · dsimp only
        rw [settleOutput_source]
        exact empty
    · rename_i stops
      exact fun sent => absurd sent (stops final)

/-- Between a source that fails for interruptions only and a port that takes something of everything
that it is offered, a transfer sends everything, in blocks that depend on nothing but the bytes and
the reads that gave nothing: they are the chunks of the segments between these reads, whatever
pieces the bytes come in and go out in. The input has ended at the first such read whose segment is
made of full chunks, and that read is the last. The observer is told of the blocks in order, and the
report holds their number and their length. All this is about the answers that the source and the
port gave. -/
theorem transfer_blocks {π : Type} [Port π] {forwarder : Forwarder} {fit : π → Prop}
    (enough : Shortage.ofSize? forwarder.blockSize.bytes = none)
    (obliging : Port.Obliging forwarder fit) (observer : Observer) {source : Source}
    (willing : source.Willing) {port : π} (isFit : fit port) :
    let run := forwarder.transfer observer source port
    let size := forwarder.blockSize
    let segments := run.history.segments
    run.AnsweredBy source port ∧ ∃ report earlier last before room after,
      run.ending = .sent report ∧
      run.history = before ++ .read room (.gave []) :: after ∧ History.ReadFree after ∧
      segments = earlier ++ [last] ∧
      (∀ segment ∈ earlier, ¬ size.bytes ∣ segment.length) ∧ size.bytes ∣ last.length ∧
      segments.flatten = run.history.delivered ∧ run.history.accepted = run.history.delivered ∧
      run.history.blocks = segments.flatMap (chunks size) ∧
      (observer.events = true → run.history.events =
        (run.history.blocks.map fun block => .block block.length) ++ [.settling]) ∧
      report.blocks = UInt64.ofNat
        (segments.map fun segment => (segment.length + size.bytes - 1) / size.bytes).sum ∧
      report.bytes = UInt64.ofNat run.history.delivered.length ∧
      (source.Steady → run.history.blocks = chunks size source.pending ∧
        run.history.delivered = source.pending) := by
  intro run size segments
  obtain ⟨report, sent⟩ := transfer_sent enough obliging observer willing isFit
  have transfers := transfer_transfers forwarder observer source port
  obtain ⟨copying, settling, joined, copied, readFree, writeFree, settlingEvents⟩ :=
    transfers.sent sent
  rw [show (forwarder.transfer observer source port).history = run.history from rfl] at joined
  obtain ⟨before, room, lastRead⟩ := copied.exists_last_read
  have none : forwarder.blockSize.bytes ∣ ([] : Bytes).length := Nat.dvd_zero _
  obtain ⟨earlier, last, cut, partly, complete, chunked⟩ := copied.segments_blocks none true
  obtain ⟨counted, taken, events⟩ := copied.account true
  obtain ⟨lost, whole, loses⟩ := transfers.integrity
  have all : run.history.accepted = run.history.delivered := by
    rw [sent] at loses
    rw [whole, show lost = [] from loses, List.append_nil]
  have sameSegments : segments = History.segmentsFrom [] copying := by
    show History.segmentsFrom [] run.history = _
    rw [joined, History.segmentsFrom_append_of_wet readFree.wet]
  have sameBlocks : run.history.blocks = History.blocksFrom true copying := by
    show History.blocksFrom true run.history = _
    rw [joined, History.blocksFrom_append_of_writeFree writeFree]
  have blocks : run.history.blocks = segments.flatMap (chunks size) := by
    rw [sameBlocks, sameSegments, chunked, chunks_nil, List.nil_append]
  have accepted : run.history.accepted = run.history.blocks.flatten := by
    rw [sameBlocks, ← taken, joined, History.accepted_append,
      writeFree.accepted, List.append_nil]
  have flatten : segments.flatten = run.history.delivered := by
    rw [← all, accepted, blocks, flatten_flatMap_chunks]
  have total : report = ⟨UInt64.ofNat run.history.blocks.length,
      UInt64.ofNat run.history.blocks.flatten.length⟩ := by
    rw [counted, ← sameBlocks, foldl_add]
    exact congrArg₂ Report.mk (UInt64.zero_add _) (UInt64.zero_add _)
  refine ⟨transfer_answered forwarder observer source port, report, earlier, last, before, room,
    settling, sent, ?_, readFree, sameSegments.trans cut, partly, complete, flatten, all, blocks,
    fun listening => ?_, ?_, ?_, fun steady => ?_⟩
  · rw [joined, lastRead, List.append_assoc]
    rfl
  · rw [sameBlocks, joined, History.events_append, events listening, settlingEvents listening]
  · rw [total, blocks, length_flatMap_chunks]
  · rw [total, ← all, accepted]
  · obtain ⟨cutAll, empty⟩ := transfer_steady forwarder observer steady port sent
    refine ⟨cutAll, ?_⟩
    rw [← all, accepted, show run.history.blocks = _ from cutAll, flatten_chunks]

/-- A forwarder of blocks of four bytes. -/
def inFours : Forwarder :=
  { blockSize := ⟨4, by decide⟩ }

/-- A source of eight bytes that gives nothing in the middle of its first block. -/
def pausing : Source :=
  { pending := [97, 98, 99, 100, 101, 102, 103, 104]
    script := [.upTo 2, .upTo 0, .fail (.ofKind .interrupted), .upTo 1] }

/-- A port that is interrupted and late before it has taken the whole of its first block. -/
def hesitant : Link :=
  { writes := [.upTo 1, .fail (.ofKind .interrupted), .fail (.ofKind .timedOut)] }

theorem transfer_blocks_of_pausing :
    ∃ report, (inFours.transfer {} pausing hesitant).ending = .sent report ∧
      (inFours.transfer {} pausing hesitant).history.blocks =
        [[97, 98], [99, 100, 101, 102, 103, 104], []].flatMap (chunks inFours.blockSize) := by
  have enough : Shortage.ofSize? inFours.blockSize.bytes = none := by decide
  have isFit : Link.Fit inFours hesitant := ⟨by decide, by decide, by decide⟩
  have willing : pausing.Willing := by decide
  obtain ⟨_, report, earlier, last, before, room, after, sent, _, _, _, _, _, _, _, blocks, _⟩ :=
    transfer_blocks enough (Link.obliging inFours) {} willing isFit
  refine ⟨report, sent, ?_⟩
  have segments : (inFours.transfer {} pausing hesitant).history.segments =
      [[97, 98], [99, 100, 101, 102, 103, 104], []] := by
    cbv
  rw [← segments]
  exact blocks

end SerialFeed
