/-
This file shows that a crash does no more than cut a service short. Up to the call at which a device
crashes, the service does what a transfer does whose devices answer the same until there and do not
crash; it makes no call after that, lets its link go, reports neither that it is done nor that it
failed, and whoever waits for it learns that the worker is lost. Over a link that was opened nobody
learns this for another reason.

The proof runs two transfers side by side. One step of both leaves devices that still answer alike,
unless one of the first transfer crashes; so the histories are the same until there.
-/

import Mathlib.Data.List.TakeWhile
import SerialFeed.Proofs.Release
import SerialFeed.Proofs.Segments

namespace SerialFeed

/-! ### Devices that answer alike until a crash -/

/-- Whether a script, the twin of another one, answers like it until that one crashes. How the twin
goes on from there does not matter. -/
inductive SameUntilCrash : List Step → List Step → Prop where
  | nil : SameUntilCrash [] []
  | cons {step : Step} {script twin : List Step} (rest : SameUntilCrash script twin) :
    SameUntilCrash (step :: script) (step :: twin)
  | crash {script twin : List Step} : SameUntilCrash (.crash :: script) twin

/-- Whether a source has a twin that answers like it until it crashes. -/
structure Source.Spared (source twin : Source) : Prop where
  pending : twin.pending = source.pending
  script : SameUntilCrash source.script twin.script
  cap : twin.cap = source.cap

/-- Whether a link has a twin that answers like it until it crashes. -/
structure Link.Spared (link twin : Link) : Prop where
  writes : SameUntilCrash link.writes twin.writes
  flushes : SameUntilCrash link.flushes twin.flushes
  cap : twin.cap = link.cap

/-- A script before its first crash. -/
def beforeCrash (script : List Step) : List Step :=
  script.takeWhile fun step => step ≠ .crash

theorem sameUntilCrash_beforeCrash (script : List Step) :
    SameUntilCrash script (beforeCrash script) := by
  induction script with
  | nil => exact .nil
  | cons step rest inductionHypothesis =>
    by_cases crashes : step = .crash
    · rw [crashes]
      exact .crash
    · have lasting : beforeCrash (step :: rest) = step :: beforeCrash rest :=
        List.takeWhile_cons_of_pos (decide_eq_true crashes)
      rw [lasting]
      exact .cons inductionHypothesis

theorem crash_not_mem_beforeCrash (script : List Step) : .crash ∉ beforeCrash script := by
  intro member
  have lasting := List.mem_takeWhile_imp member
  exact of_decide_eq_true lasting rfl

/-- Every source has a twin that never crashes. -/
theorem Source.exists_spared (source : Source) :
    ∃ twin, source.Spared twin ∧ .crash ∉ twin.script :=
  ⟨{ source with script := beforeCrash source.script },
    ⟨rfl, sameUntilCrash_beforeCrash _, rfl⟩, crash_not_mem_beforeCrash _⟩

/-- Every link has a twin that never crashes. -/
theorem Link.exists_spared (link : Link) :
    ∃ twin, link.Spared twin ∧ .crash ∉ twin.writes ∧ .crash ∉ twin.flushes :=
  ⟨{ link with writes := beforeCrash link.writes, flushes := beforeCrash link.flushes },
    ⟨sameUntilCrash_beforeCrash _, sameUntilCrash_beforeCrash _, rfl⟩,
    crash_not_mem_beforeCrash _, crash_not_mem_beforeCrash _⟩

section Devices

/-- A read that does not crash is answered alike by both sources. -/
theorem Source.Spared.read {source twin next : Source} {room : Nat} {reply : Reply Bytes}
    (spared : source.Spared twin) (answer : source.read room = (next, reply)) :
    reply = .crashed ∨ ∃ left, twin.read room = (left, reply) ∧ next.Spared left := by
  obtain ⟨pending, script, cap⟩ := source
  obtain ⟨_, twinScript, _⟩ := twin
  obtain ⟨rfl, same, rfl⟩ := spared
  cases same with
  | nil =>
    cases answer
    exact Or.inr ⟨_, rfl, rfl, .nil, rfl⟩
  | @cons step rest twinRest same =>
    cases step with
    | upTo count =>
      cases answer
      exact Or.inr ⟨_, rfl, rfl, same, rfl⟩
    | fail fault =>
      cases answer
      exact Or.inr ⟨_, rfl, rfl, same, rfl⟩
    | crash =>
      cases answer
      exact Or.inl rfl
  | crash =>
    cases answer
    exact Or.inl rfl

/-- A write that does not crash is answered alike by both links. -/
theorem Link.Spared.write {link twin next : Link} {offered : Bytes} {reply : Reply Nat}
    (spared : link.Spared twin) (answer : Port.write link offered = (next, reply)) :
    reply = .crashed ∨ ∃ left, Port.write twin offered = (left, reply) ∧ next.Spared left := by
  obtain ⟨writes, flushes, cap⟩ := link
  obtain ⟨twinWrites, _, _⟩ := twin
  obtain ⟨same, sameFlushes, rfl⟩ := spared
  cases same with
  | nil =>
    cases answer
    exact Or.inr ⟨_, rfl, .nil, sameFlushes, rfl⟩
  | @cons step rest twinRest same =>
    cases step with
    | upTo count =>
      cases answer
      exact Or.inr ⟨_, rfl, same, sameFlushes, rfl⟩
    | fail fault =>
      cases answer
      exact Or.inr ⟨_, rfl, same, sameFlushes, rfl⟩
    | crash =>
      cases answer
      exact Or.inl rfl
  | crash =>
    cases answer
    exact Or.inl rfl

/-- A flush that does not crash is answered alike by both links. -/
theorem Link.Spared.flush {link twin next : Link} {reply : Reply Unit}
    (spared : link.Spared twin) (answer : Port.flush link = (next, reply)) :
    reply = .crashed ∨ ∃ left, Port.flush twin = (left, reply) ∧ next.Spared left := by
  obtain ⟨writes, flushes, cap⟩ := link
  obtain ⟨_, twinFlushes, _⟩ := twin
  obtain ⟨sameWrites, same, rfl⟩ := spared
  cases same with
  | nil =>
    cases answer
    exact Or.inr ⟨_, rfl, sameWrites, .nil, rfl⟩
  | @cons step rest twinRest same =>
    cases step with
    | upTo count =>
      cases answer
      exact Or.inr ⟨_, rfl, sameWrites, same, rfl⟩
    | fail fault =>
      cases answer
      exact Or.inr ⟨_, rfl, sameWrites, same, rfl⟩
    | crash =>
      cases answer
      exact Or.inl rfl
  | crash =>
    cases answer
    exact Or.inl rfl

end Devices

/-! ### Histories that break off -/

/-- Whether an entry is a call that crashed, and another one the same call, however answered. -/
inductive Entry.Spared : Entry Progress → Entry Progress → Prop where
  | read {room : Nat} {reply : Reply Bytes} : Spared (.read room .crashed) (.read room reply)
  | write {offered : Bytes} {reply : Reply Nat} {elapsed later : Nat} :
    Spared (.write offered .crashed elapsed) (.write offered reply later)
  | flush {reply : Reply Unit} : Spared (.flush .crashed) (.flush reply)

/-- Whether a history breaks off with a crash where another one, the same until there, has the call
answered and goes on. -/
def History.BreaksOff (history other : History Progress) : Prop :=
  ∃ before crash answered rest, history = before ++ [crash] ∧ other = before ++ answered :: rest ∧
    crash.Spared answered

namespace History.BreaksOff

variable {history other : History Progress}

theorem append_left (breaks : history.BreaksOff other) (first : History Progress) :
    BreaksOff (first ++ history) (first ++ other) := by
  obtain ⟨before, crash, answered, rest, rfl, rfl, spared⟩ := breaks
  exact ⟨first ++ before, crash, answered, rest, (List.append_assoc ..).symm,
    (List.append_assoc ..).symm, spared⟩

/-- It does not matter what comes behind the history that goes on. -/
theorem append_right (breaks : history.BreaksOff other) (later : History Progress) :
    BreaksOff history (other ++ later) := by
  obtain ⟨before, crash, answered, rest, rfl, rfl, spared⟩ := breaks
  exact ⟨before, crash, answered, rest ++ later, rfl, List.append_assoc .., spared⟩

theorem cons (breaks : history.BreaksOff other) (entry : Entry Progress) :
    BreaksOff (entry :: history) (entry :: other) :=
  breaks.append_left [entry]

theorem single {crash answered : Entry Progress} (spared : crash.Spared answered)
    (rest : History Progress) : BreaksOff [crash] (answered :: rest) :=
  ⟨[], crash, answered, rest, rfl, rfl, spared⟩

end History.BreaksOff

/-! ### Blocks side by side -/

/-- Whether a block was filled like another one, or else by a reading that crashed where the other
went on. -/
inductive Filling.Spared (filling other : Filling) : Prop where
  | same (source : filling.source.Spared other.source) (block : other.block = filling.block)
    (outcome : other.outcome = filling.outcome) (history : other.history = filling.history)
  | crashed (outcome : filling.outcome = .crashed) (breaks : filling.history.BreaksOff other.history)

theorem Filling.Spared.after {filling other : Filling} (spared : filling.Spared other)
    (entry : Entry Progress) : (filling.after entry).Spared (other.after entry) := by
  cases spared with
  | same source block outcome history =>
    exact .same source (congrArg (entry.delivered ++ ·) block) outcome
      (congrArg (entry :: ·) history)
  | crashed outcome breaks => exact .crashed outcome (breaks.cons entry)

/-- Filling a block with room begins with a read of all of this room. -/
theorem Fills.exists_eq_cons {room : Nat} {block : Bytes} {outcome : Reply Unit}
    {history : History Progress} (fills : Fills room block outcome history) (positive : 0 < room) :
    ∃ reply rest, history = .read room reply :: rest := by
  cases fills with
  | full => exact absurd positive (Nat.lt_irrefl 0)
  | _ => exact ⟨_, _, rfl⟩

theorem readBlock_spared {source twin : Source} (spared : source.Spared twin) (room : Nat) :
    (readBlock source room).Spared (readBlock twin room) := by
  fun_induction readBlock source room generalizing twin with
  | case1 source =>
    rw [readBlock, if_pos rfl]
    exact .same spared rfl rfl rfl
  | case2 source room nonzero next answer =>
    rcases spared.read answer with crashed | ⟨left, same, spared⟩
    · cases crashed
    · rw [readBlock_eq twin (Nat.pos_of_ne_zero nonzero), same]
      exact .same spared rfl rfl rfl
  | case3 source room nonzero next first others answer inductionHypothesis =>
    rcases spared.read answer with crashed | ⟨left, same, spared⟩
    · cases crashed
    · rw [readBlock_eq twin (Nat.pos_of_ne_zero nonzero), same]
      exact (inductionHypothesis spared).after _
  | case4 source room nonzero next fault answer again inductionHypothesis =>
    rcases spared.read answer with crashed | ⟨left, same, spared⟩
    · cases crashed
    · rw [readBlock_eq twin (Nat.pos_of_ne_zero nonzero), same]
      simp only [again, if_true]
      exact (inductionHypothesis spared).after _
  | case5 source room nonzero next fault answer fatal =>
    rcases spared.read answer with crashed | ⟨left, same, spared⟩
    · cases crashed
    · rw [readBlock_eq twin (Nat.pos_of_ne_zero nonzero), same]
      simp only [fatal, if_false]
      exact .same spared rfl rfl rfl
  | case6 source room nonzero next answer =>
    obtain ⟨reply, rest, begins⟩ :=
      (readBlock_fills twin room).exists_eq_cons (Nat.pos_of_ne_zero nonzero)
    exact .crashed rfl (begins ▸ .single .read rest)

/-- Whether a block was written like another one, or else by a writing that crashed where the other
went on. -/
inductive Writing.Spared (writing other : Writing Link Progress) : Prop where
  | same (port : writing.port.Spared other.port) (outcome : other.outcome = writing.outcome)
    (history : other.history = writing.history)
  | crashed (outcome : writing.outcome = .crashed) (breaks : writing.history.BreaksOff other.history)

theorem Writing.Spared.prepend {writing other : Writing Link Progress}
    (spared : writing.Spared other) (first : History Progress) :
    Writing.Spared { writing with history := first ++ writing.history }
      { other with history := first ++ other.history } := by
  cases spared with
  | same port outcome history => exact .same port outcome (congrArg (first ++ ·) history)
  | crashed outcome breaks => exact .crashed outcome (breaks.append_left first)

section Transfers

variable (forwarder : Forwarder) (observer : Observer)

theorem writeBlock_spared (started : Nat) (link : Link) (block : Bytes) :
    ∀ twin, link.Spared twin →
      (writeBlock forwarder observer started link block).Spared
        (writeBlock forwarder observer started twin block) := by
  fun_induction writeBlock forwarder observer started link block with
  | case1 link =>
    intro twin spared
    rw [writeBlock, if_pos rfl]
    exact .same spared rfl rfl
  | case2 link block nonempty next answer =>
    intro twin spared
    rcases spared.write answer with crashed | ⟨left, same, spared⟩
    · cases crashed
    · rw [writeBlock_eq forwarder observer started twin nonempty, same]
      exact .same spared rfl rfl
  | case3 link block nonempty next count answer inductionHypothesis =>
    intro twin spared
    rcases spared.write answer with crashed | ⟨left, same, spared⟩
    · cases crashed
    · rw [writeBlock_eq forwarder observer started twin nonempty, same]
      exact (inductionHypothesis left spared).prepend [_]
  | case4 link block nonempty next fault answer entry again inductionHypothesis =>
    intro twin spared
    rcases spared.write answer with crashed | ⟨left, same, spared⟩
    · cases crashed
    · rw [writeBlock_eq forwarder observer started twin nonempty, same]
      simp only [again, if_true]
      exact (inductionHypothesis left spared).prepend [entry]
  | case5 link block nonempty next fault answer entry fatal waits rest inductionHypothesis =>
    intro twin spared
    rcases spared.write answer with crashed | ⟨left, same, spared⟩
    · cases crashed
    · have mayWait : forwarder.mayWait (Port.since left started) = true := waits.2
      rw [writeBlock_eq forwarder observer started twin nonempty, same]
      simp only [waits.1, mayWait, reduceCtorEq, if_false, and_self, if_true]
      exact (inductionHypothesis left spared).prepend
        (entry :: observer.note (.portBusy block.length))
  | case6 link block nonempty next fault answer entry fatal overdue =>
    intro twin spared
    rcases spared.write answer with crashed | ⟨left, same, spared⟩
    · cases crashed
    · have overdueToo :
          ¬ (fault.kind = .timedOut ∧ forwarder.mayWait (Port.since left started) = true) := overdue
      rw [writeBlock_eq forwarder observer started twin nonempty, same]
      simp only [fatal, if_false, overdueToo]
      exact .same spared rfl rfl
  | case7 link block nonempty next answer =>
    intro twin spared
    obtain ⟨reply, elapsed, rest, begins⟩ :=
      (writeBlock_sends forwarder observer started twin block).exists_eq_cons nonempty
    exact .crashed rfl (begins ▸ .single .write rest)

/-! ### Transfers side by side -/

/-- Whether a transfer went like another one, or else crashed where the other went on. -/
inductive Run.Spared (run other : Run Link) : Prop where
  | same (source : run.source.Spared other.source) (port : run.port.Spared other.port)
    (ending : other.ending = run.ending) (history : other.history = run.history)
  | crashed (ending : run.ending = .crashed) (breaks : run.history.BreaksOff other.history)

theorem Run.Spared.prepend {run other : Run Link} (spared : run.Spared other)
    (first : History Progress) :
    Run.Spared { run with history := first ++ run.history }
      { other with history := first ++ other.history } := by
  cases spared with
  | same source port ending history =>
    exact .same source port ending (congrArg (first ++ ·) history)
  | crashed ending breaks => exact .crashed ending (breaks.append_left first)

/-- Copying blocks begins with filling one. -/
theorem copyBlocks_reading (source : Source) (link : Link) (report : Report) :
    ∃ later, (forwarder.copyBlocks observer source link report).history =
      (readBlock source forwarder.blockSize.bytes).history ++ later := by
  rw [Forwarder.copyBlocks]
  dsimp only
  split
  · exact ⟨[], (List.append_nil _).symm⟩
  · exact ⟨[], (List.append_nil _).symm⟩
  · split
    · exact ⟨[], (List.append_nil _).symm⟩
    · split
      · exact ⟨_, rfl⟩
      · exact ⟨_, rfl⟩
      · exact ⟨_, List.append_assoc ..⟩

/-- A block that was filled is written next. -/
theorem copyBlocks_writing (source : Source) (link : Link) (report : Report)
    (read : (readBlock source forwarder.blockSize.bytes).outcome = .gave ())
    (nonempty : (readBlock source forwarder.blockSize.bytes).block ≠ []) :
    ∃ later, (forwarder.copyBlocks observer source link report).history =
      (readBlock source forwarder.blockSize.bytes).history ++
        (writeBlock forwarder observer (Port.clock link) link
          (readBlock source forwarder.blockSize.bytes).block).history ++ later := by
  rw [Forwarder.copyBlocks]
  simp only [read, nonempty, if_false]
  split
  · exact ⟨[], (List.append_nil _).symm⟩
  · exact ⟨[], (List.append_nil _).symm⟩
  · exact ⟨_, rfl⟩

theorem copyBlocks_spared (source : Source) (link : Link) (report : Report) :
    ∀ twin spare, source.Spared twin → link.Spared spare →
      (forwarder.copyBlocks observer source link report).Spared
        (forwarder.copyBlocks observer twin spare report) := by
  fun_induction Forwarder.copyBlocks forwarder observer source link report with
  | case1 source link report filling fault outcome =>
    intro twin spare sparedSource sparedLink
    cases readBlock_spared sparedSource forwarder.blockSize.bytes with
    | same left block sameOutcome reading =>
      rw [Forwarder.copyBlocks]
      simp only [sameOutcome.trans outcome]
      exact .same left sparedLink rfl reading
    | crashed crashed breaks => cases outcome.symm.trans crashed
  | case2 source link report filling outcome =>
    intro twin spare sparedSource sparedLink
    cases readBlock_spared sparedSource forwarder.blockSize.bytes with
    | same left block sameOutcome reading =>
      rw [Forwarder.copyBlocks]
      simp only [sameOutcome.trans outcome]
      exact .same left sparedLink rfl reading
    | crashed crashed breaks =>
      obtain ⟨later, goesOn⟩ := copyBlocks_reading forwarder observer twin spare report
      exact .crashed rfl (goesOn ▸ breaks.append_right later)
  | case3 source link report filling outcome empty =>
    intro twin spare sparedSource sparedLink
    cases readBlock_spared sparedSource forwarder.blockSize.bytes with
    | same left block sameOutcome reading =>
      rw [Forwarder.copyBlocks]
      simp only [sameOutcome.trans outcome, block.trans empty, if_true]
      exact .same left sparedLink rfl reading
    | crashed crashed breaks => cases outcome.symm.trans crashed
  | case4 source link report filling read nonempty writing history fault outcome =>
    intro twin spare sparedSource sparedLink
    cases readBlock_spared sparedSource forwarder.blockSize.bytes with
    | crashed crashed breaks => cases read.symm.trans crashed
    | same left block sameOutcome reading =>
      cases writeBlock_spared forwarder observer (Port.clock link) link filling.block spare
        sparedLink with
      | crashed crashed breaks => cases outcome.symm.trans crashed
      | same port sameWriting written =>
        have wrote : (writeBlock forwarder observer (Port.clock spare) spare filling.block).outcome =
            .failed fault := sameWriting.trans outcome
        rw [Forwarder.copyBlocks]
        simp only [filling] at nonempty wrote
        simp only [sameOutcome.trans read, block, nonempty, if_false, wrote]
        exact .same left port rfl (congrArg₂ (· ++ ·) reading written)
  | case5 source link report filling read nonempty writing history outcome =>
    intro twin spare sparedSource sparedLink
    cases readBlock_spared sparedSource forwarder.blockSize.bytes with
    | crashed crashed breaks => cases read.symm.trans crashed
    | same left block sameOutcome reading =>
      have nonemptyToo : (readBlock twin forwarder.blockSize.bytes).block ≠ [] := block ▸ nonempty
      obtain ⟨later, goesOn⟩ := copyBlocks_writing forwarder observer twin spare report
        (sameOutcome.trans read) nonemptyToo
      rw [reading, block] at goesOn
      cases writeBlock_spared forwarder observer (Port.clock link) link filling.block spare
        sparedLink with
      | crashed crashed breaks =>
        exact .crashed rfl (goesOn ▸ (breaks.append_left filling.history).append_right later)
      | same port sameWriting written =>
        have wrote : (writeBlock forwarder observer (Port.clock spare) spare filling.block).outcome =
            .crashed := sameWriting.trans outcome
        rw [Forwarder.copyBlocks]
        simp only [filling] at nonempty wrote
        simp only [sameOutcome.trans read, block, nonempty, if_false, wrote]
        exact .same left port rfl (congrArg₂ (· ++ ·) reading written)
  | case6 source link report filling read nonempty writing history outcome rest
      inductionHypothesis =>
    intro twin spare sparedSource sparedLink
    cases readBlock_spared sparedSource forwarder.blockSize.bytes with
    | crashed crashed breaks => cases read.symm.trans crashed
    | same left block sameOutcome reading =>
      cases writeBlock_spared forwarder observer (Port.clock link) link filling.block spare
        sparedLink with
      | crashed crashed breaks => cases outcome.symm.trans crashed
      | same port sameWriting written =>
        have wrote : (writeBlock forwarder observer (Port.clock spare) spare filling.block).outcome =
            .gave () := sameWriting.trans outcome
        have both := (inductionHypothesis _ _ left port).prepend
          (.ofBlock observer filling.block filling.history writing.history)
        simp only [History.ofBlock_append] at both
        rw [Forwarder.copyBlocks]
        simp only [filling] at nonempty wrote
        simp only [sameOutcome.trans read, block, nonempty, if_false, wrote, reading]
        rw [show (writeBlock forwarder observer (Port.clock spare) spare _).history = _ from written]
        exact both

/-- Settling the output begins with a flush, whatever is answered. -/
theorem settleOutput_flushing (source : Source) (link : Link) (report : Report) :
    ∃ reply later, (forwarder.settleOutput observer source link report).history =
      observer.note (.inputExhausted report) ++ .flush reply :: later := by
  unfold Forwarder.settleOutput
  dsimp only
  split
  · exact ⟨_, [], rfl⟩
  · exact ⟨_, [], rfl⟩
  · split
    · exact ⟨_, _, List.append_assoc ..⟩
    · exact ⟨_, _, List.append_assoc ..⟩
    · exact ⟨_, _, List.append_assoc ..⟩

theorem settleOutput_spared {source twin : Source} (sparedSource : source.Spared twin)
    {link spare : Link} (sparedLink : link.Spared spare) (report : Report) :
    (forwarder.settleOutput observer source link report).Spared
      (forwarder.settleOutput observer twin spare report) := by
  obtain ⟨answered, later, goesOn⟩ := settleOutput_flushing forwarder observer twin spare report
  cases first : Port.flush link with
  | mk next reply =>
    rcases sparedLink.flush first with rfl | ⟨left, firstToo, sparedNext⟩
    · have breaks : History.BreaksOff (observer.note (.inputExhausted report) ++ [.flush .crashed])
          (forwarder.settleOutput observer twin spare report).history :=
        goesOn ▸ (History.BreaksOff.single .flush later).append_left _
      generalize forwarder.settleOutput observer twin spare report = other at breaks
      simp only [Forwarder.settleOutput, first]
      exact .crashed rfl breaks
    · cases reply with
      | failed fault =>
        simp only [Forwarder.settleOutput, first, firstToo]
        exact .same sparedSource sparedNext rfl rfl
      | crashed =>
        simp only [Forwarder.settleOutput, first, firstToo]
        exact .same sparedSource sparedNext rfl rfl
      | gave =>
        cases second : Port.flush next with
        | mk last reply =>
          rcases sparedNext.flush second with rfl | ⟨leftLast, secondToo, sparedLast⟩
          · -- The twin's second flush may be answered in any way, and nothing comes after it.
            cases secondToo : Port.flush left with
            | mk leftLast answered =>
              simp only [Forwarder.settleOutput, first, second, firstToo, secondToo]
              cases answered with
              | gave => exact .crashed rfl ((History.BreaksOff.single .flush []).append_left _)
              | failed fault =>
                exact .crashed rfl ((History.BreaksOff.single .flush []).append_left _)
              | crashed => exact .crashed rfl ((History.BreaksOff.single .flush []).append_left _)
          · simp only [Forwarder.settleOutput, first, second, firstToo, secondToo]
            cases reply with
            | gave => exact .same sparedSource sparedLast rfl rfl
            | failed fault => exact .same sparedSource sparedLast rfl rfl
            | crashed => exact .same sparedSource sparedLast rfl rfl

theorem transfer_spared {source twin : Source} (sparedSource : source.Spared twin)
    {link spare : Link} (sparedLink : link.Spared spare) :
    (forwarder.transfer observer source link).Spared (forwarder.transfer observer twin spare) := by
  have copied := copyBlocks_spared forwarder observer source link {} twin spare sparedSource
    sparedLink
  unfold Forwarder.transfer
  dsimp only
  split
  · exact .same sparedSource sparedLink rfl rfl
  · cases copied with
    | same left port ending history =>
      rw [ending]
      split
      · rename_i report sent
        rw [history]
        exact (settleOutput_spared forwarder observer left port report).prepend _
      · exact .same left port ending history
    | crashed ending breaks =>
      rw [ending]
      dsimp only
      split
      · exact .crashed ending (breaks.append_right _)
      · exact .crashed ending breaks

end Transfers

/-! ### The crash of a service -/

section Crash

variable {forwarder : Forwarder} {observer : Observer}

/-- A call that crashed is the same call as itself. -/
theorem Entry.spared_of_isCrash {entry : Entry Progress} (crashes : entry.isCrash = true) :
    entry.Spared entry := by
  cases entry with
  | read room reply =>
    rw [Reply.isCrashed_iff.1 crashes]
    exact .read
  | write offered reply elapsed =>
    rw [Reply.isCrashed_iff.1 crashes]
    exact .write
  | flush reply =>
    rw [Reply.isCrashed_iff.1 crashes]
    exact .flush
  | _ => cases crashes

/-- A crash is no event, and a port that crashes accepts nothing. -/
theorem Entry.nothing_of_isCrash {Event : Type} {entry : Entry Event}
    (crashes : entry.isCrash = true) : entry.event? = none ∧ entry.accepted = [] := by
  cases entry with
  | read room reply => exact ⟨rfl, rfl⟩
  | write offered reply elapsed =>
    rw [Reply.isCrashed_iff.1 crashes]
    exact ⟨rfl, rfl⟩
  | flush reply => exact ⟨rfl, rfl⟩
  | _ => cases crashes

/-- The history of a transfer that crashed ends with its only crash. -/
theorem Transfers.exists_crash {history : History Progress}
    (transfers : Transfers forwarder observer .crashed history) :
    ∃ before crash, history = before ++ [crash] ∧ ¬ History.Crashes before ∧
      crash.isCrash = true := by
  cases capacity : Shortage.ofSize? forwarder.blockSize.bytes with
  | some shortage => cases (transfers.of_short capacity).1
  | none =>
    obtain ⟨before, crash, course, calm, fatal⟩ := transfers.ends capacity
    refine ⟨before, crash, course, ?_, Entry.fatal?_eq_crashed_iff.1 fatal⟩
    rintro ⟨entry, member, crashes⟩
    have fatalEntry : entry.fatal? forwarder = some .crashed :=
      Entry.fatal?_eq_crashed_iff.2 crashes
    rw [calm entry member] at fatalEntry
    cases fatalEntry

/-- A transfer never ends with a lost worker: there is none in it. -/
theorem Transfers.ne_workerLost {ending : Ending} {history : History Progress}
    (transfers : Transfers forwarder observer ending history) : ending ≠ .failed .workerLost := by
  rintro rfl
  cases capacity : Shortage.ofSize? forwarder.blockSize.bytes with
  | some shortage => cases (transfers.of_short capacity).1
  | none =>
    obtain ⟨before, call, course, calm, fatal⟩ := transfers.ends capacity
    unfold Entry.fatal? at fatal
    split at fatal <;> simp at fatal

theorem Ending.result_eq_workerLost {ending : Ending} (present : ending ≠ .failed .workerLost) :
    ending.result = .error .workerLost ↔ ending = .crashed := by
  cases ending with
  | sent report => simp [result]
  | failed error =>
    have known : error ≠ .workerLost := fun lost => present (congrArg failed lost)
    simpa [result] using known
  | crashed => simp [result]

end Crash

/-- A transfer whose devices answer like those of a transfer that crashes, until there, begins with
the history of that one, and makes the call that crashed there. -/
theorem Run.Spared.goesOn {run other : Run Link} (spared : run.Spared other)
    {before : History Progress} {crash : Entry Progress} (course : run.history = before ++ [crash])
    (crashes : crash.isCrash = true) :
    ∃ answered rest, other.history = before ++ answered :: rest ∧ crash.Spared answered := by
  cases spared with
  | same source port sameEnding history =>
    exact ⟨crash, [], history.trans course, Entry.spared_of_isCrash crashes⟩
  | crashed _ breaks =>
    obtain ⟨earlier, call, answered, rest, history, goesOn, sameCall⟩ := breaks
    obtain ⟨rfl, same⟩ := List.append_inj' (history.symm.trans course) rfl
    cases same
    exact ⟨answered, rest, goesOn, sameCall⟩

/-- A crash is contained. A service over an opened link that sees a device crash has made the same
calls before as a transfer whose devices answer the same until there, however that one goes on; its
port has accepted the same bytes, and its events are the opened link and those of this transfer so
far. The crash is its last call, the link is let go once, the service is not done, and whoever waits
learns that the worker is lost. Nobody learns that without a crash. Among the devices that answer
the same until the crash there are always some that never crash. -/
theorem serve_crashing (forwarder : Forwarder) (observer : Observer) (source : Source)
    (connection : Connection Link) (speed : Option Nat) :
    let service := forwarder.serve observer source (.opened connection speed)
    let direct := forwarder.transfer { observer with events := true }
    (service.history.Crashes →
      (∃ (before : History Progress) (crash : Entry Progress),
        ¬ before.Crashes ∧ crash.isCrash = true ∧
        service.history.calls = before.calls ++ crash.call?.toList ∧
        service.history.accepted = before.accepted ∧
        service.history.events = .opened connection.name :: before.events.map .ofProgress ∧
        ∀ twin spare, source.Spared twin → connection.port.Spared spare →
          ∃ answered rest, (direct twin spare).history = before ++ answered :: rest ∧
            crash.Spared answered) ∧
      (∃ before after, service.history.LetsGo observer connection.name before after) ∧
      (∀ report, .done report ∉ service.history.events) ∧
      service.result = .error .workerLost) ∧
    (service.result = .error .workerLost → service.history.Crashes) ∧
    (∃ twin, source.Spared twin ∧ .crash ∉ twin.script) ∧
    ∃ spare, connection.port.Spared spare ∧ .crash ∉ spare.writes ∧ .crash ∉ spare.flushes := by
  intro service direct
  obtain ⟨events, result, _, _, calls⟩ := serve_opened forwarder observer source connection speed
  have transfers := transfer_transfers forwarder { observer with events := true } source
    connection.port
  have lost_iff : service.result = .error .workerLost ↔ service.history.Crashes := by
    rw [crashes_iff_of_calls calls, transfers.crashes_iff, show service.result = _ from result]
    exact Ending.result_eq_workerLost transfers.ne_workerLost
  refine ⟨fun crashing => ?_, lost_iff.1, source.exists_spared, connection.port.exists_spared⟩
  have ending : (direct source connection.port).ending = .crashed :=
    transfers.crashes_iff.1 ((crashes_iff_of_calls calls).1 crashing)
  rw [ending] at transfers
  obtain ⟨before, crash, course, first, crashes⟩ := transfers.exists_crash
  obtain ⟨noEvent, noBytes⟩ := Entry.nothing_of_isCrash crashes
  have told : service.history.events =
      .opened connection.name :: (History.events before).map .ofProgress := by
    rw [show service.history.events = _ from events, ending, course]
    simp [noEvent, Ending.events]
  refine ⟨⟨before, crash, first, crashes, ?_, ?_, told, fun twin spare sparedSource sparedLink => ?_⟩,
    ?_, ?_, lost_iff.2 crashing⟩
  · rw [show service.history.calls = _ from calls, course, History.calls_append]
    have last : History.calls [crash] = crash.call?.toList := by
      simp [History.calls, List.filterMap_eq_flatMap_toList]
    rw [last]
  · rw [accepted_eq_of_calls calls, course, History.accepted_append]
    simp [noBytes]
  · exact (transfer_spared forwarder { observer with events := true } sparedSource
      sparedLink).goesOn course crashes
  · obtain ⟨earlier, after, letsGo, _⟩ := serve_letsGo forwarder observer source connection speed
    exact ⟨earlier, after, letsGo⟩
  · rw [told]
    intro report member
    have passing := (ServiceEvent.passing_of_mem member).1
    cases passing

/-- A link that crashes after it has accepted half of the first block. -/
theorem serve_crashing_midBlock :
    let forwarder : Forwarder := { blockSize := ⟨4, by decide⟩ }
    let source : Source := { pending := [97, 98, 99, 100, 101] }
    let connection : Connection Link := ⟨"mem0", { writes := [.upTo 2, .crash] }⟩
    let service := forwarder.serve {} source (.opened connection none)
    service.history.Crashes ∧ service.history.accepted = [97, 98] ∧
      service.result = .error .workerLost ∧
        ∃ before after, service.history.LetsGo {} "mem0" before after := by
  intro forwarder source connection service
  have course : service.history =
      [.opening, .event (.opened "mem0"), .read 4 (.gave [97, 98, 99, 100]),
        .write [97, 98, 99, 100] (.gave 2) 0, .write [99, 100] .crashed 0, .release] := by
    cbv
  have crashes : service.history.Crashes := by
    refine ⟨.write [99, 100] .crashed 0, ?_, rfl⟩
    rw [course]
    decide
  obtain ⟨_, released, _, lost⟩ := (serve_crashing forwarder {} source connection none).1 crashes
  refine ⟨crashes, ?_, lost, released⟩
  rw [course]
  rfl

end SerialFeed
