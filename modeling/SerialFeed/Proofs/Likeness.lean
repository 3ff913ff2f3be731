/-
This file compares two transfers by one forwarder that differ in their devices and in who is told of
them. An onlooker sees some of what happens and not the rest. If the devices of the second transfer
answer like those of the first, but for calls of the first that are tried again without the onlooker
seeing it, then the transfers end alike, and the onlooker cannot tell their histories apart.

What makes two transfers alike is said of single calls; the rest of the file carries it from a call
to a block, to a transfer and to transfers one after the other.
-/

import Mathlib.Data.List.Forall2
import SerialFeed.Transfer

namespace SerialFeed

/-! ### Devices that answer alike -/

/-- Whether an onlooker sees nothing of a failed write after which the writer tries again. The
failure has left the port in the state `next`. -/
structure Unnoticed {π : Type} [Port π] (forwarder : Forwarder) (sees : Entry Progress → Bool)
    (next : π) (fault : Fault) : Prop where
  unseen : ∀ offered elapsed, sees (.write offered (.failed fault) elapsed) = false
  again : fault.kind = .interrupted ∨
    fault.kind = .timedOut ∧ (∀ started, forwarder.mayWait (Port.since next started) = true) ∧
      ∀ pending, sees (.note (.portBusy pending)) = false

/-- What an onlooker sees of a transfer, and the devices that stand in for those of the transfer.
They answer each call as the true ones do, unless it fails unnoticed: such a call leaves the true
devices in a state that stands for the same. -/
structure Likeness (π ρ : Type) [Port π] [Port ρ] (forwarder : Forwarder)
    (observer watcher : Observer) where
  /-- The entries that the onlooker sees. -/
  sees : Entry Progress → Bool
  /-- The source that stands in for a source. -/
  source : Source → Source
  /-- The port that stands in for a port. -/
  port : π → ρ
  note : ∀ record, (observer.note record : History Progress).filter sees =
    (watcher.note record : History Progress).filter sees
  event : ∀ reported, (observer.event reported).filter sees =
    (watcher.event reported).filter sees
  read : ∀ {given next : Source} {room : Nat} {reply : Reply Bytes}, 0 < room →
    given.read room = (next, reply) →
      (source given).read room = (source next, reply) ∨
        ∃ fault, reply = .failed fault ∧ fault.kind = .interrupted ∧
          sees (.read room (.failed fault)) = false ∧ source next = source given
  clock : ∀ given, Port.clock (port given) = Port.clock given
  write : ∀ {given next : π} {offered : Bytes} {reply : Reply Nat}, offered ≠ [] →
    Port.write given offered = (next, reply) →
      Port.write (port given) offered = (port next, reply) ∨
        ∃ fault, reply = .failed fault ∧ Unnoticed forwarder sees next fault ∧
          port next = port given
  flush : ∀ {given next : π} {reply : Reply Unit}, Port.flush given = (next, reply) →
    Port.flush (port given) = (port next, reply)

namespace Likeness

variable {π ρ : Type} [Port π] [Port ρ] {forwarder : Forwarder} {observer watcher : Observer}

/-- Someone who takes one observer for another, over the same devices. -/
def ofSees (sees : Entry Progress → Bool)
    (note : ∀ record, (observer.note record : History Progress).filter sees =
      (watcher.note record : History Progress).filter sees)
    (event : ∀ reported, (observer.event reported).filter sees =
      (watcher.event reported).filter sees) : Likeness π π forwarder observer watcher where
  sees := sees
  source := id
  port := id
  note := note
  event := event
  read _ answer := Or.inl answer
  clock _ := rfl
  write _ answer := Or.inl answer
  flush answer := answer

/-- Someone who sees everything, and takes a port for another one that answers alike. -/
def ofPort (port : π → ρ) (clock : ∀ given, Port.clock (port given) = Port.clock given)
    (write : ∀ {given next : π} {offered : Bytes} {reply : Reply Nat},
      Port.write given offered = (next, reply) →
        Port.write (port given) offered = (port next, reply))
    (flush : ∀ {given next : π} {reply : Reply Unit}, Port.flush given = (next, reply) →
      Port.flush (port given) = (port next, reply)) :
    Likeness π ρ forwarder observer observer where
  sees _ := true
  source := id
  port := port
  note _ := rfl
  event _ := rfl
  read _ answer := Or.inl answer
  clock := clock
  write _ answer := Or.inl (write answer)
  flush := flush

/-- Whether an onlooker cannot tell two histories apart. -/
def Histories (likeness : Likeness π ρ forwarder observer watcher)
    (first second : History Progress) : Prop :=
  first.filter likeness.sees = second.filter likeness.sees

section Histories

variable {likeness : Likeness π ρ forwarder observer watcher}
  {first second earlier later : History Progress}

theorem Histories.append (alike : likeness.Histories earlier later)
    (after : likeness.Histories first second) :
    likeness.Histories (earlier ++ first) (later ++ second) := by
  unfold Histories at *
  rw [List.filter_append, List.filter_append, alike, after]

theorem Histories.cons (alike : likeness.Histories first second) (entry : Entry Progress) :
    likeness.Histories (entry :: first) (entry :: second) := by
  have one : likeness.Histories [entry] [entry] := rfl
  exact one.append alike

theorem Histories.cons_unseen (alike : likeness.Histories first second) {entry : Entry Progress}
    (unseen : likeness.sees entry = false) : likeness.Histories (entry :: first) second := by
  unfold Histories at *
  rw [List.filter_cons_of_neg (ne_true_of_eq_false unseen), alike]

/-- A record that is not seen makes no difference. -/
theorem Histories.note_append (alike : likeness.Histories first second) {record : Note}
    (unseen : likeness.sees (.note record) = false) :
    likeness.Histories (observer.note record ++ first) second := by
  unfold Observer.note
  split
  · exact alike.cons_unseen unseen
  · exact alike

/-- Two histories that cannot be told apart are the same to whoever looks at seen entries only. -/
theorem Histories.flatMap {Value : Type} {view : Entry Progress → List Value}
    (alike : likeness.Histories first second)
    (blank : ∀ entry, likeness.sees entry = false → view entry = []) :
    List.flatMap view second = List.flatMap view first := by
  have onlySeen : ∀ history : History Progress,
      List.flatMap view (history.filter likeness.sees) = List.flatMap view history := by
    intro history
    induction history with
    | nil => rfl
    | cons entry rest inductionHypothesis =>
      cases sees : likeness.sees entry with
      | true =>
        rw [List.filter_cons_of_pos sees, List.flatMap_cons, List.flatMap_cons,
          inductionHypothesis]
      | false =>
        rw [List.filter_cons_of_neg (ne_true_of_eq_false sees), List.flatMap_cons,
          blank entry sees, inductionHypothesis, List.nil_append]
  unfold Histories at alike
  rw [← onlySeen first, ← onlySeen second, alike]

end Histories

variable (likeness : Likeness π ρ forwarder observer watcher)

/-! ### Blocks -/

/-- Whether two blocks were filled alike. -/
structure Fillings (filling other : Filling) : Prop where
  source : other.source = likeness.source filling.source
  block : other.block = filling.block
  outcome : other.outcome = filling.outcome
  history : likeness.Histories filling.history other.history

theorem Fillings.after {filling other : Filling} (alike : likeness.Fillings filling other)
    (entry : Entry Progress) : likeness.Fillings (filling.after entry) (other.after entry) :=
  ⟨alike.source, congrArg (entry.delivered ++ ·) alike.block, alike.outcome,
    alike.history.cons entry⟩

theorem readBlock_alike (source : Source) (room : Nat) :
    likeness.Fillings (readBlock source room) (readBlock (likeness.source source) room) := by
  fun_induction readBlock source room with
  | case1 source =>
    rw [readBlock, if_pos rfl]
    exact ⟨rfl, rfl, rfl, rfl⟩
  | case2 source room nonzero next answer =>
    have positive := Nat.pos_of_ne_zero nonzero
    rcases likeness.read positive answer with same | ⟨_, failed, _⟩
    · rw [readBlock_eq (likeness.source source) positive, same]
      exact ⟨rfl, rfl, rfl, rfl⟩
    · cases failed
  | case3 source room nonzero next first others answer inductionHypothesis =>
    have positive := Nat.pos_of_ne_zero nonzero
    rcases likeness.read positive answer with same | ⟨_, failed, _⟩
    · rw [readBlock_eq (likeness.source source) positive, same]
      exact inductionHypothesis.after likeness _
    · cases failed
  | case4 source room nonzero next fault answer again inductionHypothesis =>
    have positive := Nat.pos_of_ne_zero nonzero
    rcases likeness.read positive answer with same | ⟨_, failed, _, unseen, untouched⟩
    · rw [readBlock_eq (likeness.source source) positive, same]
      simp only [again, if_true]
      exact inductionHypothesis.after likeness _
    · -- The other source has not been called, and stands where the rest of the block begins.
      cases failed
      rw [untouched] at inductionHypothesis
      obtain ⟨left, block, outcome, history⟩ := inductionHypothesis
      exact ⟨left, block, outcome, history.cons_unseen unseen⟩
  | case5 source room nonzero next fault answer fatal =>
    have positive := Nat.pos_of_ne_zero nonzero
    rcases likeness.read positive answer with same | ⟨_, failed, again, _⟩
    · rw [readBlock_eq (likeness.source source) positive, same]
      simp only [fatal, if_false]
      exact ⟨rfl, rfl, rfl, rfl⟩
    · cases failed
      exact absurd again fatal
  | case6 source room nonzero next answer =>
    have positive := Nat.pos_of_ne_zero nonzero
    rcases likeness.read positive answer with same | ⟨_, failed, _⟩
    · rw [readBlock_eq (likeness.source source) positive, same]
      exact ⟨rfl, rfl, rfl, rfl⟩
    · cases failed

/-- Whether two blocks were written alike. -/
structure Writings (writing : Writing π Progress) (other : Writing ρ Progress) : Prop where
  port : other.port = likeness.port writing.port
  outcome : other.outcome = writing.outcome
  history : likeness.Histories writing.history other.history

theorem Writings.after {writing : Writing π Progress} {other : Writing ρ Progress}
    (alike : likeness.Writings writing other) (entry : Entry Progress) :
    likeness.Writings (writing.after entry) (other.after entry) :=
  ⟨alike.port, alike.outcome, alike.history.cons entry⟩

theorem since_port (port : π) (moment : Nat) :
    Port.since (likeness.port port) moment = Port.since port moment :=
  congrArg (· - moment) (likeness.clock port)

theorem writeBlock_alike (started : Nat) (port : π) (block : Bytes) :
    likeness.Writings (writeBlock forwarder observer started port block)
      (writeBlock forwarder watcher started (likeness.port port) block) := by
  fun_induction writeBlock forwarder observer started port block with
  | case1 port =>
    rw [writeBlock, if_pos rfl]
    exact ⟨rfl, rfl, rfl⟩
  | case2 port block nonempty next answer =>
    rcases likeness.write nonempty answer with same | ⟨_, failed, _⟩
    · rw [writeBlock_eq forwarder watcher started (likeness.port port) nonempty, same]
      simp only [likeness.since_port]
      exact ⟨rfl, rfl, rfl⟩
    · cases failed
  | case3 port block nonempty next count answer inductionHypothesis =>
    rcases likeness.write nonempty answer with same | ⟨_, failed, _⟩
    · rw [writeBlock_eq forwarder watcher started (likeness.port port) nonempty, same]
      simp only [likeness.since_port]
      exact inductionHypothesis.after likeness _
    · cases failed
  | case4 port block nonempty next fault answer entry again inductionHypothesis =>
    rcases likeness.write nonempty answer with same | ⟨_, failed, unnoticed, untouched⟩
    · rw [writeBlock_eq forwarder watcher started (likeness.port port) nonempty, same]
      simp only [likeness.since_port, again, if_true]
      exact inductionHypothesis.after likeness _
    · -- The other port has not been called, and stands where the rest of the writing begins.
      cases failed
      rw [untouched] at inductionHypothesis
      obtain ⟨left, outcome, history⟩ := inductionHypothesis
      exact ⟨left, outcome, history.cons_unseen (unnoticed.unseen _ _)⟩
  | case5 port block nonempty next fault answer entry fatal waits rest inductionHypothesis =>
    rcases likeness.write nonempty answer with same | ⟨_, failed, unnoticed, untouched⟩
    · obtain ⟨left, outcome, history⟩ := inductionHypothesis
      rw [writeBlock_eq forwarder watcher started (likeness.port port) nonempty, same]
      simp only [likeness.since_port, waits, and_self, if_true, reduceCtorEq, if_false]
      exact ⟨left, outcome, Histories.cons (Histories.append (likeness.note _) history) _⟩
    · cases failed
      rw [untouched] at inductionHypothesis
      obtain ⟨left, outcome, history⟩ := inductionHypothesis
      rcases unnoticed.again with again | ⟨_, _, silent⟩
      · exact absurd again fatal
      · exact ⟨left, outcome,
          (history.note_append (silent _)).cons_unseen (unnoticed.unseen _ _)⟩
  | case6 port block nonempty next fault answer entry fatal overdue =>
    rcases likeness.write nonempty answer with same | ⟨_, failed, unnoticed, _⟩
    · rw [writeBlock_eq forwarder watcher started (likeness.port port) nonempty, same]
      simp only [likeness.since_port, fatal, if_false, overdue]
      exact ⟨rfl, rfl, rfl⟩
    · cases failed
      rcases unnoticed.again with again | ⟨late, mayWait, _⟩
      · exact absurd again fatal
      · exact absurd ⟨late, mayWait started⟩ overdue
  | case7 port block nonempty next answer =>
    rcases likeness.write nonempty answer with same | ⟨_, failed, _⟩
    · rw [writeBlock_eq forwarder watcher started (likeness.port port) nonempty, same]
      simp only [likeness.since_port]
      exact ⟨rfl, rfl, rfl⟩
    · cases failed

/-! ### Transfers -/

/-- Whether two runs are alike. -/
structure Runs (run : Run π) (other : Run ρ) : Prop where
  source : other.source = likeness.source run.source
  port : other.port = likeness.port run.port
  ending : other.ending = run.ending
  history : likeness.Histories run.history other.history

theorem copyBlocks_alike (source : Source) (port : π) (report : Report) :
    likeness.Runs (forwarder.copyBlocks observer source port report)
      (forwarder.copyBlocks watcher (likeness.source source) (likeness.port port) report) := by
  fun_induction Forwarder.copyBlocks forwarder observer source port report with
  | case1 source port report filling fault outcome =>
    have fills := likeness.readBlock_alike source forwarder.blockSize.bytes
    rw [Forwarder.copyBlocks]
    simp only [fills.outcome.trans outcome]
    exact ⟨fills.source, rfl, rfl, fills.history⟩
  | case2 source port report filling outcome =>
    have fills := likeness.readBlock_alike source forwarder.blockSize.bytes
    rw [Forwarder.copyBlocks]
    simp only [fills.outcome.trans outcome]
    exact ⟨fills.source, rfl, rfl, fills.history⟩
  | case3 source port report filling outcome empty =>
    have fills := likeness.readBlock_alike source forwarder.blockSize.bytes
    rw [Forwarder.copyBlocks]
    simp only [fills.outcome.trans outcome, fills.block.trans empty, if_true]
    exact ⟨fills.source, rfl, rfl, fills.history⟩
  | case4 source port report filling read nonempty writing history fault outcome =>
    have fills := likeness.readBlock_alike source forwarder.blockSize.bytes
    have writes := likeness.writeBlock_alike (Port.clock port) port filling.block
    rw [Forwarder.copyBlocks]
    simp only [filling] at nonempty writes
    simp only [fills.outcome.trans read, fills.block, nonempty, if_false, likeness.clock,
      writes.outcome.trans outcome]
    exact ⟨fills.source, writes.port, rfl, fills.history.append writes.history⟩
  | case5 source port report filling read nonempty writing history outcome =>
    have fills := likeness.readBlock_alike source forwarder.blockSize.bytes
    have writes := likeness.writeBlock_alike (Port.clock port) port filling.block
    rw [Forwarder.copyBlocks]
    simp only [filling] at nonempty writes
    simp only [fills.outcome.trans read, fills.block, nonempty, if_false, likeness.clock,
      writes.outcome.trans outcome]
    exact ⟨fills.source, writes.port, rfl, fills.history.append writes.history⟩
  | case6 source port report filling read nonempty writing history outcome rest
      inductionHypothesis =>
    have fills := likeness.readBlock_alike source forwarder.blockSize.bytes
    have writes := likeness.writeBlock_alike (Port.clock port) port filling.block
    rw [Forwarder.copyBlocks]
    simp only [filling] at nonempty writes
    simp only [fills.outcome.trans read, fills.block, nonempty, if_false, likeness.clock,
      writes.outcome.trans outcome, fills.source, writes.port]
    obtain ⟨left, port, ending, later⟩ := inductionHypothesis
    refine ⟨left, port, ending, (fills.history.append writes.history).append ?_⟩
    exact Histories.append (likeness.note _) (Histories.append (likeness.event _) later)

theorem settleOutput_alike (source : Source) (port : π) (report : Report) :
    likeness.Runs (forwarder.settleOutput observer source port report)
      (forwarder.settleOutput watcher (likeness.source source) (likeness.port port) report) := by
  have start : likeness.Histories (observer.note (.inputExhausted report))
      (watcher.note (.inputExhausted report)) := likeness.note _
  have settling : likeness.Histories
      (.flush (.gave ()) :: (observer.event .settling ++ [.pause forwarder.settle]))
      (.flush (.gave ()) :: (watcher.event .settling ++ [.pause forwarder.settle])) :=
    Histories.cons (Histories.append (likeness.event _) rfl) _
  unfold Forwarder.settleOutput
  dsimp only
  split
  · rename_i next fault first
    simp only [likeness.flush first]
    exact ⟨rfl, rfl, rfl, start.append rfl⟩
  · rename_i next first
    simp only [likeness.flush first]
    exact ⟨rfl, rfl, rfl, start.append rfl⟩
  · rename_i next first
    simp only [likeness.flush first]
    split
    · rename_i last fault second
      simp only [likeness.flush second]
      exact ⟨rfl, rfl, rfl, (start.append settling).append rfl⟩
    · rename_i last second
      simp only [likeness.flush second]
      exact ⟨rfl, rfl, rfl, (start.append settling).append rfl⟩
    · rename_i last second
      simp only [likeness.flush second]
      exact ⟨rfl, rfl, rfl, (start.append settling).append rfl⟩

theorem transfer_alike (source : Source) (port : π) :
    likeness.Runs (forwarder.transfer observer source port)
      (forwarder.transfer watcher (likeness.source source) (likeness.port port)) := by
  have copied := likeness.copyBlocks_alike source port {}
  unfold Forwarder.transfer
  dsimp only
  split
  · exact ⟨rfl, rfl, rfl, rfl⟩
  · rw [copied.ending, copied.source, copied.port]
    split
    · rename_i report sent
      obtain ⟨left, port, ending, settled⟩ := likeness.settleOutput_alike
        (forwarder.copyBlocks observer source port {}).source
        (forwarder.copyBlocks observer source port {}).port report
      exact ⟨left, port, ending, copied.history.append settled⟩
    · exact copied

/-- Transfers one after the other are alike, one by one. -/
theorem transfers_alike (source : Source) (port : π) (count : Nat) :
    List.Forall₂ likeness.Runs (forwarder.transfers observer source port count)
      (forwarder.transfers watcher (likeness.source source) (likeness.port port) count) := by
  induction count generalizing source port with
  | zero => exact .nil
  | succ count inductionHypothesis =>
    have alike := likeness.transfer_alike source port
    have later := inductionHypothesis (forwarder.transfer observer source port).source
      (forwarder.transfer observer source port).port
    rw [← alike.source, ← alike.port] at later
    exact .cons alike later

end Likeness

end SerialFeed
