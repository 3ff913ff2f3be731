/-
This file compares the writer of blocks with the plain writer. Both go on after a part of the bytes
was taken and after an interruption; what sets them apart is their patience with a port that was
late. The plain writer has none. A writer of blocks whose deadline is over when it begins has none
either, and so the two make the same calls and come to the same. A writer without a deadline waits
for as long as it takes, which is what the plain writer would do on a port that is never late.

They also have words of their own for a port that takes nothing of what it is offered.
-/

import SerialFeed.Connection
import SerialFeed.Proofs.Course
import SerialFeed.Proofs.Retries

namespace SerialFeed

/-! ### What the plain writer does not do -/

section Histories

variable {Event : Type}

/-- Whether an entry is a late write after which its writer waits, or the record of that. -/
def Entry.isWait (forwarder : Forwarder) : Entry Event → Bool
  | write _ (.failed fault) elapsed => fault.kind = .timedOut ∧ forwarder.mayWait elapsed
  | note (.portBusy _) => true
  | _ => false

/-- Whether an entry is a write of which the port took nothing. -/
def Entry.isRefusal : Entry Event → Bool
  | write _ (.gave 0) _ => true
  | _ => false

namespace History

/-- What is left of a history without the waiting. -/
def withoutWaits (forwarder : Forwarder) (history : History Event) : History Event :=
  history.filter fun entry => !entry.isWait forwarder

/-- Whether a port took nothing of what it was offered. -/
def Refuses (history : History Event) : Prop :=
  ∃ entry ∈ history, entry.isRefusal = true

variable {forwarder : Forwarder} {entry : Entry Event} {history : History Event}

theorem withoutWaits_cons (acts : entry.isWait forwarder = false) :
    withoutWaits forwarder (entry :: history) = entry :: history.withoutWaits forwarder :=
  List.filter_cons_of_pos (by rw [acts]; rfl)

theorem withoutWaits_cons_of_isWait (waits : entry.isWait forwarder = true) :
    withoutWaits forwarder (entry :: history) = history.withoutWaits forwarder :=
  List.filter_cons_of_neg (by rw [waits]; exact Bool.false_ne_true)

/-- A record that the port is busy is part of the waiting. -/
theorem withoutWaits_note (observer : Observer) (pending : Nat) :
    withoutWaits forwarder (observer.note (.portBusy pending) ++ history) =
      history.withoutWaits forwarder := by
  unfold Observer.note
  split
  · exact withoutWaits_cons_of_isWait rfl
  · rfl

theorem not_refuses_nil : ¬ Refuses ([] : History Event) :=
  fun ⟨_, member, _⟩ => absurd member List.not_mem_nil

theorem refuses_cons (accepts : entry.isRefusal = false) :
    Refuses (entry :: history) ↔ history.Refuses := by
  unfold Refuses
  simp only [List.mem_cons, exists_eq_or_imp, accepts, Bool.false_eq_true, false_or]

theorem refuses_note (observer : Observer) (record : Note) :
    Refuses (observer.note record ++ history) ↔ history.Refuses := by
  unfold Observer.note
  split
  · exact refuses_cons rfl
  · exact Iff.rfl

end History

end Histories

/-! ### Ports for the plain writer -/

/-- Ports that the plain writer is given in place of others. Such a port answers each write as the
other one does; only of a late write after which the writer of blocks would wait it knows
nothing. -/
structure StandIn (π ρ : Type) [Port π] [Port ρ] (forwarder : Forwarder) where
  port : π → ρ
  clock : ∀ given, Port.clock (port given) = Port.clock given
  write : ∀ {given next : π} {offered : Bytes} {reply : Reply Nat},
    Port.write given offered = (next, reply) →
      Port.write (port given) offered = (port next, reply) ∧
          (∀ fault, reply = .failed fault → fault.kind = .timedOut →
            ∀ started, forwarder.mayWait (Port.since next started) = false) ∨
        ∃ fault, reply = .failed fault ∧ fault.kind = .timedOut ∧
          (∀ started, forwarder.mayWait (Port.since next started) = true) ∧
            port next = port given

/-- Whether the plain writer has done the same as a writer of blocks, but for the waiting, and has
come to the same, but for the words if the port took nothing. -/
structure Writing.IsPlain {π ρ : Type} (forwarder : Forwarder) (standIn : π → ρ)
    (written : Writing π Progress) (plain : Writing ρ Progress) : Prop where
  port : plain.port = standIn written.port
  history : plain.history = written.history.withoutWaits forwarder
  refused : written.history.Refuses →
    plain.outcome = .failed ⟨.writeZero, "failed to write whole buffer"⟩ ∧
      written.outcome = .failed ⟨.writeZero, "write zero"⟩
  outcome : ¬ written.history.Refuses → plain.outcome = written.outcome

namespace Writing.IsPlain

variable {π ρ : Type} {forwarder : Forwarder} {standIn : π → ρ} {written : Writing π Progress}
  {plain : Writing ρ Progress}

/-- Both writers go on after a write of which something was taken, and after an interruption. -/
theorem after (alike : IsPlain forwarder standIn written plain) {entry : Entry Progress}
    (acts : entry.isWait forwarder = false) (accepts : entry.isRefusal = false) :
    IsPlain forwarder standIn (written.after entry) (plain.after entry) where
  port := alike.port
  history := by
    refine (congrArg (entry :: ·) alike.history).trans ?_
    exact (History.withoutWaits_cons acts).symm
  refused refuses := alike.refused ((History.refuses_cons accepts).1 refuses)
  outcome taken := alike.outcome fun refuses => taken ((History.refuses_cons accepts).2 refuses)

/-- Waiting for the port makes no difference to the plain writer. -/
theorem wait (alike : IsPlain forwarder standIn written plain) (observer : Observer)
    (pending : Nat) {block : Bytes} {fault : Fault} {elapsed : Nat}
    (waits : fault.kind = .timedOut ∧ forwarder.mayWait elapsed = true) :
    IsPlain forwarder standIn
      { written with
        history := .write block (.failed fault) elapsed ::
          (observer.note (.portBusy pending) ++ written.history) }
      plain := by
  have refuses : History.Refuses (.write block (.failed fault) elapsed ::
      (observer.note (.portBusy pending) ++ written.history)) ↔ written.history.Refuses :=
    (History.refuses_cons rfl).trans (History.refuses_note observer _)
  have isWait : (Entry.write block (.failed fault) elapsed : Entry Progress).isWait forwarder :=
    decide_eq_true waits
  refine ⟨alike.port, ?_, fun refused => alike.refused (refuses.1 refused),
    fun taken => alike.outcome fun refused => taken (refuses.2 refused)⟩
  rw [alike.history, History.withoutWaits_cons_of_isWait isWait, History.withoutWaits_note]

/-- Both writers stop at a write that fails for good, and at one that crashes. -/
theorem stop {port : π} {reply : Reply Unit} {entry : Entry Progress}
    (acts : entry.isWait forwarder = false) (accepts : entry.isRefusal = false) :
    IsPlain forwarder standIn ⟨port, reply, [entry]⟩ ⟨standIn port, reply, [entry]⟩ where
  port := rfl
  history := by
    show [entry] = History.withoutWaits forwarder [entry]
    rw [History.withoutWaits_cons acts]
    rfl
  refused refuses := absurd ((History.refuses_cons accepts).1 refuses) History.not_refuses_nil
  outcome _ := rfl

end Writing.IsPlain

namespace StandIn

variable {π ρ : Type} [Port π] [Port ρ] {forwarder : Forwarder}

theorem since_port (standIn : StandIn π ρ forwarder) (port : π) (moment : Nat) :
    Port.since (standIn.port port) moment = Port.since port moment :=
  congrArg (· - moment) (standIn.clock port)

/-- The plain writer does on a port what the writer of blocks does on the one for which it stands
in. -/
theorem writeBlock_isPlain (standIn : StandIn π ρ forwarder) (observer : Observer) (started : Nat)
    (port : π) (block : Bytes) :
    Writing.IsPlain forwarder standIn.port (writeBlock forwarder observer started port block)
      (Port.writeAll started (standIn.port port) block) := by
  fun_induction writeBlock forwarder observer started port block with
  | case1 port =>
    rw [Port.writeAll, if_pos rfl]
    exact ⟨rfl, rfl, fun refuses => absurd refuses History.not_refuses_nil, fun _ => rfl⟩
  | case2 port block nonempty next answer =>
    rcases standIn.write answer with ⟨same, _⟩ | ⟨_, failed, _⟩
    · rw [Port.writeAll_eq started (standIn.port port) nonempty, same]
      simp only [standIn.since_port]
      have refuses : History.Refuses
          ([.write block (.gave 0) (Port.since next started)] : History Progress) :=
        ⟨_, List.mem_singleton_self _, rfl⟩
      exact ⟨rfl, rfl, fun _ => ⟨rfl, rfl⟩, fun taken => absurd refuses taken⟩
    · cases failed
  | case3 port block nonempty next count answer inductionHypothesis =>
    rcases standIn.write answer with ⟨same, _⟩ | ⟨_, failed, _⟩
    · rw [Port.writeAll_eq started (standIn.port port) nonempty, same]
      simp only [standIn.since_port]
      exact inductionHypothesis.after rfl rfl
    · cases failed
  | case4 port block nonempty next fault answer entry again inductionHypothesis =>
    rcases standIn.write answer with ⟨same, _⟩ | ⟨_, failed, late, _⟩
    · rw [Port.writeAll_eq started (standIn.port port) nonempty, same]
      simp only [standIn.since_port, again, if_true]
      refine inductionHypothesis.after (decide_eq_false ?_) rfl
      rintro ⟨late, _⟩
      cases again.symm.trans late
    · cases failed
      cases again.symm.trans late
  | case5 port block nonempty next fault answer entry fatal waits rest inductionHypothesis =>
    rcases standIn.write answer with ⟨_, overdue⟩ | ⟨_, failed, _, _, untouched⟩
    · have expired := overdue fault rfl waits.1 started
      rw [waits.2] at expired
      cases expired
    · -- The plain writer's port has not been called, and stands where the waiting ends.
      rw [untouched] at inductionHypothesis
      exact inductionHypothesis.wait observer block.length waits
  | case6 port block nonempty next fault answer entry fatal overdue =>
    rcases standIn.write answer with ⟨same, _⟩ | ⟨_, failed, late, mayWait, _⟩
    · rw [Port.writeAll_eq started (standIn.port port) nonempty, same]
      simp only [standIn.since_port, fatal, if_false]
      exact .stop (decide_eq_false overdue) rfl
    · cases failed
      exact absurd ⟨late, mayWait started⟩ overdue
  | case7 port block nonempty next answer =>
    rcases standIn.write answer with ⟨same, _⟩ | ⟨_, failed, _⟩
    · rw [Port.writeAll_eq started (standIn.port port) nonempty, same]
      simp only [standIn.since_port]
      exact .stop rfl rfl
    · cases failed

end StandIn

/-! ### Writers without patience and without a deadline -/

section Deadlines

variable (forwarder : Forwarder) (name : String)

/-- The writer of blocks whose deadline is over when it begins. -/
def Forwarder.hasty : Forwarder :=
  { forwarder with writeTimeout := some 0 }

/-- The writer of blocks that has no deadline. -/
def Forwarder.patient : Forwarder :=
  { forwarder with writeTimeout := none }

theorem Forwarder.mayWait_hasty (elapsed : Nat) : forwarder.hasty.mayWait elapsed = false :=
  decide_eq_false (Nat.not_lt_zero elapsed)

/-- Writing to a connection is writing to the port that it holds. -/
theorem Connection.write_eq {π : Type} [Port π] {name : String} {port next : π} {offered : Bytes}
    {reply : Reply Nat} (answer : Port.write port offered = (next, reply)) :
    Port.write (⟨name, port⟩ : Connection π) offered = (⟨name, next⟩, reply) := by
  have held : Port.write (⟨name, port⟩ : Connection π) offered =
      (⟨name, (Port.write port offered).1⟩, (Port.write port offered).2) := rfl
  rw [held, answer]

/-- Where nobody waits, the plain writer is given the same port, held under a name. -/
def StandIn.ofHasty {π : Type} [Port π] : StandIn π (Connection π) forwarder.hasty where
  port port := ⟨name, port⟩
  clock _ := rfl
  write answer := Or.inl ⟨Connection.write_eq answer, fun _ _ _ _ => forwarder.mayWait_hasty _⟩

/-- A link without failures of some kinds never fails by one of them. -/
theorem Link.kind_of_write_without {kinds : List FaultKind} {link : Link} {offered : Bytes}
    {fault : Fault} (failed : ((link.without kinds).write offered).2 = .failed fault) :
    fault.kind ∉ kinds := by
  unfold Link.write at failed
  split at failed
  · cases failed
  · cases failed
  · rename_i other rest script
    cases failed
    have kept : Step.fail fault ∈ withoutFailures kinds link.writes := by
      rw [show withoutFailures kinds link.writes = _ from script]
      exact List.mem_cons_self
    have lasts := (List.mem_filter.1 kept).2
    simpa [Step.failsBy] using lasts
  · cases failed

/-- Whoever waits for as long as it takes might as well have a link that is never late. -/
def StandIn.ofPatient : StandIn Link (Connection Link) forwarder.patient where
  port link := ⟨name, link.without [.timedOut]⟩
  clock _ := rfl
  write {given next offered reply} answer := by
    have alike := Link.write_without [.timedOut] given offered
    rw [show given.write offered = (next, reply) from answer] at alike
    rcases alike with same | ⟨fault, failed, late, untouched⟩
    · refine Or.inl ⟨Connection.write_eq same, fun fault failed late => ?_⟩
      rw [failed] at same
      have punctual := Link.kind_of_write_without (congrArg Prod.snd same)
      exact absurd (List.mem_singleton.2 late) punctual
    · refine Or.inr ⟨fault, failed, List.mem_singleton.1 late, fun _ => rfl, ?_⟩
      exact congrArg (Connection.mk name) untouched

/-- No write is waited for where nobody waits. -/
theorem Entry.isWait_hasty {Event : Type} (offered : Bytes) (reply : Reply Nat) (elapsed : Nat) :
    (Entry.write offered reply elapsed : Entry Event).isWait forwarder.hasty = false := by
  cases reply with
  | failed fault =>
    refine decide_eq_false ?_
    rw [forwarder.mayWait_hasty]
    exact fun waits => Bool.false_ne_true waits.2
  | gave count => rfl
  | crashed => rfl

theorem Sends.withoutWaits_hasty {observer : Observer} {block : Bytes} {outcome : Reply Unit}
    {history : History Progress} (sends : Sends forwarder.hasty observer block outcome history) :
    history.withoutWaits forwarder.hasty = history := by
  have acts : ∀ {offered reply elapsed},
      (Entry.write offered reply elapsed : Entry Progress).isWait forwarder.hasty = false :=
    Entry.isWait_hasty forwarder _ _ _
  induction sends with
  | done => rfl
  | refused nonempty => exact History.withoutWaits_cons acts
  | piece positive fits rest inductionHypothesis =>
    rw [History.withoutWaits_cons acts, inductionHypothesis]
  | interrupted nonempty again rest inductionHypothesis =>
    rw [History.withoutWaits_cons acts, inductionHypothesis]
  | waiting nonempty late mayWait rest inductionHypothesis =>
    rw [forwarder.mayWait_hasty] at mayWait
    cases mayWait
  | failed nonempty fatal overdue => exact History.withoutWaits_cons acts
  | crashed nonempty => exact History.withoutWaits_cons acts

end Deadlines

/-! ### The two writers -/

/-- Whether a port has accepted a first part of some bytes, and the whole of them exactly if the
writing came to its end. -/
def Writing.TakesFrom {π : Type} (bytes : Bytes) (written : Writing π Progress) : Prop :=
  written.history.accepted <+: bytes ∧
    (written.history.accepted = bytes ↔ written.outcome = .gave ())

theorem writeBlock_takesFrom {π : Type} [Port π] (forwarder : Forwarder) (observer : Observer)
    (started : Nat) (port : π) (block : Bytes) :
    (writeBlock forwarder observer started port block).TakesFrom block := by
  obtain ⟨lost, split, whole⟩ := (writeBlock_sends forwarder observer started port block).accepted
  refine ⟨⟨lost, split.symm⟩, ?_⟩
  rw [← whole, ← List.append_right_eq_self, ← split, eq_comm]

/-- Without patience a block is written as the plain writer would write it over a connection: by the
same calls, with the same state of the link behind them, and to the same end but for the words when
the link takes nothing. Without a deadline it is written as the plain writer would write it over a
link that is never late, but for the late calls after which the writer waits and the records of
that. Either way what the link has accepted is a first part of the block, and the whole of it
exactly if the writing came to its end. -/
theorem writeBlock_plain (forwarder : Forwarder) (observer : Observer) (name : String)
    (started : Nat) (link : Link) (block : Bytes) :
    let hurried := writeBlock forwarder.hasty observer started link block
    let waited := writeBlock forwarder.patient observer started link block
    let plain : Writing (Connection Link) Progress := Port.writeAll started ⟨name, link⟩ block
    let punctual : Writing (Connection Link) Progress :=
      Port.writeAll started ⟨name, link.without [.timedOut]⟩ block
    hurried.IsPlain forwarder.hasty (Connection.mk name) plain ∧ plain.history = hurried.history ∧
    waited.IsPlain forwarder.patient (fun link => ⟨name, link.without [.timedOut]⟩) punctual ∧
    hurried.TakesFrom block ∧ waited.TakesFrom block := by
  intro hurried waited plain punctual
  have isPlain := (StandIn.ofHasty forwarder name).writeBlock_isPlain observer started link block
  have sends := writeBlock_sends forwarder.hasty observer started link block
  refine ⟨isPlain, ?_, ?_, ?_, ?_⟩
  · rw [show plain.history = _ from isPlain.history]
    exact sends.withoutWaits_hasty forwarder
  · exact (StandIn.ofPatient forwarder name).writeBlock_isPlain observer started link block
  · exact writeBlock_takesFrom forwarder.hasty observer started link block
  · exact writeBlock_takesFrom forwarder.patient observer started link block

end SerialFeed
