/-
This file shows that calls which are tried again leave nothing behind. A reader tries again after an
interruption. A writer does so too, and also when the link was late, unless the deadline of the
block has passed; on a link that takes no time only a deadline of zero ever passes. If the script of
a source or a link is rid of all these failures, wherever they stand in it, then every transfer ends
as before, with the same bytes written, the same bytes left and the same events, and its history
lacks nothing but the failed calls and the records that the port is busy.
-/

import SerialFeed.Proofs.Integrity
import SerialFeed.Proofs.Likeness

namespace SerialFeed

/-! ### Scripts without some failures -/

/-- Whether a call is answered by a failure of one of some kinds. -/
def Step.failsBy (kinds : List FaultKind) : Step → Bool
  | upTo _ => false
  | fail fault => fault.kind ∈ kinds
  | crash => false

/-- A script without its failures of some kinds. -/
def withoutFailures (kinds : List FaultKind) (script : List Step) : List Step :=
  script.filter fun step => !step.failsBy kinds

section Scripts

variable {kinds : List FaultKind} {step : Step} (rest : List Step)

theorem withoutFailures_cons_of_failsBy (fails : step.failsBy kinds = true) :
    withoutFailures kinds (step :: rest) = withoutFailures kinds rest :=
  List.filter_cons_of_neg (ne_true_of_eq_false (by rw [fails]; rfl))

theorem withoutFailures_cons (lasts : step.failsBy kinds = false) :
    withoutFailures kinds (step :: rest) = step :: withoutFailures kinds rest :=
  List.filter_cons_of_pos (by rw [lasts]; rfl)

end Scripts

/-- A source that is never interrupted. -/
def Source.uninterrupted (source : Source) : Source :=
  { source with script := withoutFailures [.interrupted] source.script }

/-- A link none of whose writes fails by one of some kinds. -/
def Link.without (kinds : List FaultKind) (link : Link) : Link :=
  { link with writes := withoutFailures kinds link.writes }

/-- The kinds of failure after which a writer tries again, if the link takes no time. -/
def Forwarder.retriedKinds (forwarder : Forwarder) : List FaultKind :=
  if forwarder.writeTimeout = some 0 then [.interrupted] else [.interrupted, .timedOut]

/-- Whether an entry is neither a read or a write that was tried again nor a record that the port is
busy. -/
def Entry.isLasting {Event : Type} (kinds : List FaultKind) : Entry Event → Bool
  | read _ (.failed fault) => fault.kind ≠ .interrupted
  | write _ (.failed fault) _ => fault.kind ∉ kinds
  | note (.portBusy _) => false
  | _ => true

/-! ### Devices without failures that are tried again -/

/-- A read that is not interrupted is answered as by the source that never is. -/
theorem Source.read_uninterrupted (source : Source) (room : Nat) :
    source.uninterrupted.read room =
        ((source.read room).1.uninterrupted, (source.read room).2) ∨
      ∃ fault, (source.read room).2 = .failed fault ∧ fault.kind = .interrupted ∧
        (source.read room).1.uninterrupted = source.uninterrupted := by
  obtain ⟨pending, script, cap⟩ := source
  cases script with
  | nil => exact Or.inl rfl
  | cons step rest =>
    cases step with
    | upTo count => exact Or.inl rfl
    | crash => exact Or.inl rfl
    | fail fault =>
      by_cases again : fault.kind = .interrupted
      · have fails : (Step.fail fault).failsBy [.interrupted] = true := by simp [Step.failsBy, again]
        refine Or.inr ⟨fault, rfl, again, ?_⟩
        unfold uninterrupted
        rw [withoutFailures_cons_of_failsBy rest fails]
        rfl
      · have lasts : (Step.fail fault).failsBy [.interrupted] = false := by
          simp [Step.failsBy, again]
        left
        unfold uninterrupted
        rw [withoutFailures_cons rest lasts]
        rfl

/-- A write that does not fail by one of some kinds is answered as by the link without such
failures. -/
theorem Link.write_without (kinds : List FaultKind) (link : Link) (offered : Bytes) :
    (link.without kinds).write offered =
        ((link.write offered).1.without kinds, (link.write offered).2) ∨
      ∃ fault, (link.write offered).2 = .failed fault ∧ fault.kind ∈ kinds ∧
        (link.write offered).1.without kinds = link.without kinds := by
  obtain ⟨writes, flushes, cap⟩ := link
  cases writes with
  | nil => exact Or.inl rfl
  | cons step rest =>
    cases step with
    | upTo count => exact Or.inl rfl
    | crash => exact Or.inl rfl
    | fail fault =>
      by_cases again : fault.kind ∈ kinds
      · have fails : (Step.fail fault).failsBy kinds = true := by simp [Step.failsBy, again]
        refine Or.inr ⟨fault, rfl, again, ?_⟩
        unfold without
        rw [withoutFailures_cons_of_failsBy rest fails]
        rfl
      · have lasts : (Step.fail fault).failsBy kinds = false := by simp [Step.failsBy, again]
        left
        unfold without
        rw [withoutFailures_cons rest lasts]
        rfl

/-! ### Transfers without failures that are tried again -/

section Retries

variable (forwarder : Forwarder) (observer : Observer)

/-- A late write is tried again by a writer whose deadline does not pass on a link that takes no
time. -/
theorem mayWait_of_retried {fault : Fault} (retried : fault.kind ∈ forwarder.retriedKinds)
    (link : Link) :
    fault.kind = .interrupted ∨
      fault.kind = .timedOut ∧ ∀ started, forwarder.mayWait (Port.since link started) = true := by
  unfold Forwarder.retriedKinds at retried
  split at retried
  · exact Or.inl (List.mem_singleton.1 retried)
  · rename_i unexpired
    rw [List.mem_pair] at retried
    refine retried.imp_right fun late => ⟨late, fun started => ?_⟩
    have untimed : Port.since link started = 0 := Nat.zero_sub started
    unfold Forwarder.mayWait
    rw [untimed]
    split
    · rfl
    · rename_i limit timeout
      have positive : limit ≠ 0 := fun zero => unexpired (zero ▸ timeout)
      exact decide_eq_true (Nat.pos_of_ne_zero positive)

/-- An onlooker who does not see what is tried again takes devices for those without it. -/
def Likeness.ofRetries : Likeness Link Link forwarder observer observer where
  sees := Entry.isLasting forwarder.retriedKinds
  source := Source.uninterrupted
  port := Link.without forwarder.retriedKinds
  note _ := rfl
  event _ := rfl
  read {given next room reply} _ answer := by
    have alike := Source.read_uninterrupted given room
    rw [answer] at alike
    refine alike.imp_right ?_
    rintro ⟨fault, failed, again, untouched⟩
    exact ⟨fault, failed, again, decide_eq_false (not_not_intro again), untouched⟩
  clock _ := rfl
  write {given next offered reply} _ answer := by
    have alike := Link.write_without forwarder.retriedKinds given offered
    rw [show given.write offered = (next, reply) from answer] at alike
    refine alike.imp_right ?_
    rintro ⟨fault, failed, retried, untouched⟩
    refine ⟨fault, failed, ⟨fun _ _ => decide_eq_false (not_not_intro retried), ?_⟩, untouched⟩
    exact (mayWait_of_retried forwarder retried next).imp_right fun ⟨late, mayWait⟩ =>
      ⟨late, mayWait, fun _ => rfl⟩
  flush {given next reply} answer := by
    obtain ⟨writes, flushes, cap⟩ := given
    cases flushes with
    | nil =>
      cases answer
      rfl
    | cons step rest =>
      cases step with
      | upTo count =>
        cases answer
        rfl
      | fail fault =>
        cases answer
        rfl
      | crash =>
        cases answer
        rfl

/-- Whether a run ends as another one and has done the same with its bytes, and reported the same,
and its history differs in no more than what is tried again. -/
structure Run.SameButRetries (kinds : List FaultKind) (run other : Run Link) : Prop where
  ending : other.ending = run.ending
  accepted : other.history.accepted = run.history.accepted
  unread : other.source.pending = run.source.pending
  events : other.history.events = run.history.events
  history : other.history.filter (Entry.isLasting kinds) =
    run.history.filter (Entry.isLasting kinds)

/-- What is tried again has no effect on the bytes and is no event. -/
theorem Entry.nothing_of_isLasting {kinds : List FaultKind} {entry : Entry Progress}
    (passing : entry.isLasting kinds = false) : entry.accepted = [] ∧ entry.event?.toList = [] := by
  unfold isLasting at passing
  split at passing
  · exact ⟨rfl, rfl⟩
  · exact ⟨rfl, rfl⟩
  · exact ⟨rfl, rfl⟩
  · cases passing

theorem Run.sameButRetries {run other : Run Link}
    (alike : (Likeness.ofRetries forwarder observer).Runs run other) :
    Run.SameButRetries forwarder.retriedKinds run other where
  ending := alike.ending
  accepted := alike.history.flatMap fun _ passing => (Entry.nothing_of_isLasting passing).1
  unread := by
    rw [alike.source]
    rfl
  events := by
    unfold History.events
    rw [List.filterMap_eq_flatMap_toList, List.filterMap_eq_flatMap_toList]
    exact alike.history.flatMap fun _ passing => (Entry.nothing_of_isLasting passing).2
  history := alike.history.symm

/-- Runs that are the same one by one have written the same and left the same. -/
theorem totals_of_sameButRetries {kinds : List FaultKind} {runs others : List (Run Link)}
    (same : List.Forall₂ (Run.SameButRetries kinds) runs others) {source twin : Source}
    (unread : twin.pending = source.pending) :
    writtenBy others = writtenBy runs ∧
      (leftBy twin others).pending = (leftBy source runs).pending := by
  induction same generalizing source twin with
  | nil => exact ⟨rfl, unread⟩
  | @cons run other runs others first rest inductionHypothesis =>
    obtain ⟨written, left⟩ := inductionHypothesis first.unread
    refine ⟨?_, ?_⟩
    · unfold writtenBy at *
      rw [List.flatMap_cons, List.flatMap_cons, first.accepted, written]
    · rw [leftBy_cons, leftBy_cons]
      exact left

/-- What is tried again leaves no mark. Any number of transfers between a source and a link end as
the same transfers do between a source that is never interrupted and a link that never answers by a
failure after which a writer tries again; they write the same bytes, leave the same bytes and report
the same events, and their histories are the same but for the failed calls and the records that the
port is busy. -/
theorem transfers_withoutRetries (source : Source) (link : Link) (count : Nat) :
    let kinds := forwarder.retriedKinds
    let runs := forwarder.transfers observer source link count
    let others := forwarder.transfers observer source.uninterrupted (link.without kinds) count
    List.Forall₂ (Run.SameButRetries kinds) runs others ∧
      writtenBy others = writtenBy runs ∧
      (leftBy source.uninterrupted others).pending = (leftBy source runs).pending := by
  intro kinds runs others
  have alike := (Likeness.ofRetries forwarder observer).transfers_alike source link count
  have same : List.Forall₂ (Run.SameButRetries kinds) runs others :=
    alike.imp fun _ _ => Run.sameButRetries forwarder observer
  exact ⟨same, totals_of_sameButRetries same rfl⟩

end Retries

end SerialFeed
