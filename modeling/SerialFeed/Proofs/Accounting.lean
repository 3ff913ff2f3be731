/-
This file accounts for the bytes of a connection that is called step by step. Every call goes on
with the link as the call before has left it, and during it the link accepts a first part of the
data of the call. A single write and a flush are one call on the link and hand on its answer.
Writing all of some bytes offers again and again what is not accepted yet: it goes on after a part
and after an interruption, and any other answer ends it.
-/

import SerialFeed.Proofs.Release

namespace SerialFeed

/-! ### Calls on a port -/

/-- A reply with its value changed. -/
def Reply.map {Value Other : Type} (change : Value → Other) : Reply Value → Reply Other
  | gave value => gave (change value)
  | failed fault => failed fault
  | crashed => crashed

section Answers

variable {π : Type} [Port π] {Event : Type}

/-- Whether a history tells of calls on a port and of nothing else: they come one after the other,
each is answered as the port answers it, and together they lead from one state of the port to
another. -/
inductive Port.Answers : π → History Event → π → Prop where
  | nil (port : π) : Answers port [] port
  | write {port next last : π} {offered : Bytes} {reply : Reply Nat} {history : History Event}
    (elapsed : Nat) (answer : Port.write port offered = (next, reply))
    (rest : Answers next history last) :
    Answers port (.write offered reply elapsed :: history) last
  | flush {port next last : π} {reply : Reply Unit} {history : History Event}
    (answer : Port.flush port = (next, reply)) (rest : Answers next history last) :
    Answers port (.flush reply :: history) last

namespace Port.Answers

variable {port middle last : π} {first second : History Event}

theorem append (answers : Answers port first middle) (others : Answers middle second last) :
    Answers port (first ++ second) last := by
  induction answers with
  | nil => exact others
  | write elapsed answer rest inductionHypothesis =>
    exact .write elapsed answer (inductionHypothesis others)
  | flush answer rest inductionHypothesis => exact .flush answer (inductionHypothesis others)

/-- What a connection is asked and answers, its link is asked and answers. -/
theorem ofConnection {connection next : Connection π} {history : History Event}
    (answers : Answers connection history next) :
    Answers connection.port history next.port ∧ next.name = connection.name := by
  induction answers with
  | nil connection => exact ⟨.nil _, rfl⟩
  | write elapsed answer rest inductionHypothesis =>
    cases answer
    exact ⟨.write elapsed rfl inductionHypothesis.1, inductionHypothesis.2⟩
  | flush answer rest inductionHypothesis =>
    cases answer
    exact ⟨.flush rfl inductionHypothesis.1, inductionHypothesis.2⟩

end Port.Answers

end Answers

/-! ### The course of writing all -/

/-- How all of some bytes can be written: how the writing stops, and the writes. -/
inductive Persists {Event : Type} : Bytes → Reply Unit → History Event → Prop where
  | done : Persists [] (.gave ()) []
  | refused {bytes : Bytes} {elapsed : Nat} (nonempty : bytes ≠ []) :
    Persists bytes (.failed incompleteWrite) [.write bytes (.gave 0) elapsed]
  | piece {bytes : Bytes} {count elapsed : Nat} {outcome : Reply Unit} {history : History Event}
    (fits : count + 1 ≤ bytes.length) (rest : Persists (bytes.drop (count + 1)) outcome history) :
    Persists bytes outcome (.write bytes (.gave (count + 1)) elapsed :: history)
  | interrupted {bytes : Bytes} {fault : Fault} {elapsed : Nat} {outcome : Reply Unit}
    {history : History Event} (nonempty : bytes ≠ []) (again : fault.kind = .interrupted)
    (rest : Persists bytes outcome history) :
    Persists bytes outcome (.write bytes (.failed fault) elapsed :: history)
  | failed {bytes : Bytes} {fault : Fault} {elapsed : Nat} (nonempty : bytes ≠ [])
    (fatal : fault.kind ≠ .interrupted) :
    Persists bytes (.failed fault) [.write bytes (.failed fault) elapsed]
  | crashed {bytes : Bytes} {elapsed : Nat} (nonempty : bytes ≠ []) :
    Persists bytes .crashed [.write bytes .crashed elapsed]

theorem Port.writeAll_persists {π : Type} [Port π] (Event : Type) (started : Nat) (port : π)
    (bytes : Bytes) :
    let writing : Writing π Event := Port.writeAll started port bytes
    Persists bytes writing.outcome writing.history ∧
      Port.Answers port writing.history writing.port := by
  fun_induction @Port.writeAll π Event _ started port bytes with
  | case1 => exact ⟨.done, .nil _⟩
  | case2 port bytes nonempty next answer =>
    exact ⟨.refused nonempty, .write _ answer (.nil next)⟩
  | case3 port bytes nonempty next count answer inductionHypothesis =>
    obtain ⟨persists, answers⟩ := inductionHypothesis
    have fits : count + 1 ≤ bytes.length := Port.accepted_le (congrArg Prod.snd answer)
    exact ⟨.piece fits persists, .write _ answer answers⟩
  | case4 port bytes nonempty next fault answer again inductionHypothesis =>
    obtain ⟨persists, answers⟩ := inductionHypothesis
    exact ⟨.interrupted nonempty again persists, .write _ answer answers⟩
  | case5 port bytes nonempty next fault answer fatal =>
    exact ⟨.failed nonempty fatal, .write _ answer (.nil next)⟩
  | case6 port bytes nonempty next answer =>
    exact ⟨.crashed nonempty, .write _ answer (.nil next)⟩

/-- What the answer of a write means for the plain writer: whether more writes come after it, and
how the writing stops if none does. -/
def Reply.Decides {Event : Type} (reply : Reply Nat) (outcome : Reply Unit)
    (after : History Event) : Prop :=
  match reply with
  | gave 0 => after = [] ∧ outcome = .failed incompleteWrite
  | gave (_ + 1) => after = [] → outcome = .gave ()
  | failed fault =>
    if fault.kind = .interrupted then after ≠ [] else after = [] ∧ outcome = .failed fault
  | crashed => after = [] ∧ outcome = .crashed

namespace Persists

variable {Event : Type} {bytes : Bytes} {outcome : Reply Unit} {history : History Event}

/-- What the port accepts is the data from its beginning, and all of it exactly when the writing
comes to its end. -/
theorem accepted (persists : Persists bytes outcome history) :
    history.accepted <+: bytes ∧ (outcome = .gave () ↔ history.accepted = bytes) := by
  induction persists with
  | done => exact ⟨List.prefix_rfl, iff_of_true rfl rfl⟩
  | @piece bytes count elapsed outcome history fits rest inductionHypothesis =>
    have whole : bytes.take (count + 1) ++ bytes.drop (count + 1) = bytes :=
      List.take_append_drop (count + 1) bytes
    have split : History.accepted (.write bytes (.gave (count + 1)) elapsed :: history) =
        bytes.take (count + 1) ++ history.accepted := History.accepted_cons _ _
    obtain ⟨started, finished⟩ := inductionHypothesis
    rw [split, finished]
    refine ⟨?_, fun same => by rw [same, whole], fun same => ?_⟩
    · have longer := (List.prefix_append_right_inj (bytes.take (count + 1))).2 started
      rwa [whole] at longer
    · exact List.append_cancel_left (same.trans whole.symm)
  | interrupted nonempty again rest inductionHypothesis => exact inductionHypothesis
  | refused nonempty => exact ⟨List.nil_prefix, iff_of_false nofun nonempty.symm⟩
  | failed nonempty fatal => exact ⟨List.nil_prefix, iff_of_false nofun nonempty.symm⟩
  | crashed nonempty => exact ⟨List.nil_prefix, iff_of_false nofun nonempty.symm⟩

/-- Without a write there was nothing to write. -/
theorem of_nil (persists : Persists bytes outcome ([] : History Event)) :
    bytes = [] ∧ outcome = .gave () := by
  cases persists with
  | done => exact ⟨rfl, rfl⟩

theorem eq_of_singleton_eq {first entry : Entry Event} {before after : History Event}
    (split : [first] = before ++ entry :: after) : before = [] ∧ entry = first ∧ after = [] := by
  cases before with
  | nil =>
    cases split
    exact ⟨rfl, rfl, rfl⟩
  | cons other others => cases others <;> cases split

/-- Every write offers what is not accepted yet, and its answer decides how it goes on. -/
theorem each (persists : Persists bytes outcome history) {before after : History Event}
    {entry : Entry Event} (split : history = before ++ entry :: after) :
    before.accepted.length < bytes.length ∧
      ∃ reply elapsed, entry = .write (bytes.drop before.accepted.length) reply elapsed ∧
        reply.Decides outcome after := by
  induction persists generalizing before with
  | done => cases before <;> cases split
  | @piece bytes count elapsed outcome history fits rest inductionHypothesis =>
    cases before with
    | nil =>
      cases split
      refine ⟨Nat.lt_of_lt_of_le (Nat.succ_pos count) fits, _, elapsed, rfl, fun last => ?_⟩
      subst last
      exact rest.of_nil.2
    | cons first others =>
      cases split
      obtain ⟨shorter, reply, later, same, decides⟩ := @inductionHypothesis others rfl
      have length : (History.accepted (.write bytes (.gave (count + 1)) elapsed :: others)).length =
          count + 1 + (History.accepted others).length := by
        rw [History.accepted_cons, List.length_append]
        exact congrArg (· + _) (List.length_take_of_le fits)
      rw [List.length_drop] at shorter
      rw [List.drop_drop] at same
      rw [length]
      exact ⟨by omega, reply, later, same, decides⟩
  | @interrupted bytes fault elapsed outcome history nonempty again rest inductionHypothesis =>
    cases before with
    | nil =>
      cases split
      refine ⟨List.length_pos_iff.2 nonempty, _, elapsed, rfl, ?_⟩
      simp only [Reply.Decides, again, if_true]
      rintro rfl
      exact nonempty rest.of_nil.1
    | cons first others =>
      cases split
      exact @inductionHypothesis others rfl
  | refused nonempty =>
    obtain ⟨rfl, rfl, rfl⟩ := eq_of_singleton_eq split
    exact ⟨List.length_pos_iff.2 nonempty, _, _, rfl, rfl, rfl⟩
  | failed nonempty fatal =>
    obtain ⟨rfl, rfl, rfl⟩ := eq_of_singleton_eq split
    refine ⟨List.length_pos_iff.2 nonempty, _, _, rfl, ?_⟩
    exact (if_neg fatal).mpr ⟨rfl, rfl⟩
  | crashed nonempty =>
    obtain ⟨rfl, rfl, rfl⟩ := eq_of_singleton_eq split
    exact ⟨List.length_pos_iff.2 nonempty, _, _, rfl, rfl, rfl⟩

end Persists

/-! ### Calls on a connection -/

namespace Call

/-- The data that a call hands to its link. -/
def data : Call → Bytes
  | write bytes => bytes
  | writeAll bytes => bytes
  | _ => []

/-- What a call on a connection of some name comes to, when the link accepts some bytes in it. -/
structure ComesTo {Event : Type} (name : String) (call : Call) (taken : Bytes)
    (record : CallRecord Event) : Prop where
  /-- A single write is one write of the link, whose answer is handed on. -/
  write : ∀ bytes, call = .write bytes →
    ∃ reply elapsed, record.history = [.write bytes reply elapsed] ∧
      record.answer = reply.map .count ∧ (∀ count, reply = .gave count → taken.length = count) ∧
      ((∀ count, reply ≠ .gave count) → taken = [])
  /-- Writing all is done exactly if all is accepted. Every write offers what is not accepted yet,
  and its answer decides how it goes on. Only where there is no data there is no write. -/
  writeAll : ∀ bytes, call = .writeAll bytes →
    ∃ outcome, record.answer = outcome.map (fun _ => .done) ∧
      (record.answer = .gave .done ↔ taken = bytes) ∧ (record.history = [] → bytes = []) ∧
      ∀ (before : History Event) entry after, record.history = before ++ entry :: after →
        before.accepted.length < bytes.length ∧
          ∃ reply elapsed, entry = .write (bytes.drop before.accepted.length) reply elapsed ∧
            reply.Decides outcome after
  /-- A flush is one flush of the link, whose answer is handed on. -/
  flush : call = .flush →
    ∃ reply, record.history = [.flush reply] ∧ record.answer = reply.map (fun _ => .done)
  name : call = .name → record.history = [] ∧ record.answer = .gave (.name name)

end Call

section Connections

variable {π : Type} [Port π] {Event : Type} (observer : Observer)

/-- Of what a write offers, the port accepts a first part, and it says how long that is. -/
theorem accepted_of_write (Event : Type) {port next : π} {offered : Bytes} {reply : Reply Nat}
    (answer : Port.write port offered = (next, reply)) (elapsed : Nat) :
    let taken := History.accepted [(.write offered reply elapsed : Entry Event)]
    taken <+: offered ∧ (∀ count, reply = .gave count → taken.length = count) ∧
      ((∀ count, reply ≠ .gave count) → taken = []) := by
  intro taken
  have same : taken = (Entry.write offered reply elapsed : Entry Event).accepted :=
    List.append_nil _
  rw [same]
  cases reply with
  | gave count =>
    have fits : count ≤ offered.length := Port.accepted_le (congrArg Prod.snd answer)
    refine ⟨List.take_prefix count offered, fun other given => ?_,
      fun none => absurd rfl (none count)⟩
    cases given
    exact List.length_take_of_le fits
  | failed fault => exact ⟨List.nil_prefix, nofun, fun _ => rfl⟩
  | crashed => exact ⟨List.nil_prefix, nofun, fun _ => rfl⟩

/-- One call is answered by the link, which accepts a first part of the data in it. -/
theorem Connection.perform_comesTo (Event : Type) (connection : Connection π) {call : Call}
    (uses : call ≠ .drop) :
    let done : Connection π × CallRecord Event := connection.perform observer call
    Port.Answers connection.port done.2.history done.1.port ∧ done.1.name = connection.name ∧
      done.2.history.accepted <+: call.data ∧
      call.ComesTo connection.name done.2.history.accepted done.2 := by
  intro done
  cases call with
  | write bytes =>
    generalize answer : Port.write connection bytes = result
    obtain ⟨next, reply⟩ := result
    let entry : Entry Event := .write bytes reply (Port.since next (Port.clock connection))
    have course : done = (next, ⟨reply.map .count, [entry]⟩) := by
      simp only [done, perform, answer]
      cases reply <;> rfl
    have asked : Port.Answers connection [entry] next := .write _ answer (.nil next)
    obtain ⟨answers, name⟩ := asked.ofConnection
    obtain ⟨started, long, nothing⟩ := accepted_of_write Event answer (Port.since next _)
    rw [course]
    refine ⟨answers, name, started, ⟨?_, by rintro _ ⟨⟩, by rintro ⟨⟩, by rintro ⟨⟩⟩⟩
    intro _ same
    cases same
    exact ⟨reply, _, rfl, rfl, long, nothing⟩
  | writeAll bytes =>
    let writing : Writing (Connection π) Event :=
      Port.writeAll (Port.clock connection) connection bytes
    obtain ⟨persists, answers⟩ :=
      Port.writeAll_persists Event (Port.clock connection) connection bytes
    have course : done = (writing.port, ⟨writing.outcome.map fun _ => .done, writing.history⟩) := by
      simp only [done, perform, writing]
      cases Port.writeAll (Port.clock connection) connection bytes with
      | mk next outcome history => cases outcome <;> rfl
    have finished : writing.outcome.map (fun _ => CallValue.done) = .gave .done ↔
        writing.outcome = .gave () := by
      cases writing.outcome <;> simp [Reply.map]
    obtain ⟨linkAnswers, name⟩ := answers.ofConnection
    rw [course]
    refine ⟨linkAnswers, name, persists.accepted.1,
      ⟨by rintro _ ⟨⟩, ?_, by rintro ⟨⟩, by rintro ⟨⟩⟩⟩
    intro _ same
    cases same
    refine ⟨writing.outcome, rfl, finished.trans persists.accepted.2, fun silent => ?_,
      fun _ _ _ => persists.each⟩
    rw [show writing.history = [] from silent] at persists
    exact persists.of_nil.1
  | flush =>
    generalize answer : Port.flush connection = result
    obtain ⟨next, reply⟩ := result
    have course : done = (next, ⟨reply.map fun _ => .done, [.flush reply]⟩) := by
      simp only [done, perform, answer]
      cases reply <;> rfl
    have asked : Port.Answers connection [(.flush reply : Entry Event)] next :=
      .flush answer (.nil next)
    obtain ⟨answers, name⟩ := asked.ofConnection
    rw [course]
    exact ⟨answers, name, List.nil_prefix,
      ⟨by rintro _ ⟨⟩, by rintro _ ⟨⟩, fun _ => ⟨reply, rfl, rfl⟩, by rintro ⟨⟩⟩⟩
  | name =>
    exact ⟨.nil _, rfl, List.nil_prefix,
      ⟨by rintro _ ⟨⟩, by rintro _ ⟨⟩, by rintro ⟨⟩, fun _ => ⟨rfl, rfl⟩⟩⟩
  | drop => exact absurd rfl uses

/-- The bytes that a link has accepted in some calls. -/
def acceptedIn (records : List (CallRecord Event)) : Bytes :=
  History.accepted (records.flatMap CallRecord.history)

theorem acceptedIn_concat (records : List (CallRecord Event)) (record : CallRecord Event) :
    acceptedIn (records ++ [record]) = acceptedIn records ++ record.history.accepted := by
  unfold acceptedIn
  rw [List.flatMap_append, History.accepted_append, List.flatMap_singleton]

theorem Connection.length_performAll (connection : Connection π) {calls : List Call}
    (held : .drop ∉ calls) :
    (connection.performAll observer calls : List (CallRecord Event) × History Event).1.length =
      calls.length := by
  induction calls generalizing connection with
  | nil => rfl
  | cons call rest inductionHypothesis =>
    obtain ⟨uses, heldRest⟩ := List.ne_and_not_mem_of_not_mem_cons held
    rw [performAll_cons observer connection uses.symm]
    exact congrArg (· + 1) (inductionHypothesis _ heldRest)

/-- The calls before a call lead to the connection on which it is made. -/
theorem Connection.performAll_at (connection : Connection π) (before : List Call) (call : Call)
    (after : List Call) (held : .drop ∉ before ++ call :: after) :
    ∃ (earlier later : List (CallRecord Event)) (here : Connection π),
      (connection.performAll observer (before ++ call :: after)).1 =
        earlier ++ (here.perform observer call).2 :: later ∧
      earlier.length = before.length ∧ later.length = after.length ∧
      here.name = connection.name ∧
      Port.Answers connection.port (earlier.flatMap CallRecord.history) here.port := by
  induction before generalizing connection with
  | nil =>
    obtain ⟨uses, heldAfter⟩ := List.ne_and_not_mem_of_not_mem_cons held
    let done : Connection π × CallRecord Event := connection.perform observer call
    let next : Connection π := done.1
    refine ⟨[], (next.performAll observer after).1, connection, ?_, rfl, ?_, rfl, .nil _⟩
    · exact congrArg Prod.fst (connection.performAll_cons observer uses.symm after)
    · exact next.length_performAll observer heldAfter
  | cons first rest inductionHypothesis =>
    obtain ⟨uses, heldRest⟩ := List.ne_and_not_mem_of_not_mem_cons held
    let done : Connection π × CallRecord Event := connection.perform observer first
    obtain ⟨answers, name, _⟩ := connection.perform_comesTo observer Event uses.symm
    obtain ⟨earlier, later, here, course, countEarlier, countLater, sameName, led⟩ :=
      inductionHypothesis done.1 heldRest
    refine ⟨done.2 :: earlier, later, here, ?_, congrArg (· + 1) countEarlier, countLater,
      sameName.trans name, answers.append led⟩
    rw [List.cons_append, performAll_cons observer connection uses.symm]
    exact congrArg (done.2 :: ·) course

end Connections

/-! ### All calls on a connection -/

/-- Take any calls on a connection that do not let it go, and one of them. The calls before it have
led the link to a state, from which it answers this one. During the call it accepts a first part of
the data of the call, which follows on all that it has accepted before; and the answer of the call
is told by the answers of the link. -/
theorem performAll_accounts {π Event : Type} [Port π] (observer : Observer)
    (connection : Connection π) (before : List Call) (call : Call) (after : List Call)
    (held : .drop ∉ before ++ call :: after) :
    ∃ (earlier later : List (CallRecord Event)) (record : CallRecord Event) (here next : π)
      (taken : Bytes),
      (connection.performAll observer (before ++ call :: after)).1 = earlier ++ record :: later ∧
      earlier.length = before.length ∧ later.length = after.length ∧
      Port.Answers connection.port (earlier.flatMap CallRecord.history) here ∧
      Port.Answers here record.history next ∧
      acceptedIn (earlier ++ [record]) = acceptedIn earlier ++ taken ∧ taken <+: call.data ∧
      call.ComesTo connection.name taken record := by
  have uses : call ≠ .drop := fun drops => held (by simp [drops])
  obtain ⟨earlier, later, here, course, countEarlier, countLater, name, led⟩ :=
    @Connection.performAll_at π _ Event observer connection before call after held
  obtain ⟨answers, _, started, comesTo⟩ := here.perform_comesTo observer Event uses
  rw [name] at comesTo
  exact ⟨earlier, later, _, here.port, _, _, course, countEarlier, countLater, led, answers,
    acceptedIn_concat _ _, started, comesTo⟩

/-- A link that takes two bytes, is interrupted, takes one byte and is late. A single write hands on
that two bytes were taken; writing all behind it tries again once, and then fails with one byte. -/
theorem performAll_accounts_late :
    let late : Fault := ⟨.timedOut, "timed out"⟩
    let link : Link :=
      { writes := [.upTo 2, .fail ⟨.interrupted, "operation interrupted"⟩, .upTo 1, .fail late] }
    let calls : List Call := [.write [1, 2, 3], .writeAll [4, 5, 6], .flush]
    let records : List (CallRecord Empty) := (Connection.performAll {} ⟨"mem0", link⟩ calls).1
    .drop ∉ calls ∧ acceptedIn records = [1, 2, 4] ∧
      ∃ record ∈ records, record.answer = .failed late ∧
        (Call.writeAll [4, 5, 6]).ComesTo "mem0" [4] record := by
  intro late link calls records
  have held : .drop ∉ calls := by decide
  have computed : records = [⟨.gave (.count 2), [.write [1, 2, 3] (.gave 2) 0]⟩,
      ⟨.failed late, [.write [4, 5, 6] (.failed ⟨.interrupted, "operation interrupted"⟩) 0,
        .write [4, 5, 6] (.gave 1) 0, .write [5, 6] (.failed late) 0]⟩,
      ⟨.gave .done, [.flush (.gave ())]⟩] := by
    subst records calls link late
    cbv
  obtain ⟨earlier, later, record, _, _, taken, course, countEarlier, countLater, _, _, grows, _,
    comesTo⟩ := @performAll_accounts Link Empty _ {} ⟨"mem0", link⟩
      [.write [1, 2, 3]] (.writeAll [4, 5, 6]) [.flush] held
  obtain ⟨first, rfl⟩ := List.length_eq_one_iff.1 countEarlier
  cases computed.symm.trans course
  have grown : [1, 2, 4] = [1, 2] ++ taken := grows
  cases grown
  rw [computed]
  exact ⟨held, rfl, _, List.mem_cons_of_mem _ List.mem_cons_self, rfl, comesTo⟩

end SerialFeed
