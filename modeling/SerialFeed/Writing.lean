/-
This file holds what a writer gets back from a port that may take some bytes only, and the plain
writer: it goes on until every byte is accepted, and tries again only after an interruption.
-/

import SerialFeed.Device

namespace SerialFeed

/-- What became of some bytes that were to be written to a port. -/
structure Writing (π Event : Type) where
  port : π
  outcome : Reply Unit
  history : History Event

namespace Writing

variable {π Event : Type}

/-- The writing that begins with one more entry. -/
def after (entry : Entry Event) (writing : Writing π Event) : Writing π Event :=
  { writing with history := entry :: writing.history }

end Writing

/-- The failure of a writer whose port accepts nothing, although all bytes have to go. -/
def incompleteWrite : Fault :=
  ⟨.writeZero, "failed to write whole buffer"⟩

/-- The time that a port has taken since some moment. -/
def Port.since {π : Type} [Port π] (port : π) (moment : Nat) : Nat :=
  Port.clock port - moment

/-- Writes until all bytes are accepted. An interrupted write is tried again; a port that accepts
nothing, and any other failure, ends the writing. -/
def Port.writeAll {π Event : Type} [Port π] (started : Nat) (port : π) (bytes : Bytes) :
    Writing π Event :=
  if bytes = [] then ⟨port, .gave (), []⟩
  else
    match answer : Port.write port bytes with
    | (next, .gave 0) =>
      ⟨next, .failed incompleteWrite, [.write bytes (.gave 0) (Port.since next started)]⟩
    | (next, .gave (count + 1)) =>
      (Port.writeAll started next (bytes.drop (count + 1))).after
        (.write bytes (.gave (count + 1)) (Port.since next started))
    | (next, .failed fault) =>
      if fault.kind = .interrupted then
        (Port.writeAll started next bytes).after
          (.write bytes (.failed fault) (Port.since next started))
      else ⟨next, .failed fault, [.write bytes (.failed fault) (Port.since next started)]⟩
    | (next, .crashed) => ⟨next, .crashed, [.write bytes .crashed (Port.since next started)]⟩
termination_by (bytes.length, Port.patience port)
decreasing_by
  · rename_i nonempty
    have := List.length_pos_iff.2 nonempty
    simp only [Prod.lex_def, List.length_drop]
    omega
  · have fewer := Port.patience_lt (congrArg Prod.snd answer)
    rw [answer] at fewer
    exact Prod.Lex.right _ fewer

/-- Writing everything begins with one write, and the answer says how it goes on. -/
theorem Port.writeAll_eq {π Event : Type} [Port π] (started : Nat) (port : π) {bytes : Bytes}
    (nonempty : bytes ≠ []) :
    (Port.writeAll started port bytes : Writing π Event) =
      match Port.write port bytes with
      | (next, .gave 0) =>
        ⟨next, .failed incompleteWrite, [.write bytes (.gave 0) (Port.since next started)]⟩
      | (next, .gave (count + 1)) =>
        (Port.writeAll started next (bytes.drop (count + 1))).after
          (.write bytes (.gave (count + 1)) (Port.since next started))
      | (next, .failed fault) =>
        if fault.kind = .interrupted then
          (Port.writeAll started next bytes).after
            (.write bytes (.failed fault) (Port.since next started))
        else ⟨next, .failed fault, [.write bytes (.failed fault) (Port.since next started)]⟩
      | (next, .crashed) =>
        ⟨next, .crashed, [.write bytes .crashed (Port.since next started)]⟩ := by
  rw [Port.writeAll, if_neg nonempty]
  split <;> rename_i answer <;> simp only [answer]

end SerialFeed
