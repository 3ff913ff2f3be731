/-
This file shows that a command line that was understood names everything that sending needs, unless
it asks for the list of ports. While the texts of a command line are taken, every positional value
that counts as used has been taken over, and the list flag is used only where the list is asked for.
Each way of taking a text keeps this, so it holds at the end, where the missing values are counted.
-/

import SerialFeed.Proofs.Taking

namespace SerialFeed.CommandLine

/-! ### Positional values -/

namespace Arguments

variable {arguments next : Arguments}

/-- The value that was given at a position. -/
def valueAt? (arguments : Arguments) : Positional → Option String
  | .serialPort => arguments.serialPort
  | .baudRate => arguments.baudRate
  | .blockSize => arguments.blockSize

theorem valueAt?_withPositional (arguments : Arguments) (value : String)
    (position other : Positional) :
    (arguments.withPositional value position).valueAt? other =
      if other = position then some value else arguments.valueAt? other := by
  cases position <;> cases other <;> rfl

theorem list_withPositional (arguments : Arguments) (value : String) (position : Positional) :
    (arguments.withPositional value position).list = arguments.list := by
  cases position <;> rfl

/-- The value of an option takes nothing away from the others. -/
theorem withSetting_keeps {value : String} {option : Setting}
    (taken : arguments.withSetting value option = .ok next) :
    next.valueAt? = arguments.valueAt? ∧ next.list = arguments.list := by
  cases option with
  | config =>
    simp only [withSetting] at taken
    split at taken
    · cases taken
    · cases taken
      exact ⟨funext fun position => by cases position <;> rfl, rfl⟩
  | settle =>
    simp only [withSetting] at taken
    split at taken
    · cases taken
    · cases taken
      exact ⟨funext fun position => by cases position <;> rfl, rfl⟩

theorem positional?_of_some {port baud block : String}
    (isPort : arguments.valueAt? .serialPort = some port)
    (isBaud : arguments.valueAt? .baudRate = some baud)
    (isBlock : arguments.valueAt? .blockSize = some block) :
    arguments.positional? = some (port, baud, block) := by
  unfold positional?
  rw [show arguments.serialPort = _ from isPort, show arguments.baudRate = _ from isBaud,
    show arguments.blockSize = _ from isBlock]
  rfl

theorem exists_positional? (given : ∀ position, (arguments.valueAt? position).isSome) :
    ∃ port baud block, arguments.positional? = some (port, baud, block) := by
  obtain ⟨port, isPort⟩ := Option.isSome_iff_exists.1 (given .serialPort)
  obtain ⟨baud, isBaud⟩ := Option.isSome_iff_exists.1 (given .baudRate)
  obtain ⟨block, isBlock⟩ := Option.isSome_iff_exists.1 (given .blockSize)
  exact ⟨port, baud, block, positional?_of_some isPort isBaud isBlock⟩

end Arguments

/-! ### What the used arguments say of the values -/

/-- Whether the values bear out the arguments that are used. -/
structure BearsOut (values : Arguments) (used : List Argument) : Prop where
  positional : ∀ position, .positional position ∈ used → (values.valueAt? position).isSome
  list : .flag .list ∈ used → values.list = true

namespace BearsOut

variable {values next : Arguments} {used fewer : List Argument}

/-- Values that take nothing away bear out what the values before did. -/
theorem mono (bearsOut : BearsOut values used) (subset : fewer ⊆ used)
    (kept : ∀ position, (values.valueAt? position).isSome → (next.valueAt? position).isSome)
    (keptList : values.list = true → next.list = true) : BearsOut next fewer :=
  ⟨fun position member => kept position (bearsOut.positional position (subset member)),
    fun member => keptList (bearsOut.list (subset member))⟩

theorem concat (bearsOut : BearsOut values used) {argument : Argument}
    (last : BearsOut values [argument]) : BearsOut values (used ++ [argument]) :=
  ⟨fun position member => (List.mem_append.1 member).elim (bearsOut.positional position)
      (last.positional position),
    fun member => (List.mem_append.1 member).elim bearsOut.list last.list⟩

theorem withPositional (bearsOut : BearsOut values used) (value : String)
    (position : Positional) :
    BearsOut (values.withPositional value position) (used ++ [.positional position]) := by
  have given : ∀ other, other = position ∨ (values.valueAt? other).isSome →
      ((values.withPositional value position).valueAt? other).isSome := by
    intro other known
    rw [values.valueAt?_withPositional]
    split
    · rfl
    · rename_i different
      exact known.resolve_left different
  refine (bearsOut.mono (List.Subset.refl used) (fun other known => given other (.inr known))
    fun list => (values.list_withPositional value position).trans list).concat ⟨?_, by simp⟩
  exact fun other member => given other (.inl (by simpa using member))

theorem withSetting (bearsOut : BearsOut values used) {value : String} {option : Setting}
    (taken : values.withSetting value option = .ok next) :
    BearsOut next (used ++ [.setting option]) := by
  obtain ⟨sameValues, sameList⟩ := Arguments.withSetting_keeps taken
  refine (bearsOut.mono (List.Subset.refl used) (fun other known => ?_) fun list => ?_).concat
    ⟨by simp, by simp⟩
  · rw [sameValues]
    exact known
  · rw [sameList]
    exact list

theorem withList (bearsOut : BearsOut values used) :
    BearsOut { values with list := true } (used ++ [.flag .list]) := by
  refine (bearsOut.mono (List.Subset.refl used) (fun other known => ?_) fun _ => rfl).concat
    ⟨by simp, fun _ => rfl⟩
  cases other <;> exact known

theorem withVerbose (bearsOut : BearsOut values used) (verbose : Nat) :
    BearsOut { values with verbose } (used.erase (.flag .verbose) ++ [.flag .verbose]) := by
  have kept : BearsOut { values with verbose } (used.erase (.flag .verbose)) :=
    bearsOut.mono List.erase_subset (fun other known => by cases other <;> exact known) id
  exact kept.concat ⟨by simp, by simp⟩

end BearsOut

namespace State

/-- Whether the values of a state bear out its used arguments. -/
def Sound (state : State) : Prop :=
  BearsOut state.values state.used

variable {state next : State}

theorem sound_start : Sound {} where
  positional _ member := nomatch member
  list member := nomatch member

/-- No move lets an argument count as used without its value. -/
theorem Moves.sound {told : List Told} (move : Moves state told next) (sound : state.Sound) :
    next.Sound := by
  cases move with
  | place held => exact BearsOut.withPositional sound _ _
  | adopt held fresh taken => exact BearsOut.withSetting sound taken
  | list clear fresh => exact BearsOut.withList sound
  | verbose clear => exact BearsOut.withVerbose sound _
  | hold option value clear => exact sound
  | supply option value waiting => exact sound
  | word text clear isFree => exact sound
  | escape => exact sound

theorem Leads.sound {told : List Told} (leads : Leads state told next) (sound : state.Sound) :
    next.Sound := by
  induction leads with
  | refl => exact sound
  | cons move rest inductionHypothesis => exact inductionHypothesis (move.sound sound)

/-! ### The end of a command line -/

/-- Where nothing is missing and the list is not asked for, every positional value is used. -/
theorem used_of_complete (complete : state.missing? = none)
    (unasked : .flag .list ∉ state.used) (position : Positional) :
    .positional position ∈ state.used := by
  have noList : state.used.contains (.flag .list) = false :=
    Bool.eq_false_iff.2 fun used => unasked (List.contains_iff_mem.1 used)
  unfold missing? at complete
  dsimp only at complete
  split at complete
  · rename_i nothing
    rw [noList, Bool.false_or, List.isEmpty_iff, List.filter_eq_nil_iff] at nothing
    have used := nothing position (by cases position <;> decide)
    rw [Bool.not_eq_true', Bool.not_eq_false] at used
    exact List.contains_iff_mem.1 used
  · cases complete

/-- Where no value is missing, each of them was given, unless the list was asked for. -/
theorem Sound.given (sound : state.Sound) (complete : state.missing? = none)
    (plain : state.values.list = false) (position : Positional) :
    (state.values.valueAt? position).isSome := by
  refine sound.positional position (used_of_complete complete (fun asked => ?_) position)
  exact Bool.false_ne_true (plain.symm.trans (sound.list asked))

end State

/-- A command line that was understood and does not ask for the list of ports names a port, a speed
and a block size. -/
theorem exists_positional?_of_ofTexts {texts : List String} {arguments : Arguments}
    (understood : Arguments.ofTexts texts = .ok arguments) (plain : arguments.list = false) :
    ∃ port baud block, arguments.positional? = some (port, baud, block) := by
  refine Arguments.exists_positional? fun position => ?_
  obtain ⟨last, leads, _, _, complete, rfl⟩ := State.leads_ofTexts understood
  exact (leads.sound State.sound_start).given complete plain position

end SerialFeed.CommandLine
