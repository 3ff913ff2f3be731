/-
This file shows that the positional values are there whenever they are needed. Along the moves of a
command line the values known so far, with the one that is held back, are the positional values that
were told, in order and unaltered. At the end either the list of ports is asked for and no value was
told, or exactly three were told. So no run fails because a value is not given.
-/

import Mathlib.Data.List.Basic
import SerialFeed.CommandLine.Outcome
import SerialFeed.Proofs.Positionals

namespace SerialFeed.CommandLine

/-! ### Places -/

namespace Positional

/-- How many positional values stand in front of one. -/
def place : Positional → Nat
  | serialPort => 0
  | baudRate => 1
  | blockSize => 2

theorem place_inj {position other : Positional} (same : position.place = other.place) :
    position = other := by
  cases position <;> cases other <;> first | rfl | cases same

/-- The value that comes next is the one in whose front all others have been taken. -/
theorem place_of_drop {count : Nat} {position : Positional} {free : List Positional}
    (next : all.drop count = position :: free) :
    count = position.place ∧ free = all.drop (count + 1) := by
  match count with
  | 0 | 1 | 2 =>
    cases next
    exact ⟨rfl, rfl⟩
  | more + 3 =>
    rw [List.drop_eq_nil_of_le (Nat.le_add_left 3 more)] at next
    cases next

end Positional

/-! ### The values in sight -/

/-- Whether only used arguments have left something in the values. -/
structure Counted (values : Arguments) (used : List Argument) : Prop where
  positional : ∀ position, (values.valueAt? position).isSome → .positional position ∈ used
  list : values.list = true → .flag .list ∈ used

namespace State

variable {state next : State} {told : List Told} {given : List String}

/-- The values known so far, with the positional value that is held back. -/
def inSight (state : State) : Arguments :=
  match state.pending with
  | some (.positional position value) => state.values.withPositional value position
  | _ => state.values

theorem inSight_of_clear (clear : state.pending = none) : state.inSight = state.values := by
  unfold inSight
  rw [clear]

theorem inSight_of_setting {option : Setting} {value : Option String}
    (held : state.pending = some (.setting option value)) : state.inSight = state.values := by
  unfold inSight
  rw [held]

/-- Whether the values in sight are the positional values given so far, in order. -/
structure Knows (state : State) (given : List String) : Prop where
  free : state.free = Positional.all.drop given.length
  few : given.length ≤ Positional.all.length
  value : ∀ position, state.inSight.valueAt? position = given[position.place]?

theorem knows_start : Knows {} [] where
  free := rfl
  few := Nat.zero_le _
  value position := by cases position <;> rfl

/-- A state knows no more than one with the same values in sight. -/
theorem Knows.of_same (knows : state.Knows given) (sameFree : next.free = state.free)
    (same : next.inSight.valueAt? = state.inSight.valueAt?) : next.Knows (given ++ []) := by
  rw [List.append_nil]
  exact ⟨sameFree.trans knows.free, knows.few,
    fun position => (congrFun same position).trans (knows.value position)⟩

theorem Knows.word (knows : state.Knows given) {position : Positional} {free : List Positional}
    (text : String) (clear : state.pending = none) (isFree : state.free = position :: free) :
    Knows { state with pending := some (.positional position text), free } (given ++ [text]) := by
  obtain ⟨taken, left⟩ := Positional.place_of_drop (knows.free.symm.trans isFree)
  refine ⟨?_, ?_, fun other => ?_⟩
  · rw [List.length_append]
    exact left
  · have last : position.place < Positional.all.length := by cases position <;> decide
    rw [List.length_append, taken]
    exact last
  · have before := knows.value other
    rw [inSight_of_clear clear] at before
    show (state.values.withPositional text position).valueAt? other = _
    rw [Arguments.valueAt?_withPositional, before]
    split
    · rename_i same
      rw [same, ← taken, List.getElem?_concat_length]
    · rename_i different
      have apart : other.place ≠ given.length := fun same =>
        different (Positional.place_inj (same.trans taken))
      rcases Nat.lt_or_gt_of_ne apart with inside | beyond
      · rw [List.getElem?_append_left inside]
      · rw [List.getElem?_eq_none (Nat.le_of_lt beyond), List.getElem?_eq_none]
        rw [List.length_append]
        exact beyond

/-- Every move adds to the values in sight what it tells. -/
theorem Moves.knows (move : Moves state told next) (knows : state.Knows given) :
    next.Knows (given ++ Told.values told) := by
  cases move with
  | word text clear isFree => exact knows.word text clear isFree
  | place held =>
    refine knows.of_same rfl ?_
    unfold inSight
    rw [held]
  | adopt held fresh taken =>
    refine knows.of_same rfl ?_
    rw [inSight_of_setting held]
    exact (Arguments.withSetting_keeps taken).1
  | list clear fresh =>
    refine knows.of_same rfl ?_
    rw [inSight_of_clear clear, inSight_of_clear]
    · funext position
      cases position <;> rfl
    · exact clear
  | verbose clear =>
    refine knows.of_same rfl ?_
    rw [inSight_of_clear clear, inSight_of_clear]
    · funext position
      cases position <;> rfl
    · exact clear
  | hold option value clear =>
    refine knows.of_same rfl ?_
    rw [inSight_of_clear clear]
    rfl
  | supply option value waiting =>
    refine knows.of_same rfl ?_
    rw [inSight_of_setting waiting]
    rfl
  | escape => exact knows.of_same rfl rfl

theorem Leads.knows (leads : Leads state told next) (knows : state.Knows given) :
    next.Knows (given ++ Told.values told) := by
  induction leads generalizing given with
  | refl => exact (List.append_nil given).symm ▸ knows
  | cons move rest inductionHypothesis =>
    rw [Told.values_append, ← List.append_assoc]
    exact inductionHypothesis (move.knows knows)

/-- Every move counts what it leaves in the values. -/
theorem Moves.counted (move : Moves state told next)
    (counted : Counted state.values state.used) : Counted next.values next.used := by
  cases move with
  | place held =>
    refine ⟨fun other isGiven => ?_, fun asks => ?_⟩
    · rw [Arguments.valueAt?_withPositional] at isGiven
      split at isGiven
      · rename_i same
        exact List.mem_append_right _ (List.mem_singleton.2 (congrArg _ same))
      · exact List.mem_append_left _ (counted.positional other isGiven)
    · rw [Arguments.list_withPositional] at asks
      exact List.mem_append_left _ (counted.list asks)
  | adopt held fresh taken =>
    obtain ⟨sameValues, sameList⟩ := Arguments.withSetting_keeps taken
    refine ⟨fun other isGiven => ?_, fun asks => ?_⟩
    · rw [sameValues] at isGiven
      exact List.mem_append_left _ (counted.positional other isGiven)
    · rw [sameList] at asks
      exact List.mem_append_left _ (counted.list asks)
  | list clear fresh =>
    refine ⟨fun other isGiven => ?_, fun _ => List.mem_append_right _ (List.mem_singleton.2 rfl)⟩
    refine List.mem_append_left _ (counted.positional other ?_)
    cases other <;> exact isGiven
  | verbose clear =>
    have kept : ∀ argument ∈ state.used, argument ≠ .flag .verbose →
        argument ∈ state.used.erase (.flag .verbose) ++ [.flag .verbose] :=
      fun argument member other =>
        List.mem_append_left _ ((List.mem_erase_of_ne other).2 member)
    refine ⟨fun other isGiven => kept _ (counted.positional other ?_) (by simp),
      fun asks => kept _ (counted.list asks) (by simp)⟩
    cases other <;> exact isGiven
  | hold option value clear => exact counted
  | supply option value waiting => exact counted
  | word text clear isFree => exact counted
  | escape => exact counted

theorem Leads.counted (leads : Leads state told next)
    (counted : Counted state.values state.used) : Counted next.values next.used := by
  induction leads with
  | refl => exact counted
  | cons move rest inductionHypothesis => exact inductionHypothesis (move.counted counted)

/-- The list is asked for exactly where that is told. -/
theorem Moves.list_iff (move : Moves state told next) :
    next.values.list = true ↔ state.values.list = true ∨ .list ∈ told := by
  cases move with
  | place held => simp [Arguments.list_withPositional]
  | adopt held fresh taken => simp [(Arguments.withSetting_keeps taken).2]
  | list clear fresh => simp
  | word text clear isFree => simp
  | _ => simp

theorem Leads.list_iff (leads : Leads state told next) :
    next.values.list = true ↔ state.values.list = true ∨ .list ∈ told := by
  induction leads with
  | refl => simp
  | cons move rest inductionHypothesis =>
    rw [inductionHypothesis, move.list_iff, List.mem_append, or_assoc]

/-- Where nothing conflicts, no positional value is used beside the list flag. -/
theorem unused_of_clear (clear : state.conflict? = none) (asked : .flag .list ∈ state.used)
    (position : Positional) : .positional position ∉ state.used := by
  intro used
  unfold conflict? at clear
  dsimp only at clear
  split at clear
  · rename_i excluded
    rw [Bool.or_eq_true, Bool.not_eq_true', ← Bool.not_eq_true, List.contains_iff_mem,
      List.isEmpty_iff, usedPositionals, List.filter_eq_nil_iff] at excluded
    exact excluded.elim (fun unasked => unasked asked) fun none => none _ used rfl
  · split at clear
    · cases clear
    · cases clear
    · rename_i missed
      have missedList := List.find?_eq_none.1 missed _ asked
      simp at missedList

/-- A state that knows what was given has a value at each place where one was given. -/
theorem Knows.used_iff (knows : state.Knows given) (clear : state.pending = none)
    (sound : state.Sound) (counted : Counted state.values state.used) (position : Positional) :
    .positional position ∈ state.used ↔ position.place < given.length := by
  have known := knows.value position
  rw [inSight_of_clear clear] at known
  rw [← Nat.not_le, ← List.getElem?_eq_none_iff, ← known, ← ne_eq, ← Option.isSome_iff_ne_none]
  exact ⟨sound.positional position, counted.positional position⟩

end State

/-! ### What is given -/

/-- The positional values among some texts. -/
def positionalsOf (texts : List String) : List String :=
  Told.values (told 0 false texts)

example : positionalsOf ["-v", "--config", "a", "ttyUSB0", "-9", "--settle-ms=1", "--", "-v"] =
    ["ttyUSB0", "-9", "-v"] := by decide

/-- Whether the list of ports is asked for, in front of the two hyphens that end all options. -/
def asksForList (texts : List String) : Prop :=
  "--list" ∈ texts.takeWhile fun text => text != "--"

theorem Shape.ofText_eq_escape {text : List Char} :
    Shape.ofText text = .escape ↔ text = "--".toList := by
  refine ⟨fun isEscape => ?_, fun same => same ▸ rfl⟩
  unfold Shape.ofText at isEscape
  split at isEscape
  · rfl
  · split at isEscape <;> cases isEscape
  · cases isEscape
  · cases isEscape

theorem Shape.ofText_eq_list {text : List Char} :
    Shape.ofText text = .long "list".toList none ↔ text = "--list".toList := by
  refine ⟨fun isList => ?_, fun same => same ▸ rfl⟩
  unfold Shape.ofText at isList
  split at isList
  · cases isList
  · split at isList
    · injection isList with isName
      rw [isName]
      rfl
    · injection isList with _ isValue
      cases isValue
  · cases isList
  · cases isList

/-- A text that is neither the two hyphens nor the list flag asks for nothing. -/
theorem asksForList_cons {text : String} (rest : List String)
    (noEscape : Shape.ofText text.toList ≠ .escape)
    (noList : Shape.ofText text.toList ≠ .long "list".toList none) :
    asksForList (text :: rest) ↔ asksForList rest := by
  have otherThanEscape : text ≠ "--" :=
    fun same => noEscape (Shape.ofText_eq_escape.2 (congrArg String.toList same))
  have otherThanList : text ≠ "--list" :=
    fun same => noList (Shape.ofText_eq_list.2 (congrArg String.toList same))
  unfold asksForList
  simp [otherThanEscape, otherThanList.symm]

/-- That the list is asked for is told by the text that says so. -/
theorem list_mem_told {taken : Nat} {waiting : Bool} {texts : List String} :
    .list ∈ told taken waiting texts ↔ asksForList texts := by
  induction texts generalizing taken waiting with
  | nil => simp [told, asksForList]
  | cons text rest inductionHypothesis =>
    have asValue : .list ∈ toldAsValue taken waiting text rest ↔ asksForList rest := by
      unfold toldAsValue
      cases waiting <;> simp [inductionHypothesis]
    cases shape : Shape.ofText text.toList with
    | escape =>
      rw [told_of_escape shape]
      have isEscape := String.toList_inj.1 (Shape.ofText_eq_escape.1 shape)
      simp [isEscape, asksForList]
    | long name value =>
      rw [told_of_long shape]
      split
      · rename_i asks
        rw [asks.1, asks.2] at shape
        have isList := String.toList_inj.1 (Shape.ofText_eq_list.1 shape)
        simp [isList, asksForList]
      · rename_i different
        rw [inductionHypothesis, asksForList_cons rest (by simp [shape])]
        intro isList
        rw [shape] at isList
        injection isList with isName isValue
        exact different ⟨isName, isValue⟩
    | short letters =>
      rw [told_of_short shape, asksForList_cons rest (by simp [shape]) (by simp [shape])]
      split
      · exact asValue
      · exact inductionHypothesis
    | word =>
      rw [told_of_word shape, asksForList_cons rest (by simp [shape]) (by simp [shape])]
      exact asValue

/-- An understood command line asks for the list and gives no positional value, or it does not ask
for it and gives three, and these are the values of its arguments. -/
theorem provision {texts : List String} {arguments : Arguments}
    (understood : Arguments.ofTexts texts = .ok arguments) :
    (arguments.list = true ↔ asksForList texts) ∧
      (asksForList texts ∧ positionalsOf texts = [] ∨
        ¬ asksForList texts ∧ (positionalsOf texts).length = 3) ∧
      ∀ position, arguments.valueAt? position = (positionalsOf texts)[position.place]? := by
  obtain ⟨last, leads, clear, apart, complete, rfl⟩ := State.leads_ofTexts understood
  have knows : last.Knows (positionalsOf texts) := leads.knows State.knows_start
  have sound := leads.sound State.sound_start
  have counted := leads.counted ⟨fun position => by cases position <;> exact nofun, nofun⟩
  have used := knows.used_iff clear sound counted
  have listed : last.values.list = true ↔ asksForList texts := by
    rw [leads.list_iff, list_mem_told]
    simp
  refine ⟨listed, ?_, fun position => ?_⟩
  · by_cases asked : .flag .list ∈ last.used
    · refine .inl ⟨listed.1 (sound.list asked), List.length_eq_zero_iff.1 ?_⟩
      have none := State.unused_of_clear apart asked .serialPort
      exact Nat.eq_zero_of_not_pos fun given => none ((used .serialPort).2 given)
    · refine .inr ⟨fun asks => asked (counted.list (listed.2 asks)), ?_⟩
      have third := (used .blockSize).1 (State.used_of_complete complete asked .blockSize)
      exact Nat.le_antisymm knows.few third
  · have known := knows.value position
    rwa [State.inSight_of_clear clear] at known

/-! ### A run -/

/-- With all positional values no run fails for lack of one. -/
theorem forward_ne_incomplete (observer : Observer) (host : Host) (input : Source)
    {arguments : Arguments} {port baud block : String}
    (given : arguments.positional? = some (port, baud, block)) :
    (forward observer host input arguments).conclusion ≠ .failed .incomplete := by
  have sends : ∀ config, (send observer host input config).conclusion ≠ .failed .incomplete := by
    intro config
    unfold send conclude
    dsimp only
    split <;> exact nofun
  unfold forward
  rw [given]
  dsimp only
  split
  · exact nofun
  · unfold configure
    split
    · exact nofun
    · unfold Outcome.after
      dsimp only
      split
      · exact nofun
      · split
        · exact sends _
        · exact sends _

/-- A run goes on without the list of ports only where all positional values are there. -/
theorem run_ne_incomplete (environment : Option Verbosity) (host : Host) (ports : List PortInfo)
    (input : Source) (texts : List String) :
    (run environment host ports input texts).conclusion ≠ .failed .incomplete := by
  unfold run
  split
  · exact nofun
  · exact nofun
  · exact nofun
  · rename_i arguments understood
    split
    · exact nofun
    · rename_i plain
      rw [Bool.not_eq_true] at plain
      obtain ⟨port, baud, block, given⟩ := exists_positional?_of_ofTexts understood plain
      exact forward_ne_incomplete _ host input given

/-- The positional values are there whenever they are needed. Take any texts of a command line. If
they are understood, the list of ports is asked for exactly if there are not all three positional
values; then there is none of them, and none was given, and otherwise exactly three were given,
which are the values in order and unaltered. Texts with one, two or more than three positional
values, and texts that ask for the list and hold a positional value, are not understood. And no run
of the program fails because a value is not given. -/
theorem positionals_provided (texts : List String) :
    (∀ arguments, Arguments.ofTexts texts = .ok arguments →
      (arguments.list = true ↔ asksForList texts) ∧
        (arguments.list = true ↔ arguments.positional? = none) ∧
        (arguments.positional? = none →
          positionalsOf texts = [] ∧ arguments.serialPort = none ∧ arguments.baudRate = none ∧
            arguments.blockSize = none) ∧
        ∀ values, arguments.positional? = some values →
          positionalsOf texts = [values.1, values.2.1, values.2.2]) ∧
      ((positionalsOf texts).length = 1 ∨ (positionalsOf texts).length = 2 ∨
          4 ≤ (positionalsOf texts).length →
        ∃ stop, Arguments.ofTexts texts = .error stop) ∧
      (asksForList texts → positionalsOf texts ≠ [] →
        ∃ stop, Arguments.ofTexts texts = .error stop) ∧
      ∀ environment host ports input,
        (run environment host ports input texts).conclusion ≠ .failed .incomplete := by
  have refused : (∀ arguments, Arguments.ofTexts texts ≠ .ok arguments) →
      ∃ stop, Arguments.ofTexts texts = .error stop := by
    intro never
    cases reading : Arguments.ofTexts texts with
    | error stop => exact ⟨stop, rfl⟩
    | ok arguments => exact absurd reading (never arguments)
  refine ⟨fun arguments understood => ?_, fun count => refused fun arguments understood => ?_,
    fun asks given => refused fun arguments understood => ?_,
    fun environment host ports input => run_ne_incomplete environment host ports input texts⟩
  · obtain ⟨listed, alternatives, values⟩ := provision understood
    have port := values .serialPort
    have baud := values .baudRate
    have block := values .blockSize
    obtain ⟨asks, nothing⟩ | ⟨plain, three⟩ := alternatives
    · rw [nothing] at port baud block
      have without : arguments.positional? = none := by
        unfold Arguments.positional?
        rw [show arguments.serialPort = none from port]
        rfl
      refine ⟨listed, iff_of_true (listed.2 asks) without, fun _ => ⟨nothing, port, baud, block⟩,
        fun values given => ?_⟩
      rw [without] at given
      cases given
    · obtain ⟨first, second, third, given⟩ := List.length_eq_three.1 three
      rw [given] at port baud block
      rw [Arguments.positional?_of_some port baud block]
      refine ⟨listed, iff_of_false (fun asked => plain (listed.1 asked)) nofun, nofun,
        fun values same => ?_⟩
      cases same
      exact given
  · obtain ⟨_, ⟨_, nothing⟩ | ⟨_, three⟩, _⟩ := provision understood
    · rw [nothing, List.length_nil] at count
      omega
    · omega
  · obtain ⟨_, ⟨_, nothing⟩ | ⟨plain, _⟩, _⟩ := provision understood
    · exact given nothing
    · exact plain asks

/-- Values that look like negative numbers, and one that looks like a flag behind the two hyphens,
are provided as they are given; the list flag leaves no room for a value, wherever it stands. -/
theorem positionals_provided_hyphens :
    let texts := ["-v", "ttyUSB0", "--config", "a", "-9", "--", "-v"]
    (∀ arguments, Arguments.ofTexts texts = .ok arguments → ∀ values,
      arguments.positional? = some values → values = ("ttyUSB0", "-9", "-v")) ∧
      (∃ arguments, Arguments.ofTexts texts = .ok arguments ∧
        arguments.positional? = some ("ttyUSB0", "-9", "-v")) ∧
      (∃ stop, Arguments.ofTexts ["ttyUSB0", "-v", "9600"] = .error stop) ∧
      ∃ stop, Arguments.ofTexts ["--settle-ms", "1", "--list", "--", "ttyUSB0"] = .error stop := by
  intro texts
  refine ⟨fun arguments understood values given => ?_, ?_, ?_, ?_⟩
  · obtain ⟨_, _, _, provided⟩ := (positionals_provided texts).1 arguments understood
    have asGiven : positionalsOf texts = ["ttyUSB0", "-9", "-v"] := by decide
    injection asGiven.symm.trans (provided values given) with port others
    injection others with baud others
    injection others with block
    exact Prod.ext port.symm (Prod.ext baud.symm block.symm)
  · let arguments : Arguments :=
      { serialPort := some "ttyUSB0", baudRate := some "-9", blockSize := some "-v"
        config := some "a", verbose := 1 }
    exact ⟨arguments, by decide, rfl⟩
  · exact (positionals_provided _).2.1 (by decide)
  · exact (positionals_provided _).2.2.1 (by unfold asksForList; decide) (by decide)

end SerialFeed.CommandLine
