/-
This file says once what can happen to what is known of a command line while its texts are taken. A
text is taken in few moves: what was held back is taken over, a flag counts, an option or a
positional value is held back, or the options end. What the texts tell can be read off them without
following these moves: of each text its first characters say whether it is a value, and it is a
positional value unless an option waits for one.

So whatever the moves keep holds of every command line that was understood, and the definitions that
take a text need not be opened again.
-/

import SerialFeed.CommandLine.State

namespace SerialFeed.CommandLine

/-- A hyphen with nothing behind it is a word. -/
theorem Shape.ne_nil_of_ofText {text letters : List Char}
    (isShort : Shape.ofText text = .short letters) : letters ≠ [] := by
  unfold Shape.ofText at isShort
  split at isShort
  · cases isShort
  · split at isShort <;> cases isShort
  · cases isShort
    exact List.cons_ne_nil _ _
  · cases isShort

/-! ### What texts tell -/

/-- What a text can tell, as far as others depend on it. -/
inductive Told where
  /-- The next positional value. -/
  | value (text : String)
  /-- The list of ports is asked for. -/
  | list
  deriving DecidableEq

namespace Told

def value? : Told → Option String
  | value text => some text
  | list => none

/-- The positional values among what was told. -/
def values (told : List Told) : List String :=
  told.filterMap value?

theorem values_append (first second : List Told) :
    values (first ++ second) = values first ++ values second :=
  List.filterMap_append

end Told

/-- Whether an option that is given by its name waits for the next text, which is to be its
value. -/
def waits (name : List Char) : Option (List Char) → Bool
  | none => [Setting.config, Setting.settle].any fun option => option.longName.toList == name
  | some _ => false

/-- What some texts tell, if so many positional values came before them, and if an option waits for
the first of them or none does. A text that looks like a negative number is a value where the second
or the third positional value comes next, and two hyphens make all texts behind them values. -/
def told (taken : Nat) (waiting : Bool) : List String → List Told
  | [] => []
  | text :: rest =>
    let asValue :=
      if waiting then told taken false rest else .value text :: told (taken + 1) false rest
    match Shape.ofText text.toList with
    | .escape => rest.map .value
    | .long name value =>
      if name = "list".toList ∧ value = none then .list :: told taken false rest
      else told taken (waits name value) rest
    | .short letters =>
      if (taken == 1 || taken == 2) && looksNumeric letters then asValue
      else told taken false rest
    | .word => asValue

section

variable {text : String} {rest : List String} {taken : Nat} {waiting : Bool}

theorem told_of_escape (shape : Shape.ofText text.toList = .escape) :
    told taken waiting (text :: rest) = rest.map .value := by
  simp only [told, shape]

theorem told_of_long {name : List Char} {value : Option (List Char)}
    (shape : Shape.ofText text.toList = .long name value) :
    told taken waiting (text :: rest) =
      if name = "list".toList ∧ value = none then .list :: told taken false rest
      else told taken (waits name value) rest := by
  simp only [told, shape]

/-- What a text tells as a value. -/
def toldAsValue (taken : Nat) (waiting : Bool) (text : String) (rest : List String) : List Told :=
  if waiting then told taken false rest else .value text :: told (taken + 1) false rest

theorem told_of_short {letters : List Char}
    (shape : Shape.ofText text.toList = .short letters) :
    told taken waiting (text :: rest) =
      if (taken == 1 || taken == 2) && looksNumeric letters then toldAsValue taken waiting text rest
      else told taken false rest := by
  simp only [told, shape, toldAsValue]

theorem told_of_word (shape : Shape.ofText text.toList = .word) :
    told taken waiting (text :: rest) = toldAsValue taken waiting text rest := by
  simp only [told, shape, toldAsValue]

end

namespace State

/-! ### Moves -/

/-- Whether an option waits for its value. -/
def isWaiting (state : State) : Bool :=
  match state.pending with
  | some (.setting _ none) => true
  | _ => false

/-- What can happen to a state, and what is told in it. -/
inductive Moves : State → List Told → State → Prop where
  /-- A positional value that was held back is taken over. -/
  | place {state : State} {position : Positional} {value : String}
    (held : state.pending = some (.positional position value)) :
    Moves state []
      { state with
        values := state.values.withPositional value position
        used := state.used ++ [.positional position]
        pending := none }
  /-- An option that was held back is taken over. -/
  | adopt {state : State} {option : Setting} {value : String} {values : Arguments}
    (held : state.pending = some (.setting option (some value)))
    (fresh : .setting option ∉ state.used)
    (taken : state.values.withSetting value option = .ok values) :
    Moves state []
      { state with values, used := state.used ++ [.setting option], pending := none }
  | list {state : State} (clear : state.pending = none) (fresh : .flag .list ∉ state.used) :
    Moves state [.list]
      { state with
        values := { state.values with list := true }
        used := state.used ++ [.flag .list] }
  | verbose {state : State} (clear : state.pending = none) :
    Moves state []
      { state with
        values :=
          { state.values with verbose := min (state.values.verbose + 1) Arguments.maxVerbose }
        used := state.used.erase (.flag .verbose) ++ [.flag .verbose] }
  /-- An option is held back, with its value or without. -/
  | hold {state : State} (option : Setting) (value : Option String) (clear : state.pending = none) :
    Moves state [] { state with pending := some (.setting option value) }
  /-- An option that waits gets its value. -/
  | supply {state : State} (option : Setting) (value : String)
    (waiting : state.pending = some (.setting option none)) :
    Moves state [] { state with pending := some (.setting option (some value)) }
  | word {state : State} {position : Positional} {free : List Positional} (text : String)
    (clear : state.pending = none) (isFree : state.free = position :: free) :
    Moves state [.value text] { state with pending := some (.positional position text), free }
  | escape {state : State} : Moves state [] { state with ended := true }

/-- What moves one after the other lead to, and what is told in them. -/
inductive Leads : State → List Told → State → Prop where
  | refl (state : State) : Leads state [] state
  | cons {state between next : State} {told others : List Told} (move : Moves state told between)
    (rest : Leads between others next) : Leads state (told ++ others) next

namespace Leads

variable {state between next : State} {told others : List Told}

theorem single (move : Moves state told next) : Leads state told next := by
  have leads := Leads.cons move (.refl next)
  rwa [List.append_nil] at leads

theorem append (first : Leads state told between) (second : Leads between others next) :
    Leads state (told ++ others) next := by
  induction first with
  | refl => exact second
  | cons move rest inductionHypothesis =>
    rw [List.append_assoc]
    exact .cons move (inductionHypothesis second)

/-- Every positional value takes up the next free position. -/
theorem free (leads : Leads state told next) :
    next.free = state.free.drop (Told.values told).length := by
  induction leads with
  | refl => rfl
  | cons move rest inductionHypothesis =>
    rw [inductionHypothesis, Told.values_append, List.length_append, ← List.drop_drop]
    cases move with
    | word text clear isFree =>
      rw [isFree]
      rfl
    | _ => rfl

end Leads

/-! ### Taking a text -/

variable {state next : State}

/-- What follows on a state that is checked goes on only where the check has gone well. -/
theorem exists_of_mapError_bind {Value Result : Type} {check : Except Misuse Value}
    {follow : Value → Except Stop Result} {result : Result}
    (done : (check.mapError Stop.misuse >>= follow) = .ok result) :
    ∃ value, check = .ok value ∧ follow value = .ok result := by
  cases check with
  | error misuse => cases done
  | ok value => exact ⟨value, rfl, done⟩

theorem eq_ok_of_mapError {Value : Type} {check : Except Misuse Value} {value : Value}
    (done : check.mapError Stop.misuse = .ok value) : check = .ok value := by
  cases check with
  | error misuse => cases done
  | ok other => exact congrArg Except.ok (Except.ok.inj done)

/-- Behind a check nothing is held back. -/
theorem leads_commit (done : state.commit = .ok next) :
    Leads state [] next ∧ next.pending = none ∧ next.ended = state.ended := by
  unfold State.commit at done
  split at done
  · rename_i clear
    cases done
    exact ⟨.refl state, clear, rfl⟩
  · rename_i held
    cases done
    exact ⟨.single (.place held), rfl, rfl⟩
  · cases done
  · rename_i option value held
    split at done
    · cases done
    · rename_i fresh
      cases taken : state.values.withSetting value option with
      | error misuse =>
        rw [taken] at done
        cases done
      | ok values =>
        rw [taken] at done
        cases done
        have unused : .setting option ∉ state.used :=
          fun member => fresh (List.contains_iff_mem.2 member)
        exact ⟨.single (.adopt held unused taken), rfl, rfl⟩

theorem isWaiting_of_clear (clear : state.pending = none) : state.isWaiting = false := by
  unfold isWaiting
  rw [clear]

theorem leads_takeFlag {flag : Flag} (done : state.takeFlag flag = .ok next) :
    Leads state (if flag = .list then [.list] else []) next ∧ next.pending = none ∧
      next.ended = state.ended := by
  obtain ⟨checked, committed, done⟩ := exists_of_mapError_bind done
  obtain ⟨leads, clear, ended⟩ := leads_commit committed
  cases flag with
  | help => cases done
  | version => cases done
  | list =>
    dsimp only at done
    split at done
    · cases done
    · rename_i fresh
      cases done
      have unused : .flag .list ∉ checked.used :=
        fun member => fresh (List.contains_iff_mem.2 member)
      exact ⟨leads.append (.single (.list clear unused)), clear, ended⟩
  | verbose =>
    cases done
    exact ⟨leads.append (.single (.verbose clear)), clear, ended⟩

/-- The list flag has no letter. -/
theorem ne_list_of_ofLetter? {letter : Char} {flag : Flag}
    (known : Flag.ofLetter? letter = some flag) : flag ≠ .list := by
  rintro rfl
  have same := List.find?_some known
  cases same

theorem leads_takeLetters {letters : List Char} (done : state.takeLetters letters = .ok next) :
    Leads state [] next ∧ (letters ≠ [] → next.pending = none) ∧ next.ended = state.ended := by
  induction letters generalizing state with
  | nil =>
    cases done
    exact ⟨.refl _, fun nonempty => absurd rfl nonempty, rfl⟩
  | cons letter rest inductionHypothesis =>
    unfold State.takeLetters at done
    split at done
    · rename_i flag known
      cases taken : state.takeFlag flag with
      | error stop =>
        rw [taken] at done
        cases done
      | ok between =>
        rw [taken] at done
        obtain ⟨leads, clear, ended⟩ := leads_takeFlag taken
        rw [if_neg (ne_list_of_ofLetter? known)] at leads
        obtain ⟨others, clearLater, endedLater⟩ := inductionHypothesis done
        refine ⟨leads.append others, fun _ => ?_, endedLater.trans ended⟩
        cases rest with
        | nil =>
          cases done
          exact clear
        | cons => exact clearLater (List.cons_ne_nil _ _)
    · cases done

theorem leads_takeWord {text : String} (done : state.takeWord text = .ok next) :
    Leads state [.value text] next ∧ next.isWaiting = false ∧ next.ended = state.ended := by
  unfold State.takeWord at done
  split at done
  · cases done
  · rename_i position free isFree
    obtain ⟨checked, committed, done⟩ := exists_of_mapError_bind done
    obtain ⟨leads, clear, ended⟩ := leads_commit committed
    cases done
    have stillFree : checked.free = position :: free := leads.free.trans isFree
    exact ⟨leads.append (.single (.word text clear stillFree)), rfl, ended⟩

theorem leads_takeValue {text : String} (done : state.takeValue text = .ok next) :
    Leads state (if state.isWaiting then [] else [.value text]) next ∧ next.isWaiting = false ∧
      next.ended = state.ended := by
  unfold State.takeValue at done
  split at done
  · rename_i option waiting
    cases done
    have waits : state.isWaiting = true := by
      unfold isWaiting
      rw [waiting]
    rw [if_pos waits]
    exact ⟨.single (.supply option text waiting), rfl, rfl⟩
  · rename_i other
    have idle : ¬ state.isWaiting = true := by
      unfold isWaiting
      split
      · rename_i option waiting
        exact absurd waiting (other option)
      · exact Bool.false_ne_true
    rw [if_neg idle]
    exact leads_takeWord done

/-- A name that is known is the one of its argument. -/
theorem name_of_ofLongName? {name : List Char} {argument : Argument}
    (known : Argument.ofLongName? (String.ofList name) = some argument) :
    name = (argument.longName?.getD "").toList := by
  have same := List.find?_some known
  rw [beq_iff_eq.1 same, Option.getD_some, String.toList_ofList]

theorem waits_setting (option : Setting) : waits option.longName.toList none = true := by
  cases option <;> decide

theorem waits_flag (flag : Flag) : waits flag.longName.toList none = false := by
  cases flag <;> decide

theorem leads_takeName {name : List Char} {value : Option (List Char)}
    (done : state.takeName name value = .ok next) :
    Leads state (if name = "list".toList ∧ value = none then [.list] else []) next ∧
      next.isWaiting = waits name value ∧ next.ended = state.ended := by
  unfold State.takeName at done
  split at done
  · rename_i flag known
    obtain ⟨leads, clear, ended⟩ := leads_takeFlag done
    rw [name_of_ofLongName? known, isWaiting_of_clear clear]
    refine ⟨?_, (waits_flag flag).symm, ended⟩
    cases flag <;> exact leads
  · cases done
  · rename_i option known
    obtain ⟨checked, committed, done⟩ := exists_of_mapError_bind done
    obtain ⟨leads, clear, ended⟩ := leads_commit committed
    cases done
    have held := leads.append (.single (.hold option none clear))
    rw [name_of_ofLongName? known]
    refine ⟨?_, (waits_setting option).symm, ended⟩
    cases option <;> exact held
  · rename_i option value known
    obtain ⟨checked, committed, done⟩ := exists_of_mapError_bind done
    obtain ⟨leads, clear, ended⟩ := leads_commit committed
    obtain ⟨later, clearLater, endedLater⟩ := leads_commit (eq_ok_of_mapError done)
    have held := leads.append
      ((Leads.single (.hold option (some (String.ofList value)) clear)).append later)
    rw [if_neg (by simp), isWaiting_of_clear clearLater]
    exact ⟨held, rfl, endedLater.trans ended⟩
  · cases done

/-! ### Taking all texts -/

/-- Where the options have ended every text is a positional value. -/
theorem leads_takeAll_of_ended {texts : List String} (ended : state.ended = true)
    (done : texts.foldlM State.take state = .ok next) :
    Leads state (texts.map .value) next := by
  induction texts generalizing state with
  | nil =>
    cases done
    exact .refl _
  | cons text rest inductionHypothesis =>
    cases taken : state.take text with
    | error stop =>
      rw [List.foldlM_cons, taken] at done
      cases done
    | ok between =>
      rw [List.foldlM_cons, taken] at done
      rw [State.take, if_pos ended] at taken
      obtain ⟨leads, _, still⟩ := leads_takeWord taken
      exact leads.append (inductionHypothesis (still.trans ended) done)

/-- The second and the third positional value may look like a negative number. -/
theorem negativeIsNext_eq {taken : Nat} (free : state.free = Positional.all.drop taken) :
    state.negativeIsNext = (taken == 1 || taken == 2) := by
  unfold negativeIsNext
  rw [free]
  match taken with
  | 0 => rfl
  | 1 => rfl
  | 2 => rfl
  | more + 3 =>
    rw [List.drop_eq_nil_of_le (Nat.le_add_left 3 more)]
    simp

/-- A text that does not end the options leads as far as it tells, and what the texts behind it
tell follows on that. -/
theorem leads_take {text : String} {taken : Nat} (begun : state.ended = false)
    (free : state.free = Positional.all.drop taken)
    (goesOn : Shape.ofText text.toList ≠ .escape) (done : state.take text = .ok next) :
    ∃ here, Leads state here next ∧ next.ended = false ∧ ∀ rest,
      told taken state.isWaiting (text :: rest) =
        here ++ told (taken + (Told.values here).length) next.isWaiting rest := by
  have asValue : state.takeValue text = .ok next →
      ∃ here, Leads state here next ∧ next.ended = false ∧ ∀ rest,
        toldAsValue taken state.isWaiting text rest =
          here ++ told (taken + (Told.values here).length) next.isWaiting rest := by
    intro done
    obtain ⟨leads, idle, still⟩ := leads_takeValue done
    refine ⟨_, leads, still.trans begun, fun rest => ?_⟩
    rw [toldAsValue, idle]
    split <;> rfl
  unfold State.take at done
  rw [begun, if_neg Bool.false_ne_true, negativeIsNext_eq free] at done
  cases shape : Shape.ofText text.toList with
  | escape => exact absurd shape goesOn
  | long name value =>
    rw [shape] at done
    obtain ⟨leads, waiting, still⟩ := leads_takeName done
    refine ⟨_, leads, still.trans begun, fun rest => ?_⟩
    rw [told_of_long shape, waiting]
    split
    · rename_i asks
      rw [asks.1, asks.2]
      rfl
    · rfl
  | short letters =>
    rw [shape] at done
    simp only [told_of_short shape]
    dsimp only at done
    split at done
    · rename_i negative
      simp only [if_pos negative]
      exact asValue done
    · rename_i other
      simp only [if_neg other]
      obtain ⟨leads, clear, still⟩ := leads_takeLetters done
      refine ⟨_, leads, still.trans begun, fun rest => ?_⟩
      rw [isWaiting_of_clear (clear (Shape.ne_nil_of_ofText shape))]
      rfl
  | word =>
    rw [shape] at done
    simp only [told_of_word shape]
    exact asValue done

/-- Texts that were taken lead as far as they tell. -/
theorem leads_takeAll {texts : List String} {taken : Nat} (begun : state.ended = false)
    (free : state.free = Positional.all.drop taken)
    (done : texts.foldlM State.take state = .ok next) :
    Leads state (told taken state.isWaiting texts) next := by
  induction texts generalizing state taken with
  | nil =>
    cases done
    exact .refl _
  | cons text rest inductionHypothesis =>
    cases reached : state.take text with
    | error stop =>
      rw [List.foldlM_cons, reached] at done
      cases done
    | ok between =>
      rw [List.foldlM_cons, reached] at done
      by_cases shape : Shape.ofText text.toList = .escape
      · rw [State.take, begun, if_neg Bool.false_ne_true, shape] at reached
        cases reached
        rw [told_of_escape shape]
        exact (Leads.single .escape).append (leads_takeAll_of_ended rfl done)
      · obtain ⟨here, leads, still, split⟩ := leads_take begun free shape reached
        rw [split]
        refine leads.append (inductionHypothesis still ?_ done)
        rw [leads.free, free, List.drop_drop]

/-! ### The end of a command line -/

/-- What an understood command line tells leads from nothing to a state in which nothing is held
back, whose arguments go together and lack nothing, and whose values are the ones understood. -/
theorem leads_ofTexts {texts : List String} {arguments : Arguments}
    (understood : Arguments.ofTexts texts = .ok arguments) :
    ∃ last : State, Leads {} (told 0 false texts) last ∧ last.pending = none ∧
      last.conflict? = none ∧ last.missing? = none ∧ arguments = last.values := by
  unfold Arguments.ofTexts at understood
  cases taken : texts.foldlM State.take {} with
  | error stop =>
    rw [taken] at understood
    cases understood
  | ok state =>
    rw [taken] at understood
    obtain ⟨last, committed, finished⟩ := exists_of_mapError_bind understood
    obtain ⟨leads, clear, _⟩ := leads_commit committed
    have all : Leads {} (told 0 false texts) state := leads_takeAll rfl rfl taken
    have whole := all.append leads
    rw [List.append_nil] at whole
    cases wrong : last.conflict? <|> last.missing? with
    | some misuse =>
      rw [wrong] at finished
      cases finished
    | none =>
      rw [wrong] at finished
      cases finished
      rw [Option.orElse_eq_orElse, Option.orElse_eq_or, Option.or_eq_none_iff] at wrong
      exact ⟨last, whole, clear, wrong.1, wrong.2, rfl⟩

end State

end SerialFeed.CommandLine
