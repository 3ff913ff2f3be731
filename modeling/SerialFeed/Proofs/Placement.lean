/-
This file shows that the placement of options does not matter. The positional values of a command
line keep their order and an option with a value occurs at most once; apart from that its pieces may
stand in any order and be spelled in any way, and what they tell is the same.

The step is one piece. It is taken wherever it stands, because an option is held back together with
its value and everything else is added to what is known already; so a whole line is taken piece by
piece, and its end finds nothing missing and nothing that conflicts.
-/

import Mathlib.Data.List.Induction
import SerialFeed.Proofs.Pieces

namespace SerialFeed.CommandLine

/-! ### Places -/

theorem Positional.exists_place {count : Nat} (few : count < all.length) :
    ∃ position : Positional, position.place = count := by
  match count with
  | 0 => exact ⟨serialPort, rfl⟩
  | 1 => exact ⟨baudRate, rfl⟩
  | 2 => exact ⟨blockSize, rfl⟩
  | more + 3 => exact absurd few (Nat.not_lt.2 (Nat.le_add_left 3 more))

theorem Positional.drop_place (position : Positional) :
    all.drop position.place = position :: all.drop (position.place + 1) := by
  cases position <;> rfl

/-! ### Options are taken over with their values -/

/-- Whether the value of an option is known. -/
def Arguments.has (arguments : Arguments) : Setting → Bool
  | .config => arguments.config.isSome
  | .settle => arguments.settle.isSome

theorem Arguments.has_withSetting {arguments next : Arguments} {value : String} {option : Setting}
    (taken : arguments.withSetting value option = .ok next) (other : Setting) :
    next.has other = true ↔ other = option ∨ arguments.has other = true := by
  cases option with
  | config =>
    simp only [withSetting] at taken
    split at taken
    · cases taken
    · cases taken
      cases other <;> simp [has]
  | settle =>
    simp only [withSetting] at taken
    split at taken
    · cases taken
    · cases taken
      cases other <;> simp [has]

namespace State

variable {state between next committed : State} {before : List Piece}

/-- Whether the value of every option that counts as used is known. -/
def SettingsKnown (state : State) : Prop :=
  ∀ option, .setting option ∈ state.used → state.values.has option = true

/-- No move lets an option count as used without its value. -/
theorem Moves.settingsKnown {told : List Told} (move : Moves state told next)
    (known : state.SettingsKnown) : next.SettingsKnown := by
  intro option used
  cases move with
  | @place position value held =>
    have kept : (state.values.withPositional value position).has option =
        state.values.has option := by cases position <;> cases option <;> rfl
    exact kept.trans (known option (by simpa using used))
  | adopt held fresh taken =>
    refine (Arguments.has_withSetting taken option).2 ?_
    rcases List.mem_append.1 used with earlier | last
    · exact .inr (known option earlier)
    · exact .inl (by simpa using last)
  | list clear fresh =>
    have earlier := known option (by simpa using used)
    cases option <;> exact earlier
  | verbose clear =>
    have member : .setting option ∈ state.used.erase (.flag .verbose) := by simpa using used
    have earlier := known option (List.mem_of_mem_erase member)
    cases option <;> exact earlier
  | hold => exact known option used
  | supply => exact known option used
  | word => exact known option used
  | escape => exact known option used

theorem Leads.settingsKnown {told : List Told} (leads : Leads state told next)
    (known : state.SettingsKnown) : next.SettingsKnown := by
  induction leads with
  | refl => exact known
  | cons move rest inductionHypothesis => exact inductionHypothesis (move.settingsKnown known)

/-! ### Taking a piece -/

/-- Whether a state with nothing held back is the one to which some pieces lead. -/
structure Stands (state : State) (pieces : List Piece) : Prop where
  clear : state.pending = none
  begun : state.ended = false
  free : state.free = Positional.all.drop (pieces.filterMap Piece.value?).length
  values : state.values = argumentsOf pieces

/-- Whether some pieces lead to a state, up to what it holds back. -/
def Reached (state : State) (pieces : List Piece) : Prop :=
  ∃ committed, state.commit = .ok committed ∧ committed.Stands pieces

theorem commit_of_clear (clear : state.pending = none) : state.commit = .ok state := by
  unfold commit
  rw [clear]

/-- An option that was not given before is taken over with its value. -/
theorem commit_of_setting {option : Setting} {value : String} {values : Arguments}
    (held : state.pending = some (.setting option (some value)))
    (fresh : .setting option ∉ state.used)
    (adopted : state.values.withSetting value option = .ok values) :
    state.commit =
      .ok { state with values, used := state.used ++ [.setting option], pending := none } := by
  have unused : state.used.contains (.setting option) = false := by simpa using fresh
  unfold commit
  rw [held]
  simp only [unused, adopted, Bool.false_eq_true, if_false]
  rfl

theorem Stands.reached {pieces : List Piece} (stands : state.Stands pieces) :
    state.Reached pieces :=
  ⟨state, commit_of_clear stands.clear, stands⟩

/-- What the pieces do not tell has not been used. -/
theorem Stands.unused {pieces : List Piece} (stands : state.Stands pieces)
    (known : state.SettingsKnown) {option : Setting}
    (unknown : (argumentsOf pieces).has option = false) : .setting option ∉ state.used := by
  intro used
  have has := known option used
  rw [stands.values, unknown] at has
  cases has

/-- To take over what is held back leaves free what is free, and ends no options. -/
theorem keeps_of_commit (done : state.commit = .ok committed) :
    state.free = committed.free ∧ state.ended = committed.ended := by
  obtain ⟨leads, _, ended⟩ := leads_commit done
  exact ⟨leads.free.symm, ended.symm⟩

/-- A text that is admitted where it comes next is taken as a value. -/
theorem take_eq_takeValue {text : String} {position : Positional} (begun : state.ended = false)
    (isNext : state.free.head? = some position) (admits : position.Admits text) :
    state.take text = state.takeValue text := by
  unfold take
  rw [begun, if_neg Bool.false_ne_true]
  rcases admits with word | ⟨negative, letters, nonempty, spelled, numeric⟩
  · rw [Shape.ofText_eq_word.2 word]
  · have negativeNext : state.negativeIsNext = true := by
      unfold negativeIsNext
      rw [isNext]
      exact negative
    rw [spelled, Shape.ofText_of_looksNumeric numeric nonempty]
    simp only [negativeNext, numeric, Bool.and_self, if_true]

/-- A word is taken as a value, whatever comes next. -/
theorem take_of_isWord {text : String} (begun : state.ended = false) (word : IsWord text) :
    state.take text = state.takeValue text := by
  unfold take
  rw [begun, if_neg Bool.false_ne_true, Shape.ofText_eq_word.2 word]

section Committed

variable (done : state.commit = .ok committed)
include done

/-- No option waits for a value in a state that can be taken over. -/
theorem takeValue_of_commit (text : String) : state.takeValue text = state.takeWord text := by
  unfold takeValue
  split
  · rename_i waiting
    unfold commit at done
    rw [waiting] at done
    cases done
  · rfl

/-- A text that is admitted where it comes next is held back as a positional value. -/
theorem reached_value {text : String} {position : Positional} (stands : committed.Stands before)
    (isNext : position.place = (before.filterMap Piece.value?).length)
    (admits : position.Admits text) :
    ∃ next, state.take text = .ok next ∧ next.Reached (before ++ [.value text]) := by
  obtain ⟨sameFree, sameEnded⟩ := keeps_of_commit done
  have isFree : state.free = position :: Positional.all.drop (position.place + 1) := by
    rw [sameFree, stands.free, ← isNext, position.drop_place]
  have taken : state.take text =
      .ok
        { committed with
          pending := some (.positional position text)
          free := Positional.all.drop (position.place + 1) } := by
    rw [take_eq_takeValue (sameEnded.trans stands.begun) (congrArg List.head? isFree) admits,
      takeValue_of_commit done, takeWord, isFree, done]
    rfl
  refine ⟨_, taken, _, rfl, rfl, stands.begun, ?_, ?_⟩
  · rw [filterMap_concat, List.length_append, ← isNext]
    rfl
  · rw [argumentsOf_value text isNext, ← stands.values]

/-- An option with its value is taken wherever it stands, if it was not given before. -/
theorem takeAll_spelled {option : Setting} {value : String} {joint : Joint} {values : Arguments}
    (begun : committed.ended = false) (word : joint = .apart → IsWord value)
    (fresh : .setting option ∉ committed.used)
    (adopted : committed.values.withSetting value option = .ok values) :
    ∃ next, (option.spelled value joint).foldlM State.take state = .ok next ∧
      next.commit =
        .ok
          { committed with
            values, used := committed.used ++ [.setting option], pending := none } := by
  have notEnded : state.ended = false := (keeps_of_commit done).2.trans begun
  let holding : State := { committed with pending := some (.setting option (some value)) }
  have checked := commit_of_setting (rfl : holding.pending = _) fresh adopted
  cases joint with
  | apart =>
    have named : state.take ("--" ++ option.longName) =
        .ok { committed with pending := some (.setting option none) } := by
      simp only [take, notEnded, Bool.false_eq_true, if_false, Shape.ofText_setting, takeName,
        String.ofList_toList, Argument.ofLongName?_setting, done]
      rfl
    have supplied : State.take { committed with pending := some (.setting option none) } value =
        .ok holding :=
      take_of_isWord begun (word rfl)
    refine ⟨holding, ?_, checked⟩
    rw [Setting.spelled, List.foldlM_cons, named]
    exact congrArg (· >>= pure) supplied
  | joined =>
    -- The value is at hand, so it is checked before the next text is looked at.
    refine ⟨_, ?_, commit_of_clear rfl⟩
    rw [Setting.spelled, List.foldlM_cons]
    simp only [take, notEnded, Bool.false_eq_true, if_false, Shape.ofText_setting_joined, takeName,
      String.ofList_toList, Argument.ofLongName?_setting, done]
    exact congrArg (fun result => result.mapError Stop.misuse >>= pure) checked

/-- An option with its value adds to what the pieces before it tell. -/
theorem reached_setting {piece : Piece} {option : Setting} {value : String} {joint : Joint}
    (stands : committed.Stands before) (spelled : piece.texts = option.spelled value joint)
    (noValue : piece.value? = none) (word : joint = .apart → IsWord value)
    (fresh : .setting option ∉ committed.used)
    (adopted : (argumentsOf before).withSetting value option =
      .ok (argumentsOf (before ++ [piece]))) :
    ∃ next, piece.texts.foldlM State.take state = .ok next ∧ next.Reached (before ++ [piece]) := by
  rw [← stands.values] at adopted
  obtain ⟨next, taken, checked⟩ := takeAll_spelled done stands.begun word fresh adopted
  refine ⟨next, spelled ▸ taken, _, checked, rfl, stands.begun, ?_, rfl⟩
  rw [filterMap_concat_none noValue]
  exact stands.free

end Committed

/-! ### The verbose flag -/

/-- Whether a state is another one with the verbose flag counted so many times more. -/
structure Louder (state : State) (count : Nat) (next : State) : Prop where
  clear : next.pending = none
  free : next.free = state.free
  ended : next.ended = state.ended
  values : next.values =
    { state.values with verbose := min (state.values.verbose + count) Arguments.maxVerbose }

theorem Louder.trans {count more : Nat} (first : state.Louder count between)
    (second : between.Louder more next) : state.Louder (count + more) next where
  clear := second.clear
  free := second.free.trans first.free
  ended := second.ended.trans first.ended
  values := by
    rw [second.values, first.values]
    simp only [min_add_min, Nat.add_assoc]

/-- Flags between the pieces leave what the pieces tell, and count. -/
theorem Louder.stands {piece : Piece} (louder : state.Louder piece.louder next)
    (stands : state.Stands before) (noValue : piece.value? = none)
    (noConfig : piece.config? = none) (noSettle : piece.settle? = none) :
    next.Stands (before ++ [piece]) where
  clear := louder.clear
  begun := louder.ended.trans stands.begun
  free := by
    rw [filterMap_concat_none noValue]
    exact louder.free.trans stands.free
  values := by rw [louder.values, stands.values, argumentsOf_louder noValue noConfig noSettle]

theorem takeFlag_verbose (done : state.commit = .ok committed) :
    ∃ next, state.takeFlag .verbose = .ok next ∧ committed.Louder 1 next := by
  have taken : state.takeFlag .verbose =
      .ok
        { committed with
          values :=
            { committed.values with
              verbose := min (committed.values.verbose + 1) Arguments.maxVerbose }
          used := committed.used.erase (.flag .verbose) ++ [.flag .verbose] } := by
    rw [takeFlag, done]
    rfl
  exact ⟨_, taken, (leads_commit done).2.1, rfl, rfl, rfl⟩

/-- Each letter of a cluster counts. -/
theorem takeLetters_verbose (done : state.commit = .ok committed) (more : Nat) :
    ∃ next, state.takeLetters (List.replicate (more + 1) 'v') = .ok next ∧
      committed.Louder (more + 1) next := by
  have isVerbose : Flag.ofLetter? 'v' = some .verbose := by decide
  induction more generalizing state committed with
  | zero =>
    obtain ⟨next, taken, louder⟩ := takeFlag_verbose done
    refine ⟨next, ?_, louder⟩
    simp only [List.replicate, takeLetters, isVerbose, taken]
    rfl
  | succ more inductionHypothesis =>
    obtain ⟨between, taken, louder⟩ := takeFlag_verbose done
    obtain ⟨next, rest, others⟩ := inductionHypothesis (commit_of_clear louder.clear)
    refine ⟨next, ?_, Nat.add_comm 1 (more + 1) ▸ louder.trans others⟩
    rw [List.replicate_succ, takeLetters, isVerbose]
    simp only [taken]
    exact rest

theorem take_verbose (begun : state.ended = false) :
    state.take "--verbose" = state.takeFlag .verbose := by
  unfold take
  rw [begun]
  rfl

theorem take_letters (begun : state.ended = false) (more : Nat) :
    state.take (String.ofList ('-' :: List.replicate (more + 1) 'v')) =
      state.takeLetters (List.replicate (more + 1) 'v') := by
  have other : looksNumeric (List.replicate (more + 1) 'v') = false := rfl
  have shape : Shape.ofText ('-' :: List.replicate (more + 1) 'v') =
      .short (List.replicate (more + 1) 'v') := rfl
  unfold take
  rw [begun, if_neg Bool.false_ne_true, String.toList_ofList, shape]
  simp only [other, Bool.and_false, Bool.false_eq_true, if_false]

/-! ### Taking all pieces -/

theorem takeAll_singleton {text : String} (taken : state.take text = .ok next) :
    [text].foldlM State.take state = .ok next := by
  rw [List.foldlM_cons, taken]
  rfl

/-- Every piece is taken behind those in front of it. -/
theorem exists_takePiece {piece : Piece} {values : List String}
    (done : state.commit = .ok committed) (stands : committed.Stands before)
    (known : committed.SettingsKnown)
    (interleaved : Interleaves (before ++ [piece]) values) (admissible : Admissible values) :
    ∃ next, piece.texts.foldlM State.take state = .ok next ∧ next.Reached (before ++ [piece]) := by
  have begun : state.ended = false := (keeps_of_commit done).2.trans stands.begun
  have wellFormed : piece.WellFormed :=
    interleaved.wellFormed piece (List.mem_append_right _ List.mem_cons_self)
  have given : values = before.filterMap Piece.value? ++ piece.value?.toList := by
    rw [← interleaved.values, filterMap_concat]
  cases piece with
  | value text =>
    have room : (before.filterMap Piece.value?).length < Positional.all.length := by
      have few := admissible.few
      rw [given, List.length_append] at few
      exact few
    obtain ⟨position, isNext⟩ := Positional.exists_place room
    have admits : position.Admits text := by
      refine admissible.admits position text ?_
      rw [given, isNext]
      exact List.getElem?_concat_length
    obtain ⟨next, taken, reached⟩ := reached_value done stands isNext admits
    exact ⟨next, takeAll_singleton taken, reached⟩
  | config joint path =>
    have unseen : before.filterMap Piece.config? = [] :=
      filterMap_eq_nil_of_once rfl interleaved.config
    have fresh : .setting .config ∉ committed.used :=
      stands.unused known (by simp [Arguments.has, argumentsOf, unseen])
    refine reached_setting done stands rfl rfl wellFormed.2 fresh ?_
    rw [argumentsOf_config joint path unseen, Arguments.withSetting, if_neg wellFormed.1]
  | settle joint text time =>
    have unseen : before.filterMap Piece.settle? = [] :=
      filterMap_eq_nil_of_once rfl interleaved.settle
    have fresh : .setting .settle ∉ committed.used :=
      stands.unused known (by simp [Arguments.has, argumentsOf, unseen])
    have read : Numeral.read (UInt64.size - 1) text.toList = .ok time.toNat :=
      Numeral.read_eq_ok.2 ⟨wellFormed, Nat.le_sub_one_of_lt time.toNat_lt⟩
    refine reached_setting done stands rfl rfl (fun _ => .of_head?_ne wellFormed.head?_ne) fresh ?_
    rw [argumentsOf_settle joint text time unseen, Arguments.withSetting, read]
    simp only [UInt64.ofNat_toNat]
  | verbose =>
    obtain ⟨next, taken, louder⟩ := takeFlag_verbose done
    exact ⟨next, takeAll_singleton ((take_verbose begun).trans taken),
      (Louder.stands louder stands rfl rfl rfl).reached⟩
  | letters more =>
    obtain ⟨next, taken, louder⟩ := takeLetters_verbose done more
    exact ⟨next, takeAll_singleton ((take_letters begun more).trans taken),
      (Louder.stands louder stands rfl rfl rfl).reached⟩

end State

/-- Pieces are taken one after the other. What the state must know of the options that were given
comes from the moves that led to it. -/
theorem Interleaves.exists_reached {pieces : List Piece} {values : List String}
    (interleaved : Interleaves pieces values) (admissible : Admissible values) :
    ∃ state : State, (pieces.flatMap Piece.texts).foldlM State.take {} = .ok state ∧
      state.Reached pieces := by
  induction pieces using List.reverseRecOn generalizing values with
  | nil => exact ⟨{}, rfl, State.Stands.reached ⟨rfl, rfl, rfl, rfl⟩⟩
  | append_singleton before piece inductionHypothesis =>
    have given : before.filterMap Piece.value? ++ piece.value?.toList = values := by
      rw [← interleaved.values, filterMap_concat]
    obtain ⟨state, taken, committed, done, stands⟩ :=
      inductionHypothesis interleaved.front (given ▸ admissible).of_append
    have leads : State.Leads {} (told 0 false (before.flatMap Piece.texts)) state :=
      State.leads_takeAll rfl rfl taken
    have known : committed.SettingsKnown :=
      (leads.append (State.leads_commit done).1).settingsKnown nofun
    obtain ⟨next, rest, reached⟩ := State.exists_takePiece done stands known interleaved admissible
    refine ⟨next, ?_, reached⟩
    rw [List.flatMap_append, List.foldlM_append, taken, List.flatMap_singleton]
    exact rest

/-! ### The end of a command line -/

namespace State

variable {state : State}

/-- Nothing conflicts where the list of ports is not asked for. -/
theorem conflict?_of_unasked (unasked : .flag .list ∉ state.used) : state.conflict? = none := by
  have noList : state.used.contains (.flag .list) = false := by simpa using unasked
  simp only [conflict?, noList, Bool.not_false, Bool.true_or, if_true]

theorem missing?_of_used (used : ∀ position, .positional position ∈ state.used) :
    state.missing? = none := by
  have nothing : (Positional.all.filter fun positional =>
      !state.used.contains (.positional positional)) = [] :=
    List.filter_eq_nil_iff.2 fun position _ => by simpa using used position
  simp only [missing?, nothing, List.isEmpty_nil, Bool.or_true, if_true]

end State

/-- Three positional values with options between them are understood as what they tell. -/
theorem ofTexts_of_interleaves {pieces : List Piece} {port baud block : String}
    (interleaved : Interleaves pieces [port, baud, block])
    (admissible : Admissible [port, baud, block]) :
    Arguments.ofTexts (pieces.flatMap Piece.texts) = .ok (argumentsOf pieces) := by
  obtain ⟨state, taken, last, done, stands⟩ := interleaved.exists_reached admissible
  have told : State.Leads {} (told 0 false (pieces.flatMap Piece.texts)) state :=
    State.leads_takeAll rfl rfl taken
  have leads := told.append (State.leads_commit done).1
  have unasked : .flag .list ∉ last.used := by
    intro used
    have asked := (leads.sound State.sound_start).list used
    rw [stands.values] at asked
    cases asked
  have counted := leads.counted ⟨fun position => by cases position <;> exact nofun, nofun⟩
  have used : ∀ position, .positional position ∈ last.used := by
    intro position
    refine counted.positional position ?_
    rw [stands.values]
    cases position <;> simp [Arguments.valueAt?, argumentsOf, interleaved.values]
  unfold Arguments.ofTexts
  rw [taken]
  show state.finish = _
  rw [State.finish, done]
  simp only [Except.mapError, bind, Except.bind, State.conflict?_of_unasked unasked,
    State.missing?_of_used used, Option.orElse_eq_orElse, Option.orElse_eq_or, Option.or_none]
  rw [stands.values]

/-- The placement of options does not matter. Take a port, a speed and a block size that do not
begin with a hyphen, and put options anywhere between them: a settings file and a settle delay, each
at most once, with the value behind the name or behind an equals sign, and the verbose flag any
number of times, by its name or by letters in clusters. All such texts are understood, and as the
same arguments: the positional values in order, the file and the delay as they were given, and the
number of flags up to 255. What is logged grows with the first three flags and no further. -/
theorem options_anywhere {port baud block : String}
    (words : ∀ text ∈ [port, baud, block], IsWord text) {pieces : List Piece}
    (interleaved : Interleaves pieces [port, baud, block]) :
    let count := (pieces.map Piece.louder).sum
    (∃ arguments, Arguments.ofTexts (pieces.flatMap Piece.texts) = .ok arguments ∧
      arguments.positional? = some (port, baud, block) ∧
      arguments.config = (pieces.filterMap Piece.config?).head? ∧
      arguments.settle = (pieces.filterMap Piece.settle?).head? ∧
      arguments.list = false ∧ arguments.verbose = min count 255 ∧
      arguments.verbosity =
        match count with
        | 0 => some .warn
        | 1 => some .info
        | 2 => some .debug
        | _ + 3 => some .trace) ∧
    ∀ others, Interleaves others [port, baud, block] →
      others.filterMap Piece.config? = pieces.filterMap Piece.config? →
      others.filterMap Piece.settle? = pieces.filterMap Piece.settle? →
      (others.map Piece.louder).sum = count →
      Arguments.ofTexts (others.flatMap Piece.texts) =
        Arguments.ofTexts (pieces.flatMap Piece.texts) := by
  intro count
  have admissible : Admissible [port, baud, block] :=
    admissible_of_admits (.inl (words port (by simp))) (.inl (words baud (by simp)))
      (.inl (words block (by simp)))
  have understood := ofTexts_of_interleaves interleaved admissible
  refine ⟨⟨argumentsOf pieces, understood, interleaved.positional?, rfl, rfl, rfl, rfl, ?_⟩, ?_⟩
  · show Arguments.verbosity { argumentsOf pieces with verbose := min count 255 } = _
    match count with
    | 0 | 1 | 2 => rfl
    | more + 3 =>
      have many : min (more + 3) 255 = min more 252 + 3 := by omega
      rw [many]
      rfl
  · intro others interleavedOthers sameConfig sameSettle sameCount
    rw [understood, ofTexts_of_interleaves interleavedOthers admissible]
    simp only [argumentsOf, interleavedOthers.values, interleaved.values, sameConfig, sameSettle,
      sameCount, count]

/-- Options in front of, between and behind the positional values, and the verbose flag more often
than it is counted. -/
theorem options_anywhere_crowded :
    let crowd := String.ofList ('-' :: List.replicate 300 'v')
    ∃ arguments,
      Arguments.ofTexts
          ["-vv", "ttyUSB0", "--settle-ms=0250", "9600", "--config", "a.json", "8", crowd] =
        .ok arguments ∧
      arguments.positional? = some ("ttyUSB0", "9600", "8") ∧ arguments.config = some "a.json" ∧
      arguments.settle = some 250 ∧ arguments.verbose = 255 ∧ arguments.verbosity = some .trace ∧
      Arguments.ofTexts
          [crowd, "--verbose", "--config=a.json", "--verbose", "--settle-ms", "+250", "ttyUSB0",
            "9600", "8"] =
        .ok arguments := by
  intro crowd
  let pieces : List Piece :=
    [.letters 1, .value "ttyUSB0", .settle .joined "0250" 250, .value "9600",
      .config .apart "a.json", .value "8", .letters 299]
  let others : List Piece :=
    [.letters 299, .verbose, .config .joined "a.json", .verbose, .settle .apart "+250" 250,
      .value "ttyUSB0", .value "9600", .value "8"]
  have padded : Numeral.Denotes "0250".toList 250 :=
    ⟨"0250".toList, .inl rfl, by decide, List.all_eq_true.1 rfl, by decide⟩
  have signed : Numeral.Denotes "+250".toList 250 :=
    ⟨"250".toList, .inr rfl, by decide, List.all_eq_true.1 rfl, by decide⟩
  have words : ∀ text ∈ ["ttyUSB0", "9600", "8"], IsWord text := by decide
  have interleaved : Interleaves pieces ["ttyUSB0", "9600", "8"] := by
    refine ⟨?_, rfl, Nat.le_refl 1, Nat.le_refl 1⟩
    simp only [pieces, List.forall_mem_cons]
    exact ⟨trivial, trivial, padded, trivial, ⟨by decide, fun _ => by decide⟩, trivial, trivial,
      nofun⟩
  have interleavedOthers : Interleaves others ["ttyUSB0", "9600", "8"] := by
    refine ⟨?_, rfl, Nat.le_refl 1, Nat.le_refl 1⟩
    simp only [others, List.forall_mem_cons]
    exact ⟨trivial, trivial, ⟨by decide, nofun⟩, trivial, signed, trivial, trivial, trivial, nofun⟩
  obtain ⟨⟨arguments, understood, given, config, settle, _, verbose, verbosity⟩, same⟩ :=
    options_anywhere words interleaved
  exact ⟨arguments, understood, given, config, settle, verbose, verbosity,
    (same others interleavedOthers rfl rfl rfl).trans understood⟩

end SerialFeed.CommandLine
