/-
This file says where the settings of a run come from. There is one source and no other: the file
that the command line names, and what is wrong with that file is an error; or else the per-user file
if it is a regular file, and its troubles are errors too; or else none, and then no setting is
present.
Two machines that agree on this source have the same settings, whatever else is on them.

So a run that gets as far as sending takes its settle delay from the command line, or else from the
one file, or else by default, and its write deadline from this file or not at all.
-/

import Mathlib
import SerialFeed.Proofs.Applying
import SerialFeed.Proofs.Spelling
import SerialFeed.Proofs.Stages

namespace SerialFeed

/-! ### What lies at a path -/

namespace Host

/-- Whether two machines agree on what lies at a path. -/
def AgreeAt (path : String) (host other : Host) : Prop :=
  other.find path = host.find path

/-- Whether a regular file lies at a path, be it one that may not be read. -/
def IsRegular (host : Host) (path : String) : Prop :=
  hasNul path = false ∧ ∃ node, host.find path = .ok node ∧ node.isFile = true

variable {host other : Host} {path : String}

theorem isFile_iff : host.isFile path = true ↔ host.IsRegular path := by
  unfold isFile IsRegular
  rw [Bool.and_eq_true, Bool.not_eq_true']
  refine and_congr_right fun _ => ?_
  cases host.find path with
  | error error => exact iff_of_false nofun nofun
  | ok node => simp

theorem AgreeAt.readText (agree : AgreeAt path host other) :
    other.readText path = host.readText path := by
  unfold Host.readText
  rw [show other.find path = host.find path from agree]

theorem AgreeAt.isRegular (agree : AgreeAt path host other) :
    other.IsRegular path ↔ host.IsRegular path := by
  unfold Host.IsRegular
  rw [show other.find path = host.find path from agree]

end Host

/-! ### Loading settings -/

namespace Settings

variable {host other : Host} {path : String}

theorem ofFile_eq (host : Host) (path : String) :
    ofFile host path =
      match host.readText path with
      | .error fault => .error (.unreadable path fault)
      | .ok text => (ofText text).mapError (.malformed path) := by
  unfold ofFile
  cases host.readText path <;> rfl

theorem ofFile_agree (agree : host.AgreeAt path other) : ofFile other path = ofFile host path := by
  rw [ofFile_eq, ofFile_eq, agree.readText]

theorem load_some (host : Host) (path : String) :
    load host (some path) = (ofFile host path).map fun settings => ⟨settings, some path⟩ := by
  unfold load consulted?
  dsimp only
  cases ofFile host path <;> rfl

/-- The per-user file is loaded as if it were named. -/
theorem load_none_of_isRegular (user : host.userFile? = some path) (regular : host.IsRegular path) :
    load host none = load host (some path) := by
  unfold load consulted?
  rw [user, Option.filter_some, if_pos (Host.isFile_iff.2 regular)]

/-- A per-user file that may not be read is no reason to go without settings. -/
example :
    let host : Host :=
      { tree := fun place =>
          if place = ["home", "blocksend", "config.json"] then
            some (.guarded (.file []) { reading := some (.ofNumber 13) })
          else some .directory
        configHome := some "home" }
    load host none = .error (.unreadable "home/blocksend/config.json"
      ⟨.permissionDenied, "Permission denied (os error 13)"⟩) := by
  rfl

theorem load_none_of_not (irregular : ∀ path, host.userFile? = some path → ¬ host.IsRegular path) :
    load host none = .ok ⟨{}, none⟩ := by
  have nothing : host.userFile?.filter host.isFile = none := by
    rw [Option.filter_eq_none_iff]
    exact fun path user isFile => irregular path user (Host.isFile_iff.1 isFile)
  unfold load consulted?
  rw [nothing]

/-- Without a path, settings depend on the per-user file alone. -/
theorem load_none_agree (sameUser : other.userFile? = host.userFile?)
    (agree : ∀ path, host.userFile? = some path → host.AgreeAt path other) :
    load other none = load host none := by
  by_cases regular : ∃ path, host.userFile? = some path ∧ host.IsRegular path
  · obtain ⟨path, user, regular⟩ := regular
    have here := agree path user
    rw [load_none_of_isRegular user regular,
      load_none_of_isRegular (sameUser.trans user) (here.isRegular.2 regular), load_some, load_some,
      ofFile_agree here]
  · have irregular : ∀ path, host.userFile? = some path → ¬ host.IsRegular path :=
      fun path user isRegular => regular ⟨path, user, isRegular⟩
    rw [load_none_of_not irregular, load_none_of_not fun path user isRegular => ?_]
    have sameFile := sameUser.symm.trans user
    exact irregular path sameFile ((agree path sameFile).isRegular.1 isRegular)

/-- Settings that were applied without a failure have replaced what the configuration had. -/
theorem eq_overwrite_of_apply {settings : Settings} {before after : ForwardConfig}
    (applied : settings.apply before = (after, .ok ())) : after = settings.overwrite before := by
  rcases settings.suit_cases with
    ⟨number, given, unsuitable⟩ | ⟨dataBits, number, given, unsuitable⟩ | suit
  · rw [apply_of_dataBits given unsuitable] at applied
    cases applied
  · rw [apply_of_stopBits dataBits given unsuitable] at applied
    cases applied
  · rw [apply_of_suit suit] at applied
    exact (congrArg Prod.fst applied).symm

end Settings

/-! ### Pauses -/

section Pauses

variable {Event : Type}

def Entry.pause? : Entry Event → Option Nat
  | .pause milliseconds => some milliseconds
  | _ => none

theorem Entry.pause?_of_isNote {entry : Entry Event} (isNote : entry.isNote = true) :
    entry.pause? = none := by
  cases entry with
  | note record => rfl
  | _ => cases isNote

/-- The pauses that were made, in order. -/
def History.pauses (history : History Event) : List Nat :=
  history.filterMap Entry.pause?

theorem History.pauses_append (first second : History Event) :
    pauses (first ++ second) = first.pauses ++ second.pauses :=
  List.filterMap_append

theorem Observer.pauses_note (observer : Observer) (record : Note) :
    History.pauses (observer.note record : History Event) = [] :=
  List.filterMap_eq_nil_iff.2 fun _ member => eq_of_mem_note member ▸ rfl

theorem Observer.pauses_event (observer : Observer) (reported : Event) :
    History.pauses (observer.event reported) = [] :=
  List.filterMap_eq_nil_iff.2 fun _ member => eq_of_mem_event member ▸ rfl

theorem Opening.pauses_history {π : Type} (observer : Observer) (opening : Opening π) :
    History.pauses (opening.history observer : History Event) = [] := by
  cases opening with
  | opened connection speed =>
    cases speed with
    | none => rfl
    | some speed => exact observer.pauses_note _
  | refused error discarded => cases discarded <;> rfl
  | crashed discarded => cases discarded <;> rfl

theorem Connection.pauses_close (observer : Observer) (name : String) :
    History.pauses (Connection.close observer name : History Event) = [] := by
  unfold close
  rw [History.pauses_append, Observer.pauses_note]
  rfl

end Pauses

section Transfers

variable {forwarder : Forwarder} {observer : Observer} {ending : Ending}
  {history : History Progress}

theorem Fills.pauses {room : Nat} {block : Bytes} {outcome : Reply Unit}
    (fills : Fills room block outcome history) : history.pauses = [] := by
  refine List.filterMap_eq_nil_iff.2 fun entry member => ?_
  obtain ⟨_, _, _, _, rfl⟩ := fills.eq_read_of_mem member
  rfl

theorem Sends.pauses {block : Bytes} {outcome : Reply Unit}
    (sends : Sends forwarder observer block outcome history) : history.pauses = [] := by
  refine List.filterMap_eq_nil_iff.2 fun entry member => ?_
  rcases sends.eq_write_or_note_of_mem member with ⟨_, _, _, _, _, rfl⟩ | ⟨_, rfl⟩ <;> rfl

theorem Copies.pauses {report : Report} (copies : Copies forwarder observer report ending history) :
    history.pauses = [] := by
  induction copies with
  | ended fills => exact fills.pauses
  | readFailed fills => exact fills.pauses
  | readCrashed fills => exact fills.pauses
  | writeFailed fills nonempty sends => rw [History.pauses_append, fills.pauses, sends.pauses]; rfl
  | writeCrashed fills nonempty sends => rw [History.pauses_append, fills.pauses, sends.pauses]; rfl
  | block fills nonempty sends rest inductionHypothesis =>
    rw [History.ofBlock_append, History.pauses_append, History.pauses_append, fills.pauses,
      sends.pauses, History.pauses_append, History.pauses_append, Observer.pauses_note,
      Observer.pauses_event, inductionHypothesis]
    rfl

/-- A transfer pauses once, for as long as its output is to settle, or it does not get that far. -/
theorem Transfers.pauses (transfers : Transfers forwarder observer ending history) :
    history.pauses = [forwarder.settle] ∨
      history.pauses = [] ∧ ∀ report, ending ≠ .sent report := by
  cases transfers with
  | refused short => exact .inr ⟨rfl, nofun⟩
  | stopped enough copies stops => exact .inr ⟨copies.pauses, stops⟩
  | settled enough copies settles =>
    rw [History.pauses_append, copies.pauses, List.nil_append]
    cases settles with
    | stopped reply stops =>
      refine .inr ⟨?_, fun report sent => ?_⟩
      · rw [History.pauses_append, Observer.pauses_note]
        rfl
      · cases reply with
        | gave value => exact stops rfl
        | failed fault => cases sent
        | crashed => cases sent
    | settled reply =>
      left
      rw [History.pauses_append, History.pauses_append, Observer.pauses_note]
      show History.pauses (observer.event Progress.settling ++ [.pause forwarder.settle]) ++ [] = _
      rw [History.pauses_append, Observer.pauses_event]
      rfl

end Transfers

namespace CommandLine

/-! ### Runs that get as far as sending -/

/-- Whether a command line gets as far as sending on a machine: it is understood and does not ask
for the list of ports, and no stage before the transfer fails. The input is then sent with a
configuration. -/
structure Reaches (host : Host) (texts : List String) (arguments : Arguments)
    (config : ForwardConfig) : Prop where
  understood : Arguments.ofTexts texts = .ok arguments
  plain : arguments.list = false
  ready : ∃ port baud block, arguments.positional? = some (port, baud, block) ∧
    stages host arguments port baud block = .ok config

variable {environment : Option Verbosity} {host : Host} {ports : List PortInfo} {input : Source}
  {texts : List String} {arguments : Arguments} {config : ForwardConfig}

/-- The delay and the deadline with which the input is sent. -/
theorem times_of_stages {port baud block : String}
    (passed : stages host arguments port baud block = .ok config) :
    ∃ found, Settings.load host arguments.config = .ok found ∧
      config.settle =
        ((arguments.settle.or found.settings.settle).map UInt64.toNat).getD defaultSettle ∧
      config.writeTimeout = found.settings.timeout.map UInt64.toNat := by
  have course := stages_course host arguments port baud block
  rw [passed] at course
  cases course with
  | @ready start applied found built loaded suited opens =>
    obtain ⟨speed, size, _, _, rfl⟩ := ForwardConfig.ofTexts_eq_ok.1 built
    obtain rfl := Settings.eq_overwrite_of_apply suited
    refine ⟨found, loaded, ?_, ?_⟩
    · cases given : arguments.settle with
      | none => simp only [Arguments.settled, given, Option.none_or, Settings.overwrite]
      | some settle => simp [Arguments.settled, given, ForwardConfig.withSettle]
    · cases given : arguments.settle with
      | none => simp only [Arguments.settled, given, Settings.overwrite, Option.or_none]
      | some settle =>
        simp only [Arguments.settled, given, ForwardConfig.withSettle, Settings.overwrite,
          Option.or_none]

theorem Reaches.run_eq (reaches : Reaches host texts arguments config) :
    run environment host ports input texts =
      forward ⟨environment.getD arguments.verbosity, false⟩ host input arguments := by
  simp only [run, reaches.understood, reaches.plain, Bool.false_eq_true, if_false]

/-- A run that gets as far as sending does what the transfer does. -/
theorem Reaches.follows (reaches : Reaches host texts arguments config) :
    (run environment host ports input texts).Follows input
      ((Forwarder.ofConfig config).transfer ⟨environment.getD arguments.verbosity, false⟩ input
        host.line) := by
  obtain ⟨port, baud, block, given, passed⟩ := reaches.ready
  obtain ⟨conclusion, source, calls⟩ :=
    forward_of_ok ⟨environment.getD arguments.verbosity, false⟩ input given passed
  have ran : run environment host ports input texts = _ := reaches.run_eq
  rw [← ran] at conclusion source calls
  exact Outcome.follows_transfer _ _ input host.line conclusion source calls

/-- Over an opened port there are no other pauses than those of the transfer. -/
theorem pauses_send (observer : Observer) (input : Source)
    (opens : host.openPort config.serial.port = .ok ()) :
    (send observer host input config).history.pauses =
      ((Forwarder.ofConfig config).transfer observer input host.line).history.pauses := by
  let connection : Connection Link := ⟨config.serial.port, host.line⟩
  let held := (Forwarder.ofConfig config).transfer observer input connection
  obtain ⟨_, _, _, history⟩ :=
    transfer_connection (Forwarder.ofConfig config) observer input connection
  have course : (send observer host input config).history =
      observer.note (.forwarding config.serial.port config.serial.baud config.blockSize.bytes) ++
        ((Opening.opened connection (some config.serial.baud)).history observer ++ held.history ++
          Connection.close observer connection.name ++ (conclude observer held.ending).2) := by
    simp only [send, Host.openLine, opens]
    rfl
  have silent : History.pauses (conclude observer held.ending).2 = [] := by
    unfold conclude
    split
    · exact observer.pauses_note _
    · rfl
    · rfl
  rw [course, show (Forwarder.transfer _ observer input host.line).history = _ from history]
  simp only [History.pauses_append, Observer.pauses_note, Opening.pauses_history,
    Connection.pauses_close, silent, List.nil_append, List.append_nil, held]

/-- A run that gets as far as sending pauses as its transfer does. -/
theorem pauses_forward (observer : Observer) (input : Source) {port baud block : String}
    (given : arguments.positional? = some (port, baud, block))
    (passed : stages host arguments port baud block = .ok config) :
    (forward observer host input arguments).history.pauses =
      ((Forwarder.ofConfig config).transfer observer input host.line).history.pauses := by
  have course := stages_course host arguments port baud block
  rw [passed] at course
  cases course with
  | @ready start applied found built loaded suited opens =>
    have samePort : (arguments.settled applied).serial.port = port := port_settled built suited
    have quiet : History.pauses (found.history observer : History Progress) = [] := by
      refine List.filterMap_eq_nil_iff.2 fun entry member => ?_
      exact Entry.pause?_of_isNote (Settings.Found.isNote_of_mem_history member)
    rw [← samePort] at opens
    rw [forward_of_built observer input given built,
      configure_of_suitable observer input loaded suited, Outcome.after, History.pauses_append,
      quiet, List.nil_append]
    exact pauses_send observer input opens

/-- A run that calls a device gets as far as sending. -/
theorem exists_reaches (calls : (run environment host ports input texts).history.calls ≠ []) :
    ∃ arguments config, Reaches host texts arguments config := by
  cases understood : Arguments.ofTexts texts with
  | error stop =>
    refine absurd ?_ calls
    rw [run, understood]
    cases stop <;> rfl
  | ok arguments =>
    cases plain : arguments.list with
    | true =>
      refine absurd ?_ calls
      simp only [run, understood, plain, if_true]
      rfl
    | false =>
      obtain ⟨port, baud, block, given⟩ := exists_positional?_of_ofTexts understood plain
      cases passed : stages host arguments port baud block with
      | ok config => exact ⟨arguments, config, understood, plain, port, baud, block, given, passed⟩
      | error failed =>
        obtain ⟨stage, failure⟩ := failed
        let observer : Observer := ⟨environment.getD arguments.verbosity, false⟩
        obtain ⟨history, records, course⟩ := forward_of_error observer given passed
        have here := course host input (.refl stage arguments port host)
        refine absurd ?_ calls
        have silent : history.calls = [] := by
          refine List.filterMap_eq_nil_iff.2 fun entry member => ?_
          rcases records entry member with isNote | ⟨_, rfl⟩
          · cases entry with
            | note record => rfl
            | _ => cases isNote
          · rfl
        simp only [run, understood, plain, Bool.false_eq_true, if_false]
        rw [here]
        exact silent

/-! ### The one source -/

/-- Settings come from one source. If a path is given it is what lies there: machines that agree on
that load the same, and what cannot be read or is malformed is an error. If none is given it is the
per-user file: machines that agree on that load the same, a regular file is loaded as if it were
named, and without one there are no settings. Take any run then. It calls a device only if it gets
as far as sending. If it does, its settings were found; its settle delay is the one on the command
line, or else the one of these settings, or else the default; its deadline is that of these settings
or none; it does what a transfer with this delay and this deadline does, and it pauses for this
delay, if at all, and once if everything is sent. -/
theorem settings_of_one_source (host : Host) :
    (∀ path,
      (∀ other, host.AgreeAt path other →
        Settings.load other (some path) = Settings.load host (some path)) ∧
      match host.readText path with
      | .error fault => Settings.load host (some path) = .error (.unreadable path fault)
      | .ok text =>
        match Settings.ofText text with
        | .error complaint => Settings.load host (some path) = .error (.malformed path complaint)
        | .ok settings => Settings.load host (some path) = .ok ⟨settings, some path⟩) ∧
    (∀ other, other.userFile? = host.userFile? →
      (∀ path, host.userFile? = some path → host.AgreeAt path other) →
        Settings.load other none = Settings.load host none) ∧
    (∀ path, host.userFile? = some path → host.IsRegular path →
      Settings.load host none =
        (Settings.ofFile host path).map fun settings => ⟨settings, some path⟩) ∧
    ((∀ path, host.userFile? = some path → ¬ host.IsRegular path) →
      Settings.load host none = .ok ⟨{}, none⟩) ∧
    ∀ environment ports input texts,
      let outcome := run environment host ports input texts
      (outcome.history.calls ≠ [] → ∃ arguments config, Reaches host texts arguments config) ∧
      ∀ arguments config, Reaches host texts arguments config →
        let forwarder := Forwarder.ofConfig config
        ∃ found, Settings.load host arguments.config = .ok found ∧
          forwarder.settle =
            ((arguments.settle.or found.settings.settle).map UInt64.toNat).getD defaultSettle ∧
          forwarder.writeTimeout = found.settings.timeout.map UInt64.toNat ∧
          outcome.Follows input (forwarder.transfer
            ⟨environment.getD arguments.verbosity, false⟩ input host.line) ∧
          (∀ pause ∈ outcome.history.pauses, pause = forwarder.settle) ∧
          ∀ report, outcome.conclusion = .sent report →
            outcome.history.pauses = [forwarder.settle] := by
  refine ⟨fun path => ⟨fun other agree => ?_, ?_⟩, fun other => Settings.load_none_agree,
    fun path user regular => ?_, Settings.load_none_of_not,
    fun environment ports input texts => ⟨exists_reaches, fun arguments config reaches => ?_⟩⟩
  · rw [Settings.load_some, Settings.load_some, Settings.ofFile_agree agree]
  · rw [Settings.load_some, Settings.ofFile_eq]
    cases host.readText path with
    | error fault => rfl
    | ok text => cases read : Settings.ofText text <;> simp only [read] <;> rfl
  · rw [Settings.load_none_of_isRegular user regular, Settings.load_some]
  · intro forwarder
    obtain ⟨port, baud, block, given, passed⟩ := reaches.ready
    obtain ⟨found, loaded, settle, deadline⟩ := times_of_stages passed
    let observer : Observer := ⟨environment.getD arguments.verbosity, false⟩
    have pauses : (run environment host ports input texts).history.pauses =
        (forwarder.transfer observer input host.line).history.pauses := by
      rw [reaches.run_eq]
      exact pauses_forward observer input given passed
    have course := (transfer_transfers forwarder observer input host.line).pauses
    refine ⟨found, loaded, settle, deadline, reaches.follows, ?_, fun report sent => ?_⟩
    · rw [pauses]
      rcases course with once | ⟨never, _⟩
      · rw [once]
        exact fun pause member => List.mem_singleton.1 member
      · rw [never]
        exact fun pause member => nomatch member
    · rw [pauses]
      have follows : (run environment host ports input texts).Follows input _ := reaches.follows
      have printed : (run environment host ports input texts).conclusion.printed = success := by
        rw [sent]
        rfl
      obtain ⟨total, ended⟩ := follows.printed.1 printed
      exact course.resolve_right fun unsent => unsent.2 total ended

/-- A machine with a serial port, a settings file in the directory in which programs run, and a
per-user settings file. -/
def machineOfTwoFiles : Host where
  tree place :=
    if place = ["ttyUSB0"] then some .terminal
    else if place = ["line.json"] then some (.file (Text.utf8 "\x7b\"settle_ms\":5\x7d".toList))
    else if place = ["home", "blocksend", "config.json"] then
      some (.file (Text.utf8 "\x7b\"settle_ms\":7,\"timeout_ms\":9\x7d".toList))
    else if place ∈ [[], ["home"], ["home", "blocksend"]] then some .directory
    else none
  configHome := some "home"

/-- A file that is named hides the per-user file, also where it says nothing. Of the per-user file a
delay on the command line hides the delay alone. -/
theorem settings_of_one_source_machineOfTwoFiles :
    let named : Arguments :=
      { serialPort := some "ttyUSB0", baudRate := some "9600", blockSize := some "4"
        config := some "line.json" }
    let delayed : Arguments :=
      { serialPort := some "ttyUSB0", baudRate := some "9600", blockSize := some "4"
        settle := some 3 }
    ∃ first second,
      Reaches machineOfTwoFiles ["--config", "line.json", "ttyUSB0", "9600", "4"] named first ∧
        first.settle = 5 ∧ first.writeTimeout = none ∧
      Reaches machineOfTwoFiles ["ttyUSB0", "9600", "4", "--settle-ms=3"] delayed second ∧
        second.settle = 3 ∧ second.writeTimeout = some 9 := by
  intro named delayed
  have oneSource := settings_of_one_source machineOfTwoFiles
  have loadNamed : Settings.load machineOfTwoFiles (some "line.json") =
      .ok ⟨{ settle := some 5 }, some "line.json"⟩ := by
    have holds : machineOfTwoFiles.Holds "line.json" "\x7b\"settle_ms\":5\x7d".toList :=
      ⟨rfl, _, rfl, rfl⟩
    have text : Settings.ofText (String.ofList "\x7b\"settle_ms\":5\x7d".toList) =
        .ok { settle := some 5 } := by cbv
    rw [Settings.load_some, Settings.ofFile_of_holds holds, text]
    rfl
  have loadUser : Settings.load machineOfTwoFiles none =
      .ok ⟨{ settle := some 7, timeout := some 9 }, some "home/blocksend/config.json"⟩ := by
    have holds : machineOfTwoFiles.Holds "home/blocksend/config.json"
        "\x7b\"settle_ms\":7,\"timeout_ms\":9\x7d".toList := ⟨rfl, _, rfl, rfl⟩
    have text : Settings.ofText
        (String.ofList "\x7b\"settle_ms\":7,\"timeout_ms\":9\x7d".toList) =
        .ok { settle := some 7, timeout := some 9 } := by cbv
    have regular : machineOfTwoFiles.IsRegular "home/blocksend/config.json" :=
      ⟨rfl, _, rfl, rfl⟩
    rw [oneSource.2.2.1 "home/blocksend/config.json" rfl regular, Settings.ofFile_of_holds holds,
      text]
    rfl
  have runs := oneSource.2.2.2.2 none [] { pending := [] }
  let first : ForwardConfig :=
    { serial := { port := "ttyUSB0", baud := 9600 }, blockSize := ⟨4, by decide⟩, settle := 5 }
  let second : ForwardConfig :=
    { serial := { port := "ttyUSB0", baud := 9600, timeout := 9 }, blockSize := ⟨4, by decide⟩
      settle := 3, writeTimeout := some 9 }
  have readyNamed : stages machineOfTwoFiles named "ttyUSB0" "9600" "4" = .ok first := by
    unfold stages
    rw [show named.config = some "line.json" from rfl, loadNamed]
    rfl
  have readyDelayed : stages machineOfTwoFiles delayed "ttyUSB0" "9600" "4" = .ok second := by
    unfold stages
    rw [show delayed.config = none from rfl, loadUser]
    rfl
  have reachesNamed : Reaches machineOfTwoFiles _ named first :=
    ⟨(by decide : Arguments.ofTexts ["--config", "line.json", "ttyUSB0", "9600", "4"] = .ok named),
      rfl, _, _, _, rfl, readyNamed⟩
  have reachesDelayed : Reaches machineOfTwoFiles _ delayed second :=
    ⟨(by decide : Arguments.ofTexts ["ttyUSB0", "9600", "4", "--settle-ms=3"] = .ok delayed),
      rfl, _, _, _, rfl, readyDelayed⟩
  obtain ⟨_, loaded, settle, deadline, _⟩ := (runs _).2 named first reachesNamed
  cases loadNamed.symm.trans loaded
  obtain ⟨_, loadedUser, settleUser, deadlineUser, _⟩ := (runs _).2 delayed second reachesDelayed
  cases loadUser.symm.trans loadedUser
  exact ⟨first, second, reachesNamed, settle, deadline, reachesDelayed, settleUser, deadlineUser⟩

end CommandLine

end SerialFeed
