/-
This file says what a run of the program comes to. A run that sends the input goes through stages:
the numbers of the command line are read, the settings are found, they are applied, the port is
opened, and the input is sent. The first stage that fails decides, and what later stages would look
at makes no difference: no stage behind it leaves a trace, and nothing of the input is read. If no
stage fails, the run does what a transfer over the opened port does, and says how that ended.
-/

import SerialFeed.CommandLine.Outcome
import SerialFeed.Proofs.Blocks
import SerialFeed.Proofs.Configuration
import SerialFeed.Proofs.Positionals
import SerialFeed.Proofs.Service

namespace SerialFeed

/-! ### Records -/

theorem Observer.isNote_of_mem_note {Event : Type} {observer : Observer} {record : Note}
    {entry : Entry Event} (member : entry ∈ observer.note record) : entry.isNote = true :=
  eq_of_mem_note member ▸ rfl

/-- Records are no calls. -/
theorem History.calls_eq_nil {Event : Type} {history : History Event}
    (notes : ∀ entry ∈ history, entry.isNote = true) : history.calls = [] := by
  refine List.filterMap_eq_nil_iff.2 fun entry member => ?_
  have note := notes entry member
  cases entry with
  | note record => rfl
  | _ => cases note

theorem Settings.Found.isNote_of_mem_history {Event : Type} {observer : Observer} {found : Found}
    {entry : Entry Event} (member : entry ∈ found.history observer) : entry.isNote = true := by
  unfold history at member
  split at member
  · cases member
  · exact Observer.isNote_of_mem_note member

namespace CommandLine

/-! ### The stages before the transfer -/

/-- A stage of a run before the transfer. -/
inductive Stage where
  | numbers
  | settings
  | suitability
  | opening
  deriving DecidableEq

namespace Stage

/-- Carries out a stage. If it fails, the run fails at this stage. -/
def attempt {Trouble Value : Type} (stage : Stage) (failure : Trouble → Failure)
    (result : Except Trouble Value) : Except (Stage × Failure) Value :=
  result.mapError fun trouble => (stage, failure trouble)

/-- Whether two machines agree on all that is looked at up to a stage. -/
structure Agree (stage : Stage) (arguments : Arguments) (port : String) (host other : Host) :
    Prop where
  settings : stage ≠ .numbers →
    Settings.load other arguments.config = Settings.load host arguments.config
  opening : stage = .opening → other.openPort port = host.openPort port

theorem Agree.refl (stage : Stage) (arguments : Arguments) (port : String) (host : Host) :
    stage.Agree arguments port host host :=
  ⟨fun _ => rfl, fun _ => rfl⟩

end Stage

/-- The configuration after the settings: a settle delay on the command line replaces theirs. -/
def Arguments.settled (arguments : Arguments) (config : ForwardConfig) : ForwardConfig :=
  match arguments.settle with
  | none => config
  | some settle => config.withSettle settle.toNat

/-- The stages of a run before the transfer, one after the other: the first failure, and the stage
at which it comes, or the configuration with which the input is sent. -/
def stages (host : Host) (arguments : Arguments) (port baud block : String) :
    Except (Stage × Failure) ForwardConfig := do
  let start ← Stage.numbers.attempt .forward (ForwardConfig.ofTexts port baud block)
  let found ← Stage.settings.attempt .settings (Settings.load host arguments.config)
  let (config, suited) := found.settings.apply start
  Stage.suitability.attempt .unsuitable suited
  Stage.opening.attempt (fun fault => .forward (.openFailed port fault)) (host.openPort port)
  return arguments.settled config

/-- How the stages before the transfer can go, with one constructor for each stage that can be the
first to fail, and one for none. -/
inductive Course (host : Host) (arguments : Arguments) (port baud block : String) :
    Except (Stage × Failure) ForwardConfig → Prop where
  | numbers {error : ForwardError}
    (wrong : ForwardConfig.ofTexts port baud block = .error error) :
    Course host arguments port baud block (.error (.numbers, .forward error))
  | settings {start : ForwardConfig} {error : SettingsError}
    (built : ForwardConfig.ofTexts port baud block = .ok start)
    (missing : Settings.load host arguments.config = .error error) :
    Course host arguments port baud block (.error (.settings, .settings error))
  | suitability {start applied : ForwardConfig} {found : Settings.Found}
    {setting : Settings.Unsuitable}
    (built : ForwardConfig.ofTexts port baud block = .ok start)
    (loaded : Settings.load host arguments.config = .ok found)
    (unsuited : found.settings.apply start = (applied, .error setting)) :
    Course host arguments port baud block (.error (.suitability, .unsuitable setting))
  | opening {start applied : ForwardConfig} {found : Settings.Found} {fault : OpenFault}
    (built : ForwardConfig.ofTexts port baud block = .ok start)
    (loaded : Settings.load host arguments.config = .ok found)
    (suited : found.settings.apply start = (applied, .ok ()))
    (closed : host.openPort port = .error fault) :
    Course host arguments port baud block (.error (.opening, .forward (.openFailed port fault)))
  | ready {start applied : ForwardConfig} {found : Settings.Found}
    (built : ForwardConfig.ofTexts port baud block = .ok start)
    (loaded : Settings.load host arguments.config = .ok found)
    (suited : found.settings.apply start = (applied, .ok ()))
    (opens : host.openPort port = .ok ()) :
    Course host arguments port baud block (.ok (arguments.settled applied))

theorem stages_course (host : Host) (arguments : Arguments) (port baud block : String) :
    Course host arguments port baud block (stages host arguments port baud block) := by
  unfold stages
  cases built : ForwardConfig.ofTexts port baud block with
  | error error => exact .numbers built
  | ok start =>
    cases loaded : Settings.load host arguments.config with
    | error error => exact .settings built loaded
    | ok found =>
      dsimp only [Stage.attempt, Except.mapError, bind, Except.bind]
      cases suited : found.settings.apply start with
      | mk applied result =>
        cases result with
        | error setting => exact .suitability built loaded suited
        | ok =>
          cases opens : host.openPort port with
          | error fault => exact .opening built loaded suited opens
          | ok => exact .ready built loaded suited opens

/-! ### Sending -/

section Forward

variable (observer : Observer) {host : Host} (input : Source) {arguments : Arguments}
  {port baud block : String}

theorem send_refused {config : ForwardConfig} {fault : OpenFault}
    (closed : host.openPort config.serial.port = .error fault) :
    send observer host input config =
      ⟨.failed (.forward (.openFailed config.serial.port fault)), input,
        observer.note (.forwarding config.serial.port config.serial.baud config.blockSize.bytes) ++
          [.opening]⟩ := by
  rw [send, Host.openLine, closed]
  rfl

/-- Over an opened port the input is sent as a transfer sends it. -/
theorem send_opened {config : ForwardConfig} (opens : host.openPort config.serial.port = .ok ()) :
    let run := (Forwarder.ofConfig config).transfer observer input host.line
    let outcome := send observer host input config
    outcome.conclusion = (conclude observer run.ending).1 ∧ outcome.source = run.source ∧
      outcome.history.calls = run.history.calls := by
  intro run outcome
  let connection : Connection Link := ⟨config.serial.port, host.line⟩
  let held := (Forwarder.ofConfig config).transfer observer input connection
  obtain ⟨source, _, ending, history⟩ : run.source = held.source ∧ run.port = held.port.port ∧
      run.ending = held.ending ∧ run.history = held.history :=
    transfer_connection (Forwarder.ofConfig config) observer input connection
  have course : outcome = ⟨(conclude observer held.ending).1, held.source,
      observer.note (.forwarding config.serial.port config.serial.baud config.blockSize.bytes) ++
        ((Opening.opened connection (some config.serial.baud)).history observer ++ held.history ++
          Connection.close observer connection.name ++ (conclude observer held.ending).2)⟩ := by
    simp only [outcome, send, Host.openLine, opens]
    rfl
  have silent : History.calls (conclude observer held.ending).2 = [] := by
    unfold conclude
    split
    · exact observer.calls_note _
    · rfl
    · rfl
  rw [course, source, ending, history]
  refine ⟨rfl, rfl, ?_⟩
  simp only [History.calls_append, Observer.calls_note, silent,
    ((Opening.opened connection (some config.serial.baud)).history_quiet Progress observer).1,
    (Connection.close_quiet Progress observer connection.name).1, List.append_nil, List.nil_append]

/-! ### From the command line to the port -/

theorem forward_of_wrong (given : arguments.positional? = some (port, baud, block))
    {error : ForwardError} (wrong : ForwardConfig.ofTexts port baud block = .error error) :
    forward observer host input arguments = ⟨.failed (.forward error), input, []⟩ := by
  rw [forward]
  simp only [given, wrong]

theorem forward_of_built (given : arguments.positional? = some (port, baud, block))
    {start : ForwardConfig} (built : ForwardConfig.ofTexts port baud block = .ok start) :
    forward observer host input arguments = configure observer host input arguments start := by
  rw [forward]
  simp only [given, built]

theorem configure_of_missing {start : ForwardConfig} {error : SettingsError}
    (missing : Settings.load host arguments.config = .error error) :
    configure observer host input arguments start = ⟨.failed (.settings error), input, []⟩ := by
  rw [configure, missing]

theorem configure_of_unsuitable {start applied : ForwardConfig} {found : Settings.Found}
    {setting : Settings.Unsuitable} (loaded : Settings.load host arguments.config = .ok found)
    (unsuited : found.settings.apply start = (applied, .error setting)) :
    configure observer host input arguments start =
      ⟨.failed (.unsuitable setting), input, found.history observer⟩ := by
  rw [configure, loaded]
  simp only [unsuited, Outcome.after, List.append_nil]

theorem configure_of_suitable {start applied : ForwardConfig} {found : Settings.Found}
    (loaded : Settings.load host arguments.config = .ok found)
    (suited : found.settings.apply start = (applied, .ok ())) :
    configure observer host input arguments start =
      Outcome.after (found.history observer)
        (send observer host input (arguments.settled applied)) := by
  rw [configure, loaded]
  simp only [suited, Arguments.settled]
  cases arguments.settle <;> rfl

/-- The settings leave the port alone. -/
theorem port_settled {start applied : ForwardConfig} {settings : Settings}
    {result : Except Settings.Unsuitable Unit}
    (built : ForwardConfig.ofTexts port baud block = .ok start)
    (settled : settings.apply start = (applied, result)) :
    (arguments.settled applied).serial.port = port := by
  have keeps : ForwardConfig.Keeps start applied := by
    have kept := (ForwardConfig.keeps_of_ofTexts built).apply settings
    rw [settled] at kept
    exact kept
  obtain ⟨speed, size, _, _, rfl⟩ := ForwardConfig.ofTexts_eq_ok.1 built
  unfold Arguments.settled
  split
  · exact keeps.port
  · exact (keeps.withSettle _).port

/-- A run that fails at a stage before the transfer reports that, and writes some records. It asks
for the port only at the last of these stages, and it looks at nothing that comes later. -/
theorem forward_of_error (given : arguments.positional? = some (port, baud, block)) {stage : Stage}
    {failure : Failure} (failed : stages host arguments port baud block = .error (stage, failure)) :
    ∃ history : History Progress,
      (∀ entry ∈ history, entry.isNote = true ∨ stage = .opening ∧ entry = .opening) ∧
      ∀ other rest, stage.Agree arguments port host other →
        forward observer other rest arguments = ⟨.failed failure, rest, history⟩ := by
  have course := stages_course host arguments port baud block
  rw [failed] at course
  cases course with
  | numbers wrong =>
    exact ⟨[], nofun, fun other rest _ => forward_of_wrong observer rest given wrong⟩
  | settings built missing =>
    refine ⟨[], nofun, fun other rest agree => ?_⟩
    rw [forward_of_built observer rest given built]
    exact configure_of_missing observer rest ((agree.settings nofun).trans missing)
  | @suitability start applied found setting built loaded unsuited =>
    refine ⟨found.history observer, fun entry member => .inl ?_, fun other rest agree => ?_⟩
    · exact Settings.Found.isNote_of_mem_history member
    · rw [forward_of_built observer rest given built]
      exact configure_of_unsuitable observer rest ((agree.settings nofun).trans loaded) unsuited
  | @opening start applied found fault built loaded suited closed =>
    have samePort : (arguments.settled applied).serial.port = port := port_settled built suited
    refine ⟨found.history observer ++ (observer.note (.forwarding port
      (arguments.settled applied).serial.baud (arguments.settled applied).blockSize.bytes) ++
        [.opening]), fun entry member => ?_, fun other rest agree => ?_⟩
    · rcases List.mem_append.1 member with early | late
      · exact .inl (Settings.Found.isNote_of_mem_history early)
      · rcases List.mem_append.1 late with record | last
        · exact .inl (Observer.isNote_of_mem_note record)
        · exact .inr ⟨rfl, List.mem_singleton.1 last⟩
    · have refused : other.openPort (arguments.settled applied).serial.port = .error fault := by
        rw [samePort, agree.opening rfl, closed]
      rw [forward_of_built observer rest given built,
        configure_of_suitable observer rest ((agree.settings nofun).trans loaded) suited,
        send_refused observer rest refused, samePort]
      rfl

/-- A run that passes all stages before the transfer does what the transfer does. -/
theorem forward_of_ok (given : arguments.positional? = some (port, baud, block))
    {config : ForwardConfig} (passed : stages host arguments port baud block = .ok config) :
    let run := (Forwarder.ofConfig config).transfer observer input host.line
    let outcome := forward observer host input arguments
    outcome.conclusion = (conclude observer run.ending).1 ∧ outcome.source = run.source ∧
      outcome.history.calls = run.history.calls := by
  have course := stages_course host arguments port baud block
  rw [passed] at course
  cases course with
  | @ready start applied found built loaded suited opens =>
    have quiet : History.calls (found.history observer : History Progress) = [] :=
      History.calls_eq_nil fun _ => Settings.Found.isNote_of_mem_history
    have samePort : (arguments.settled applied).serial.port = port := port_settled built suited
    rw [← samePort] at opens
    intro run outcome
    obtain ⟨conclusion, source, calls⟩ := send_opened observer input opens
    have course : outcome = Outcome.after (found.history observer)
        (send observer host input (arguments.settled applied)) :=
      (forward_of_built observer input given built).trans
        (configure_of_suitable observer input loaded suited)
    rw [course]
    refine ⟨conclusion, source, ?_⟩
    rw [Outcome.after, History.calls_append, quiet, List.nil_append]
    exact calls

end Forward

/-! ### What a run comes to -/

/-- What is printed when everything was sent. -/
def success : String :=
  "Data sent successfully.\n"

theorem Conclusion.printed_failed_ne (failure : Failure) : (failed failure).printed ≠ success := by
  intro same
  have printed : (failed failure).printed = "An error occurred: " ++ failure.line ++ "\n" := rfl
  have first : ("An error occurred: ".toList ++ (failure.line.toList ++ "\n".toList)).head? =
      success.toList.head? := by
    rw [← same, printed, String.toList_append, String.toList_append, List.append_assoc]
  rw [List.head?_append] at first
  simp [success] at first

/-- Success is printed only where everything was sent. -/
theorem printed_conclude (observer : Observer) (ending : Ending) :
    (conclude observer ending).1.printed = success ↔ ∃ report, ending = .sent report := by
  cases ending with
  | sent report => exact iff_of_true rfl ⟨report, rfl⟩
  | failed error => exact iff_of_false (Conclusion.printed_failed_ne _) nofun
  | crashed =>
    have silent : Conclusion.crashed.printed ≠ success := by decide
    exact iff_of_false silent nofun

theorem exitCode_conclude (observer : Observer) {ending : Ending} (survives : ending ≠ .crashed) :
    (conclude observer ending).1.exitCode = 0 := by
  cases ending with
  | sent report => rfl
  | failed error => rfl
  | crashed => exact absurd rfl survives

/-- Whether a run reports a failure: with all its causes in one line, and as no failure of the
program itself. -/
structure Outcome.Reports (outcome : Outcome) (failure : Failure) : Prop where
  conclusion : outcome.conclusion = .failed failure
  printed : outcome.conclusion.printed = "An error occurred: " ++
    String.intercalate ": " (failure.message :: failure.causes) ++ "\n"
  exitCode : outcome.conclusion.exitCode = 0

theorem Outcome.reports_of_conclusion {outcome : Outcome} {failure : Failure}
    (failed : outcome.conclusion = .failed failure) : outcome.Reports failure := by
  refine ⟨failed, ?_, ?_⟩
  · rw [failed]
    rfl
  · rw [failed]
    rfl

/-- Whether a run of the program does what a transfer does, and says how it ended. -/
structure Outcome.Follows (outcome : Outcome) (input : Source) (run : Run Link) : Prop where
  source : outcome.source = run.source
  calls : outcome.history.calls = run.history.calls
  printed : outcome.conclusion.printed = success ↔ ∃ report, run.ending = .sent report
  sent : ∀ report, run.ending = .sent report →
    outcome.conclusion = .sent report ∧ outcome.history.accepted = run.history.delivered ∧
      run.history.delivered ++ outcome.source.pending = input.pending ∧
      (∃ before room after, run.history = before ++ .read room (.gave []) :: after ∧
        History.ReadFree after) ∧
      (input.Steady → outcome.source.pending = [])
  failed : ∀ error, run.ending = .failed error → outcome.Reports (.forward error)
  /-- Only a device that crashes takes the program with it. -/
  exitCode : ¬ outcome.history.Crashes → outcome.conclusion.exitCode = 0

theorem Outcome.follows_transfer {outcome : Outcome} (forwarder : Forwarder) (observer : Observer)
    (input : Source) (port : Link)
    (conclusion : outcome.conclusion =
      (conclude observer (forwarder.transfer observer input port).ending).1)
    (source : outcome.source = (forwarder.transfer observer input port).source)
    (calls : outcome.history.calls = (forwarder.transfer observer input port).history.calls) :
    outcome.Follows input (forwarder.transfer observer input port) := by
  generalize ran : forwarder.transfer observer input port = run at conclusion source calls ⊢
  have transfers : Transfers forwarder observer run.ending run.history :=
    ran ▸ transfer_transfers forwarder observer input port
  refine ⟨source, calls, ?_, fun report sent => ?_, fun error failed => ?_, fun calm => ?_⟩
  · rw [conclusion]
    exact printed_conclude observer run.ending
  · obtain ⟨copying, settling, joined, copied, readFree, _, _⟩ := transfers.sent sent
    obtain ⟨before, room, lastRead⟩ := copied.exists_last_read
    obtain ⟨lost, whole, loses⟩ := transfers.integrity
    rw [sent] at loses
    rw [show lost = [] from loses, List.append_nil] at whole
    refine ⟨?_, (accepted_eq_of_calls calls).trans whole.symm, ?_, ⟨before, room, settling, ?_,
      readFree⟩, fun steady => ?_⟩
    · rw [conclusion, sent]
      rfl
    · rw [source, ← ran]
      exact transfer_taken forwarder observer input port
    · rw [joined, lastRead, List.append_assoc]
      rfl
    · rw [source, ← ran]
      exact (transfer_steady forwarder observer steady port (ran ▸ sent)).2
  · rw [failed] at conclusion
    exact Outcome.reports_of_conclusion conclusion
  · rw [conclusion]
    refine exitCode_conclude observer fun crashed => calm ?_
    exact (crashes_iff_of_calls calls).2 (transfers.crashes_iff.2 crashed)

/-- A machine with one serial port, and nothing else. -/
def bareMachine : Host where
  tree place :=
    if place = [] then some .directory
    else if place = ["ttyUSB0"] then some .terminal
    else none

end CommandLine

end SerialFeed
