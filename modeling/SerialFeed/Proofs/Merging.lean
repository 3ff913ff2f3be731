/-
This file says what becomes of a configuration that is changed several times. Settings can be merged
field by field, and where both have a field the later ones win. Applying the merged settings does
then what applying one after the other does, whatever is in them, and another settle delay or
another deadline for a block is a change by settings in which nothing else is present. So it is
enough to look at the last change of each field, and a configuration forgets in which steps it was
changed.

Settings that do not suit a serial line fit into this as well. They do what some of them would do by
themselves, and these are the same for every configuration.
-/

import SerialFeed.Proofs.Applying
import SerialFeed.Proofs.Fields

namespace SerialFeed

namespace Settings

/-! ### Settings that are merged -/

/-- What two settings come to, of which the later win. -/
def merge (earlier later : Settings) : Settings where
  dataBits := later.dataBits.or earlier.dataBits
  parity := later.parity.or earlier.parity
  stopBits := later.stopBits.or earlier.stopBits
  flowControl := later.flowControl.or earlier.flowControl
  timeout := later.timeout.or earlier.timeout
  settle := later.settle.or earlier.settle

/-- What many settings come to, of which the last win. -/
def mergeAll (all : List Settings) : Settings :=
  all.foldl merge {}

/-- Whether no field is present in both. -/
def Disjoint (one other : Settings) : Prop :=
  ∀ field, one.has field = true → other.has field = false

theorem get_merge (earlier later : Settings) (field : Field) :
    (earlier.merge later).get field = (later.get field).or (earlier.get field) := by
  cases field <;> rfl

theorem merge_self (settings : Settings) : settings.merge settings = settings :=
  eq_of_get fun field => by rw [get_merge, Option.or_self]

/-- Which of two settings is the later is no question where no field is in both. -/
theorem merge_comm {one other : Settings} (disjoint : one.Disjoint other) :
    one.merge other = other.merge one := by
  refine eq_of_get fun field => ?_
  rw [get_merge, get_merge]
  cases value : one.get field with
  | none => rw [Option.or_none, Option.none_or]
  | some _ =>
    have absent : other.has field = false := disjoint field (by rw [has, value]; rfl)
    rw [Option.isNone_iff_eq_none.1 (Option.isSome_eq_false_iff.1 absent), Option.none_or,
      Option.or_none]

theorem Suit.empty : Suit {} :=
  ⟨nofun, nofun⟩

theorem Suit.merge {earlier later : Settings} (suitEarlier : earlier.Suit)
    (suitLater : later.Suit) : (earlier.merge later).Suit where
  dataBits number given := by
    rcases Option.or_eq_some_iff.1 given with last | ⟨_, first⟩
    · exact suitLater.dataBits number last
    · exact suitEarlier.dataBits number first
  stopBits number given := by
    rcases Option.or_eq_some_iff.1 given with last | ⟨_, first⟩
    · exact suitLater.stopBits number last
    · exact suitEarlier.stopBits number first

/-! ### Overwriting twice -/

/-- A value that is chosen from the later of two options, if they are read alike. -/
theorem getD_bind_or {Number Value : Type} (read : Number → Option Value)
    (earlier : Option Number) {later : Option Number} (default : Value)
    (known : ∀ number, later = some number → ∃ value, read number = some value) :
    ((later.or earlier).bind read).getD default =
      (later.bind read).getD ((earlier.bind read).getD default) := by
  cases later with
  | none => rw [Option.none_or, Option.bind_none, Option.getD_none]
  | some number =>
    obtain ⟨value, reading⟩ := known number rfl
    rw [Option.some_or, Option.bind_some, reading, Option.getD_some, Option.getD_some]

/-- To overwrite a configuration with merged settings is to overwrite it with the earlier ones and
then with the later ones. -/
theorem overwrite_merge (earlier : Settings) {later : Settings} (suit : later.Suit)
    (config : ForwardConfig) :
    (earlier.merge later).overwrite config = later.overwrite (earlier.overwrite config) := by
  have dataBits := getD_bind_or (fun number : UInt8 => DataBits.ofNat? number.toNat)
    earlier.dataBits config.serial.dataBits fun number given => suit.dataBits.known given
  have stopBits := getD_bind_or (fun number : UInt8 => StopBits.ofNat? number.toNat)
    earlier.stopBits config.serial.stopBits fun number given => suit.stopBits.known given
  simp only [overwrite, merge, dataBits, stopBits, Option.getD_or, Option.map_or, Option.or_assoc]

/-! ### What settings come down to -/

/-- Whatever settings are, they do to every configuration what suitable ones among them do, and
whether they fail does not depend on it. -/
theorem exists_effect (settings : Settings) :
    ∃ effect : Settings, ∃ outcome, effect.Suit ∧
      (∀ field, effect.has field = true → settings.has field = true) ∧
      ∀ config, settings.apply config = (effect.overwrite config, outcome) := by
  rcases settings.suit_cases with
    ⟨number, given, unsuitable⟩ | ⟨dataBits, number, given, unsuitable⟩ | suit
  · refine ⟨{}, _, .empty, fun field present => ?_, apply_of_dataBits given unsuitable⟩
    cases field <;> cases present
  · refine ⟨{ dataBits := settings.dataBits }, _, ⟨dataBits, nofun⟩, fun field present => ?_,
      apply_of_stopBits dataBits given unsuitable⟩
    cases field with
    | dataBits => exact present
    | _ => cases present
  · exact ⟨settings, _, suit, fun _ present => present, apply_of_suit suit⟩

theorem Disjoint.of_effects {one other first second : Settings} (disjoint : one.Disjoint other)
    (among : ∀ field, first.has field = true → one.has field = true)
    (amongOther : ∀ field, second.has field = true → other.has field = true) :
    first.Disjoint second := by
  intro field present
  have absent := disjoint field (among field present)
  exact eq_false_of_ne_true fun wrong => ne_true_of_eq_false absent (amongOther field wrong)

theorem apply_apply (settings : Settings) (config : ForwardConfig) :
    settings.apply (settings.apply config).1 = settings.apply config := by
  obtain ⟨effect, outcome, suit, _, does⟩ := settings.exists_effect
  rw [does config, does, ← overwrite_merge effect suit, merge_self]

/-- Settings without a common field can be applied in either order. -/
theorem apply_comm {one other : Settings} (disjoint : one.Disjoint other)
    (config : ForwardConfig) :
    (other.apply (one.apply config).1).1 = (one.apply (other.apply config).1).1 := by
  obtain ⟨first, _, suitFirst, among, doesOne⟩ := one.exists_effect
  obtain ⟨second, _, suitSecond, amongOther, doesOther⟩ := other.exists_effect
  rw [doesOne config, doesOther config, doesOne, doesOther]
  calc second.overwrite (first.overwrite config)
      = (first.merge second).overwrite config := (overwrite_merge first suitSecond config).symm
    _ = (second.merge first).overwrite config := by
      rw [merge_comm (disjoint.of_effects among amongOther)]
    _ = first.overwrite (second.overwrite config) := overwrite_merge second suitFirst config

/-- Whether settings fail does not depend on the configuration. -/
theorem apply_outcome (settings : Settings) (config other : ForwardConfig) :
    (settings.apply config).2 = (settings.apply other).2 := by
  obtain ⟨_, outcome, _, _, does⟩ := settings.exists_effect
  rw [does config, does other]

end Settings

/-! ### Steps -/

namespace ForwardConfig

/-- A step in which a configuration is changed. Times are in milliseconds. -/
inductive Step where
  | apply (settings : Settings)
  | settle (milliseconds : UInt64)
  | writeTimeout (limit : UInt64)

namespace Step

/-- The settings that amount to a step. -/
def toSettings : Step → Settings
  | .apply settings => settings
  | .settle milliseconds => { settle := some milliseconds }
  | .writeTimeout limit => { timeout := some limit }

/-- Takes a step, which fails if its settings do not suit a serial line. -/
def take (config : ForwardConfig) : Step → Except Settings.Unsuitable ForwardConfig
  | .apply settings => do
    (settings.apply config).2
    return (settings.apply config).1
  | .settle milliseconds => .ok (config.withSettle milliseconds.toNat)
  | .writeTimeout limit => .ok (config.withWriteTimeout limit.toNat)

/-- A step that succeeds overwrites the configuration. -/
theorem take_eq_ok {step : Step} {config next : ForwardConfig}
    (taken : step.take config = .ok next) :
    step.toSettings.Suit ∧ next = step.toSettings.overwrite config := by
  cases step with
  | apply settings =>
    simp only [take] at taken
    rcases settings.suit_cases with
      ⟨number, given, unsuitable⟩ | ⟨dataBits, number, given, unsuitable⟩ | suit
    · rw [Settings.apply_of_dataBits given unsuitable] at taken
      cases taken
    · rw [Settings.apply_of_stopBits dataBits given unsuitable] at taken
      cases taken
    · rw [Settings.apply_of_suit suit] at taken
      exact ⟨suit, (Except.ok.inj taken).symm⟩
  | settle milliseconds => exact ⟨⟨nofun, nofun⟩, (Except.ok.inj taken).symm⟩
  | writeTimeout limit => exact ⟨⟨nofun, nofun⟩, (Except.ok.inj taken).symm⟩

/-- Steps that succeed overwrite the configuration with what their settings come to. -/
theorem foldlM_take {steps : List Step} {before : Settings} (suit : before.Suit)
    (config : ForwardConfig) {final : ForwardConfig}
    (taken : steps.foldlM take (before.overwrite config) = .ok final) :
    ((steps.map toSettings).foldl Settings.merge before).Suit ∧
      final = ((steps.map toSettings).foldl Settings.merge before).overwrite config := by
  induction steps generalizing before with
  | nil => exact ⟨suit, (Except.ok.inj taken).symm⟩
  | cons step rest inductionHypothesis =>
    rw [List.foldlM_cons] at taken
    cases first : step.take (before.overwrite config) with
    | error unsuitable =>
      rw [first] at taken
      cases taken
    | ok next =>
      rw [first] at taken
      obtain ⟨suitStep, rfl⟩ := take_eq_ok first
      rw [← Settings.overwrite_merge before suitStep] at taken
      exact inductionHypothesis (suit.merge suitStep) taken

end Step

end ForwardConfig

/-- Steps that succeed one after the other do what their merged settings do at once, for which
another settle delay and another deadline are settings with nothing else in them, as they are for
every value. Applying settings again changes nothing, and settings without a common field can be
applied in either order, each failing or not as it would by itself. -/
theorem steps_merged :
    (∀ (steps : List ForwardConfig.Step) config final,
      steps.foldlM ForwardConfig.Step.take config = .ok final →
      (Settings.mergeAll (steps.map ForwardConfig.Step.toSettings)).apply config =
        (final, .ok ())) ∧
    (∀ (settings : Settings) config, settings.apply (settings.apply config).1 =
      settings.apply config) ∧
    (∀ (one other : Settings) config, one.Disjoint other →
      (other.apply (one.apply config).1).1 = (one.apply (other.apply config).1).1 ∧
      (other.apply (one.apply config).1).2 = (other.apply config).2 ∧
      (one.apply (other.apply config).1).2 = (one.apply config).2) ∧
    (∀ milliseconds config, Settings.apply { settle := some milliseconds } config =
      (config.withSettle milliseconds.toNat, .ok ())) ∧
    ∀ limit config, Settings.apply { timeout := some limit } config =
      (config.withWriteTimeout limit.toNat, .ok ()) := by
  refine ⟨fun steps config final taken => ?_, Settings.apply_apply, ?_, fun _ _ => rfl,
    fun _ _ => rfl⟩
  · obtain ⟨suit, rfl⟩ := ForwardConfig.Step.foldlM_take Settings.Suit.empty config taken
    exact Settings.apply_of_suit suit config
  · exact fun one other config disjoint => ⟨Settings.apply_comm disjoint config,
      other.apply_outcome _ _, one.apply_outcome _ _⟩

/-- A deadline from settings, another one in its place, data bits that are set twice; and settings
that fail at their stop bits beside a parity. -/
theorem steps_merged_twice :
    let start : ForwardConfig :=
      { serial := { port := "ttyUSB0", baud := 9600 }, blockSize := ⟨64, by decide⟩ }
    let steps : List ForwardConfig.Step :=
      [.apply { dataBits := some 7, timeout := some 250 }, .writeTimeout 30000, .settle 0,
        .apply { dataBits := some 5, flowControl := some .hardware }]
    let final : ForwardConfig :=
      { start with
        serial := { start.serial with dataBits := .five, flowControl := .hardware }
        settle := 0
        writeTimeout := some 30000 }
    let failing : Settings := { dataBits := some 7, stopBits := some 3 }
    let checked : Settings := { parity := some .odd }
    (Settings.mergeAll (steps.map ForwardConfig.Step.toSettings)).apply start = (final, .ok ()) ∧
      (checked.apply (failing.apply start).1).1 = (failing.apply (checked.apply start).1).1 ∧
      (failing.apply (checked.apply start).1).2 = .error (.stopBits 3) := by
  intro start steps final failing checked
  have taken : steps.foldlM ForwardConfig.Step.take start = .ok final := rfl
  have disjoint : failing.Disjoint checked := fun field present => by
    cases field <;> first | rfl | cases present
  obtain ⟨merged, _, ordered, _⟩ := steps_merged
  obtain ⟨same, _, fails⟩ := ordered failing checked start disjoint
  exact ⟨merged steps start final taken, same, fails.trans rfl⟩

end SerialFeed
