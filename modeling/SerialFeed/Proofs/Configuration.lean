/-
This file says which configurations there are. One is built from three texts, and only from two
decimal numbers in their ranges beside the name of a port; which of the numbers is to blame for a
failure depends on the first one alone. After that a configuration is changed in steps. No step
touches the port, the speed or the block size, not even settings of which only a part could be
applied, and every step that moves the deadline of a block moves the polling slice along. So what
held of the configuration that was built holds after every sequence of changes, and no forwarder
that follows from it asks for a large buffer.
-/

import Mathlib.Algebra.Order.Group.Nat
import Mathlib.Logic.Relation
import SerialFeed.Settings.Basic
import SerialFeed.Proofs.Decimals
import SerialFeed.Proofs.Outcome

namespace SerialFeed

/-! ### Building a configuration -/

/-- Whether a text is a decimal number between one and a limit, with blanks around it. -/
structure Numeral.Within (limit : Nat) (text : String) (value : Nat) : Prop where
  decimal : Decimal text.toList value
  positive : 0 < value
  small : value ≤ limit

namespace ForwardConfig

theorem readNumber_eq_ok {name : NumberName} {limit : Nat} {text : String}
    {number : { value : Nat // 0 < value }} :
    readNumber name limit text = .ok number ↔ Numeral.Within limit text number.val := by
  have same : readNumber name limit text = .ok number ↔
      Numeral.readPositive limit text.toList = .ok number := by
    unfold readNumber
    cases Numeral.readPositive limit text.toList with
    | error trouble => exact iff_of_false nofun nofun
    | ok value => simp [Except.mapError]
  rw [same, Numeral.readPositive_eq_ok]
  exact ⟨fun known => ⟨known.1, number.property, known.2⟩,
    fun within => ⟨within.decimal, within.small⟩⟩

/-- A text that is no number is refused under the name of the number that it should have been. -/
theorem readNumber_eq_error {name : NumberName} {limit : Nat} {text : String}
    {error : ForwardError} (refused : readNumber name limit text = .error error) :
    ∃ value trouble, error = .invalidNumber name value trouble := by
  unfold readNumber at refused
  cases reading : Numeral.readPositive limit text.toList with
  | error trouble =>
    rw [reading] at refused
    exact ⟨text, .unreadable trouble, (Except.error.inj refused).symm⟩
  | ok value =>
    rw [reading] at refused
    cases refused

theorem readBlockSize_eq_ok {text : String} {size : BlockSize} :
    readBlockSize text = .ok size ↔ Numeral.Within maxBlockSize text size.bytes := by
  have capped : readBlockSize text = .ok size ↔
      readNumber .blockSize maxReadable text = .ok ⟨size.bytes, size.positive⟩ ∧
        size.bytes ≤ maxBlockSize := by
    unfold readBlockSize
    cases readNumber .blockSize maxReadable text with
    | error error => exact iff_of_false nofun nofun
    | ok number =>
      change (if number.val ≤ maxBlockSize then _ else _) = _ ↔ _
      by_cases small : number.val ≤ maxBlockSize
      · rw [if_pos small, Except.ok.injEq, Except.ok.injEq, Subtype.ext_iff, BlockSize.mk.injEq]
        exact ⟨fun same => ⟨same, same ▸ small⟩, And.left⟩
      · rw [if_neg small]
        refine iff_of_false nofun ?_
        rintro ⟨⟨⟩, fits⟩
        exact small fits
  rw [capped, readNumber_eq_ok]
  constructor
  · rintro ⟨within, small⟩
    exact ⟨within.decimal, within.positive, small⟩
  · intro within
    -- Whatever fits under the cap can be read.
    have readable : size.bytes ≤ maxReadable := within.small.trans (by decide)
    exact ⟨⟨within.decimal, within.positive, readable⟩, within.small⟩

theorem readBlockSize_eq_error {text : String} {error : ForwardError}
    (refused : readBlockSize text = .error error) :
    ∃ value trouble, error = .invalidNumber .blockSize value trouble := by
  unfold readBlockSize at refused
  cases reading : readNumber .blockSize maxReadable text with
  | error other =>
    rw [reading] at refused
    obtain rfl : other = error := Except.error.inj refused
    exact readNumber_eq_error reading
  | ok number =>
    rw [reading] at refused
    change (if number.val ≤ maxBlockSize then _ else _) = _ at refused
    split at refused
    · cases refused
    · exact ⟨_, _, (Except.error.inj refused).symm⟩

/-- A configuration needs both numbers, and holds nothing else that could be chosen. -/
theorem ofTexts_eq_ok {port baud block : String} {config : ForwardConfig} :
    ofTexts port baud block = .ok config ↔
      ∃ speed size, readNumber .baudRate maxBaud baud = .ok speed ∧ readBlockSize block = .ok size ∧
        config = { serial := { port, baud := speed.val }, blockSize := size } := by
  unfold ofTexts
  cases readNumber .baudRate maxBaud baud with
  | error error => exact iff_of_false nofun nofun
  | ok speed =>
    cases readBlockSize block with
    | error error => exact iff_of_false nofun nofun
    | ok size =>
      constructor
      · rintro ⟨⟩
        exact ⟨speed, size, rfl, rfl, rfl⟩
      · rintro ⟨_, _, ⟨⟩, ⟨⟩, rfl⟩
        rfl

theorem ofTexts_of_baud {port baud block : String} {error : ForwardError}
    (refused : readNumber .baudRate maxBaud baud = .error error) :
    ofTexts port baud block = .error error := by
  unfold ofTexts
  rw [refused]
  rfl

theorem ofTexts_of_block {port baud block : String} {speed : { value : Nat // 0 < value }}
    {error : ForwardError} (accepted : readNumber .baudRate maxBaud baud = .ok speed)
    (refused : readBlockSize block = .error error) : ofTexts port baud block = .error error := by
  unfold ofTexts
  rw [accepted, refused]
  rfl

/-- A number that is written out with blanks around it is that number again. -/
theorem within_toString {limit value : Nat} (positive : 0 < value) (small : value ≤ limit)
    {before after : List Char} (blankBefore : ∀ character ∈ before, Text.isBlank character = true)
    (blankAfter : ∀ character ∈ after, Text.isBlank character = true) :
    Numeral.Within limit (String.ofList (before ++ (toString value).toList ++ after)) value := by
  refine ⟨?_, positive, small⟩
  rw [String.toList_ofList]
  exact ⟨before, _, after, rfl, blankBefore, blankAfter, Numeral.denotes_toString value⟩

end ForwardConfig

/-- A configuration is built exactly from two decimal numbers in their ranges, and it holds them, the
name of the port as it was given and otherwise nothing but defaults. If the text of the speed is no
such number, the error is about the speed, whatever the block size is, and otherwise it is about the
block size. So every speed and every block size in its range can be asked for by its digits, with
any blanks around them. -/
theorem ofTexts_decimal (port : String) :
    (∀ baud block config, ForwardConfig.ofTexts port baud block = .ok config ↔
      ∃ speed size, ∃ positive : 0 < size,
        Numeral.Within (2 ^ 32 - 1) baud speed ∧ Numeral.Within 67108864 block size ∧
          config = { serial := { port, baud := speed }, blockSize := ⟨size, positive⟩ }) ∧
    (∀ baud, (∀ speed, ¬ Numeral.Within (2 ^ 32 - 1) baud speed) →
      ∃ name value trouble, name.text = "baud rate" ∧ ∀ block,
        ForwardConfig.ofTexts port baud block = .error (.invalidNumber name value trouble)) ∧
    (∀ baud speed block, Numeral.Within (2 ^ 32 - 1) baud speed →
      (∀ size, ¬ Numeral.Within 67108864 block size) →
      ∃ name value trouble, name.text = "block size" ∧
        ForwardConfig.ofTexts port baud block = .error (.invalidNumber name value trouble)) ∧
    (∀ speed size (positive : 0 < size), 0 < speed → speed ≤ 2 ^ 32 - 1 → size ≤ 67108864 →
      ∀ before after before' after' : List Char,
        (∀ character ∈ before ++ after ++ before' ++ after', Text.isBlank character = true) →
        ForwardConfig.ofTexts port
            (String.ofList (before ++ (toString speed).toList ++ after))
            (String.ofList (before' ++ (toString size).toList ++ after')) =
          .ok { serial := { port, baud := speed }, blockSize := ⟨size, positive⟩ }) := by
  have accepted : ∀ baud block config, ForwardConfig.ofTexts port baud block = .ok config ↔
      ∃ speed size, ∃ positive : 0 < size,
        Numeral.Within (2 ^ 32 - 1) baud speed ∧ Numeral.Within 67108864 block size ∧
          config = { serial := { port, baud := speed }, blockSize := ⟨size, positive⟩ } := by
    intro baud block config
    rw [ForwardConfig.ofTexts_eq_ok]
    constructor
    · rintro ⟨speed, size, speedRead, sizeRead, rfl⟩
      exact ⟨speed.val, size.bytes, size.positive, ForwardConfig.readNumber_eq_ok.1 speedRead,
        ForwardConfig.readBlockSize_eq_ok.1 sizeRead, rfl⟩
    · rintro ⟨speed, size, positive, withinSpeed, withinSize, rfl⟩
      exact ⟨⟨speed, withinSpeed.positive⟩, ⟨size, positive⟩,
        ForwardConfig.readNumber_eq_ok.2 withinSpeed,
        ForwardConfig.readBlockSize_eq_ok.2 withinSize, rfl⟩
  refine ⟨accepted, fun baud none => ?_, fun baud speed block within none => ?_, ?_⟩
  · cases reading : ForwardConfig.readNumber .baudRate ForwardConfig.maxBaud baud with
    | ok number => exact absurd (ForwardConfig.readNumber_eq_ok.1 reading) (none number.val)
    | error error =>
      obtain ⟨value, trouble, rfl⟩ := ForwardConfig.readNumber_eq_error reading
      exact ⟨_, value, trouble, rfl, fun block => ForwardConfig.ofTexts_of_baud reading⟩
  · cases reading : ForwardConfig.readBlockSize block with
    | ok size => exact absurd (ForwardConfig.readBlockSize_eq_ok.1 reading) (none size.bytes)
    | error error =>
      obtain ⟨value, trouble, rfl⟩ := ForwardConfig.readBlockSize_eq_error reading
      have read : ForwardConfig.readNumber .baudRate ForwardConfig.maxBaud baud =
          .ok ⟨speed, within.positive⟩ := ForwardConfig.readNumber_eq_ok.2 within
      exact ⟨_, value, trouble, rfl, ForwardConfig.ofTexts_of_block read reading⟩
  · intro speed size positive nonzero fast small before after before' after' blank
    simp only [List.forall_mem_append] at blank
    obtain ⟨⟨⟨blankBefore, blankAfter⟩, blankBefore'⟩, blankAfter'⟩ := blank
    exact (accepted _ _ _).2 ⟨speed, size, positive,
      ForwardConfig.within_toString nonzero fast blankBefore blankAfter,
      ForwardConfig.within_toString positive small blankBefore' blankAfter', rfl⟩

/-- Numbers with blanks around them, and a speed of zero beside any block size. -/
theorem ofTexts_decimal_blank :
    ForwardConfig.ofTexts "ttyUSB0" " 9600\n" "64 " =
      .ok { serial := { port := "ttyUSB0", baud := 9600 }, blockSize := ⟨64, by decide⟩ } ∧
    ∃ name value trouble, name.text = "baud rate" ∧ ∀ block,
      ForwardConfig.ofTexts "ttyUSB0" "+00" block = .error (.invalidNumber name value trouble) := by
  obtain ⟨_, refused, _, written⟩ := ofTexts_decimal "ttyUSB0"
  constructor
  · have blank : ∀ character ∈ [' '] ++ ['\n'] ++ [] ++ [' '], Text.isBlank character = true :=
      List.all_eq_true.1 rfl
    exact written 9600 64 (by decide) (by decide) (by decide) (by decide) [' '] ['\n'] [] [' '] blank
  · refine refused "+00" fun speed within => ?_
    have positive : 0 < speed := within.positive
    have read : ForwardConfig.readNumber .baudRate ForwardConfig.maxBaud "+00" =
        .ok ⟨speed, positive⟩ := ForwardConfig.readNumber_eq_ok.2 within
    cases read

/-! ### Changing a configuration -/

namespace ForwardConfig

/-- One change of a configuration that has been built. Settings may fail to apply, and what they
changed before that stays. -/
inductive Change : ForwardConfig → ForwardConfig → Prop where
  | settle (config : ForwardConfig) (milliseconds : Nat) :
    Change config (config.withSettle milliseconds)
  | writeTimeout (config : ForwardConfig) (limit : Nat) :
    Change config (config.withWriteTimeout limit)
  | settings (config : ForwardConfig) (settings : Settings) : Change config (settings.apply config).1

/-- What is left of a configuration when it is changed: the port, the speed and the block size stay,
and the polling slice is the one that suits the deadline. -/
structure Keeps (start config : ForwardConfig) : Prop where
  port : config.serial.port = start.serial.port
  baud : config.serial.baud = start.serial.baud
  blockSize : config.blockSize = start.blockSize
  slice : config.serial.timeout =
    match config.writeTimeout with
    | none => pollingSlice
    | some limit => min limit pollingSlice

namespace Keeps

variable {start config next : ForwardConfig}

theorem withSettle (keeps : Keeps start config) (milliseconds : Nat) :
    Keeps start (config.withSettle milliseconds) :=
  ⟨keeps.port, keeps.baud, keeps.blockSize, keeps.slice⟩

theorem withWriteTimeout (keeps : Keeps start config) (limit : Nat) :
    Keeps start (config.withWriteTimeout limit) :=
  ⟨keeps.port, keeps.baud, keeps.blockSize, rfl⟩

variable {settings : Settings}

theorem withDataBits (keeps : Keeps start config) (suits : settings.withDataBits config = .ok next) :
    Keeps start next := by
  unfold Settings.withDataBits at suits
  split at suits
  · exact Except.ok.inj suits ▸ keeps
  · split at suits
    · cases suits
    · exact Except.ok.inj suits ▸ ⟨keeps.port, keeps.baud, keeps.blockSize, keeps.slice⟩

theorem withStopBits (keeps : Keeps start config) (suits : settings.withStopBits config = .ok next) :
    Keeps start next := by
  unfold Settings.withStopBits at suits
  split at suits
  · exact Except.ok.inj suits ▸ keeps
  · split at suits
    · cases suits
    · exact Except.ok.inj suits ▸ ⟨keeps.port, keeps.baud, keeps.blockSize, keeps.slice⟩

theorem withParity (keeps : Keeps start config) (settings : Settings) :
    Keeps start (settings.withParity config) := by
  unfold Settings.withParity
  split
  · exact keeps
  · exact ⟨keeps.port, keeps.baud, keeps.blockSize, keeps.slice⟩

theorem withFlowControl (keeps : Keeps start config) (settings : Settings) :
    Keeps start (settings.withFlowControl config) := by
  unfold Settings.withFlowControl
  split
  · exact keeps
  · exact ⟨keeps.port, keeps.baud, keeps.blockSize, keeps.slice⟩

theorem withTimes (keeps : Keeps start config) (settings : Settings) :
    Keeps start (settings.withTimes config) := by
  unfold Settings.withTimes
  cases settings.timeout with
  | none =>
    cases settings.settle with
    | none => exact keeps
    | some settle => exact keeps.withSettle _
  | some limit =>
    have timed := keeps.withWriteTimeout limit.toNat
    cases settings.settle with
    | none => exact timed
    | some settle => exact timed.withSettle _

/-- Settings keep a configuration, also when they fail: wherever they stop, what they did before
kept it. -/
theorem apply (keeps : Keeps start config) (settings : Settings) :
    Keeps start (settings.apply config).1 := by
  unfold Settings.apply
  split
  · exact keeps
  · rename_i suitsData
    have keepsData := keeps.withDataBits suitsData
    split
    · exact keepsData
    · rename_i suitsStop
      have keepsStop := keepsData.withStopBits suitsStop
      exact ((keepsStop.withParity settings).withFlowControl settings).withTimes settings

theorem change (keeps : Keeps start config) (changes : Change config next) : Keeps start next := by
  cases changes with
  | settle milliseconds => exact keeps.withSettle milliseconds
  | writeTimeout limit => exact keeps.withWriteTimeout limit
  | settings settings => exact keeps.apply settings

theorem changes (keeps : Keeps start config) (later : Relation.ReflTransGen Change config next) :
    Keeps start next := by
  induction later with
  | refl => exact keeps
  | tail _ last inductionHypothesis => exact inductionHypothesis.change last

/-- The polling slice is never longer than the usual one, nor than the deadline. -/
theorem slice_le (keeps : Keeps start config) :
    config.serial.timeout ≤ pollingSlice ∧
      ∀ limit, config.writeTimeout = some limit → config.serial.timeout ≤ limit := by
  rw [keeps.slice]
  cases config.writeTimeout with
  | none => exact ⟨Nat.le_refl _, nofun⟩
  | some limit =>
    refine ⟨Nat.min_le_right .., ?_⟩
    rintro _ ⟨⟩
    exact Nat.min_le_left ..

end Keeps

/-- What is built has no deadline and the usual polling slice. -/
theorem keeps_of_ofTexts {port baud block : String} {start : ForwardConfig}
    (built : ofTexts port baud block = .ok start) : Keeps start start := by
  obtain ⟨speed, size, _, _, rfl⟩ := ofTexts_eq_ok.1 built
  exact ⟨rfl, rfl, rfl, rfl⟩

end ForwardConfig

/-! ### The forwarder of a configuration -/

/-- How many bytes of memory the reads and writes of a transfer need at a time. -/
def Entry.room {Event : Type} : Entry Event → Nat
  | .read wanted _ => wanted
  | .write offered _ _ => offered.length
  | _ => 0

/-- No call of a transfer needs more than the buffer of one block. -/
theorem Transfers.room_le {forwarder : Forwarder} {observer : Observer} {ending : Ending}
    {history : History Progress} (transfers : Transfers forwarder observer ending history) :
    ∀ entry ∈ history, entry.room ≤ forwarder.blockSize.bytes := by
  have everywhere : Everywhere forwarder fun entry => entry.room ≤ forwarder.blockSize.bytes :=
    { read := fun _ small => small
      write := fun _ small => small
      note := fun _ => Nat.zero_le _
      event := fun _ => Nat.zero_le _
      flush := fun _ => Nat.zero_le _
      pause := fun _ => Nat.zero_le _ }
  exact everywhere.of_transfers transfers

/-- Every configuration that is built and then changed, in any steps and whether or not its settings
suit a serial line, has a speed, has a block size between one byte and 64 MiB, and keeps these and
its port as they were built. Its polling slice is the usual one without a deadline and the shorter
of the two with one. Its forwarder has its block size, its settle delay and its deadline, so no
transfer of this forwarder needs more than 64 MiB at a time, and a buffer that it cannot get is no
larger either. -/
theorem changed_configuration {port baud block : String} {start config : ForwardConfig}
    (built : ForwardConfig.ofTexts port baud block = .ok start)
    (changed : Relation.ReflTransGen ForwardConfig.Change start config) :
    (0 < config.serial.baud ∧ 0 < config.blockSize.bytes ∧
      config.blockSize.bytes ≤ 64 * 1024 * 1024) ∧
    (config.serial.port = port ∧ config.serial.baud = start.serial.baud ∧
      config.blockSize = start.blockSize) ∧
    (config.serial.timeout =
      match config.writeTimeout with
      | none => 1000
      | some limit => min limit 1000) ∧
    config.serial.timeout ≤ 1000 ∧
    (∀ limit, config.writeTimeout = some limit → config.serial.timeout ≤ limit) ∧
    Forwarder.ofConfig config = ⟨config.blockSize, config.settle, config.writeTimeout⟩ ∧
    ∀ (π : Type) [Port π] (observer : Observer) (source : Source) (link : π),
      let run := (Forwarder.ofConfig config).transfer observer source link
      (∀ entry ∈ run.history, entry.room ≤ 64 * 1024 * 1024) ∧
        ∀ wanted shortage, run.ending = .failed (.bufferFailed wanted shortage) →
          wanted ≤ 64 * 1024 * 1024 := by
  have keeps := (ForwardConfig.keeps_of_ofTexts built).changes changed
  obtain ⟨speed, size, _, sizeRead, rfl⟩ := ForwardConfig.ofTexts_eq_ok.1 built
  have speedKept : config.serial.baud = speed.val := keeps.baud
  have sizeKept : config.blockSize = size := keeps.blockSize
  have small : config.blockSize.bytes ≤ maxBlockSize :=
    sizeKept ▸ (ForwardConfig.readBlockSize_eq_ok.1 sizeRead).small
  refine ⟨⟨speedKept ▸ speed.property, config.blockSize.positive, small⟩,
    ⟨keeps.port, speedKept, sizeKept⟩, keeps.slice, keeps.slice_le.1, keeps.slice_le.2, rfl, ?_⟩
  intro π _ observer source link run
  have transfers := transfer_transfers (Forwarder.ofConfig config) observer source link
  exact ⟨fun entry member => (transfers.room_le entry member).trans small,
    fun wanted shortage lacking => (transfers.bufferFailed_iff.1 lacking).1.trans_le small⟩

/-- A deadline, settings that fail at their stop bits and another settle delay. -/
theorem changed_configuration_unsuitable :
    let start : ForwardConfig :=
      { serial := { port := "ttyUSB0", baud := 9600 }, blockSize := ⟨64, by decide⟩ }
    let settings : Settings := { dataBits := some 7, stopBits := some 3, timeout := some 20 }
    let applied := settings.apply (start.withWriteTimeout 250)
    let config := applied.1.withSettle 0
    applied.2 = .error (.stopBits 3) ∧ config.serial.dataBits = .seven ∧
      config.serial.port = "ttyUSB0" ∧ config.serial.timeout = min 250 1000 := by
  intro start settings applied config
  have built : ForwardConfig.ofTexts "ttyUSB0" " 9600" "+064" = .ok start := by
    rfl
  have changed : Relation.ReflTransGen ForwardConfig.Change start config :=
    .tail (.tail (.tail .refl (.writeTimeout start 250)) (.settings _ settings)) (.settle _ 0)
  have kept := changed_configuration built changed
  exact ⟨by decide, by decide, kept.2.1.1, kept.2.2.1⟩

end SerialFeed
