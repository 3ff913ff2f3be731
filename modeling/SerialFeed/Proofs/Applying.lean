/-
This file says what settings do to a configuration. The data bits are looked at first and the stop
bits next, and each of them can end it: data bits that do not suit a serial line leave everything as
it was, and stop bits that do not suit one leave the data bits that were asked for. Otherwise every
setting that is present is found in the configuration afterwards, and everything for which there is
none, or can be none, is as it was before.

So what settings do can be told without following the steps in which they are applied: one
configuration overwrites the other field by field.
-/

import Mathlib.Tactic.IntervalCases
import SerialFeed.Settings.Basic

namespace SerialFeed

/-! ### Numbers of bits -/

namespace DataBits

theorem ofNat?_eq_some {number : Nat} {bits : DataBits} :
    ofNat? number = some bits ↔ bits.toNat = number := by
  constructor
  · intro known
    unfold ofNat? at known
    split at known <;> cases known <;> rfl
  · rintro rfl
    exact ofNat?_toNat bits

/-- A character has between five and eight data bits. -/
theorem ofNat?_eq_none {number : Nat} : ofNat? number = none ↔ ¬ (5 ≤ number ∧ number ≤ 8) := by
  constructor
  · rintro unknown ⟨low, high⟩
    interval_cases number <;> cases unknown
  · intro outside
    cases known : ofNat? number with
    | none => rfl
    | some bits =>
      refine absurd ?_ outside
      rw [← ofNat?_eq_some.1 known]
      cases bits <;> decide

end DataBits

namespace StopBits

theorem ofNat?_eq_some {number : Nat} {bits : StopBits} :
    ofNat? number = some bits ↔ bits.toNat = number := by
  constructor
  · intro known
    unfold ofNat? at known
    split at known <;> cases known <;> rfl
  · rintro rfl
    exact ofNat?_toNat bits

/-- A character is closed by one bit or by two. -/
theorem ofNat?_eq_none {number : Nat} : ofNat? number = none ↔ ¬ (number = 1 ∨ number = 2) := by
  constructor
  · rintro unknown (rfl | rfl) <;> cases unknown
  · intro outside
    cases known : ofNat? number with
    | none => rfl
    | some bits =>
      refine absurd ?_ outside
      rw [← ofNat?_eq_some.1 known]
      cases bits <;> decide

end StopBits

namespace Settings

/-! ### Which settings suit a serial line -/

/-- Whether the data bits suit a serial line, if they are set. -/
def DataBitsSuit (settings : Settings) : Prop :=
  ∀ number, settings.dataBits = some number → 5 ≤ number.toNat ∧ number.toNat ≤ 8

/-- Whether the stop bits suit a serial line, if they are set. -/
def StopBitsSuit (settings : Settings) : Prop :=
  ∀ number, settings.stopBits = some number → number.toNat = 1 ∨ number.toNat = 2

/-- Whether all settings suit a serial line. -/
structure Suit (settings : Settings) : Prop where
  dataBits : settings.DataBitsSuit
  stopBits : settings.StopBitsSuit

variable {settings : Settings}

theorem DataBitsSuit.known (suit : settings.DataBitsSuit) {number : UInt8}
    (given : settings.dataBits = some number) :
    ∃ bits, DataBits.ofNat? number.toNat = some bits := by
  refine Option.ne_none_iff_exists'.1 fun unknown => ?_
  exact DataBits.ofNat?_eq_none.1 unknown (suit number given)

theorem StopBitsSuit.known (suit : settings.StopBitsSuit) {number : UInt8}
    (given : settings.stopBits = some number) :
    ∃ bits, StopBits.ofNat? number.toNat = some bits := by
  refine Option.ne_none_iff_exists'.1 fun unknown => ?_
  exact StopBits.ofNat?_eq_none.1 unknown (suit number given)

/-! ### Overwriting a configuration -/

/-- The configuration with every setting that is present in the place of what it had. -/
def overwrite (settings : Settings) (config : ForwardConfig) : ForwardConfig where
  serial :=
    { port := config.serial.port
      baud := config.serial.baud
      dataBits := (settings.dataBits.bind fun number => DataBits.ofNat? number.toNat).getD
        config.serial.dataBits
      parity := settings.parity.getD config.serial.parity
      stopBits := (settings.stopBits.bind fun number => StopBits.ofNat? number.toNat).getD
        config.serial.stopBits
      flowControl := settings.flowControl.getD config.serial.flowControl
      timeout := (settings.timeout.map fun limit => min limit.toNat pollingSlice).getD
        config.serial.timeout }
  blockSize := config.blockSize
  settle := (settings.settle.map UInt64.toNat).getD config.settle
  writeTimeout := (settings.timeout.map UInt64.toNat).or config.writeTimeout

theorem withDataBits_of_suit (suit : settings.DataBitsSuit) (config : ForwardConfig) :
    settings.withDataBits config = .ok (overwrite { dataBits := settings.dataBits } config) := by
  unfold withDataBits
  split
  · rename_i absent
    rw [absent]
    rfl
  · rename_i number given
    obtain ⟨bits, known⟩ := suit.known given
    simp only [given, overwrite, Option.bind_some, known]
    rfl

theorem withStopBits_of_suit (suit : settings.StopBitsSuit) (config : ForwardConfig) :
    settings.withStopBits config = .ok (overwrite { stopBits := settings.stopBits } config) := by
  unfold withStopBits
  split
  · rename_i absent
    rw [absent]
    rfl
  · rename_i number given
    obtain ⟨bits, known⟩ := suit.known given
    simp only [given, overwrite, Option.bind_some, known]
    rfl

theorem withParity_eq (settings : Settings) (config : ForwardConfig) :
    settings.withParity config = overwrite { parity := settings.parity } config := by
  unfold withParity
  cases settings.parity <;> rfl

theorem withFlowControl_eq (settings : Settings) (config : ForwardConfig) :
    settings.withFlowControl config = overwrite { flowControl := settings.flowControl } config := by
  unfold withFlowControl
  cases settings.flowControl <;> rfl

theorem withTimes_eq (settings : Settings) (config : ForwardConfig) :
    settings.withTimes config =
      overwrite { timeout := settings.timeout, settle := settings.settle } config := by
  unfold withTimes
  cases settings.timeout <;> cases settings.settle <;> rfl

/-! ### The three ways in which settings are applied -/

theorem apply_of_dataBits {number : UInt8} (given : settings.dataBits = some number)
    (unsuitable : ¬ (5 ≤ number.toNat ∧ number.toNat ≤ 8)) (config : ForwardConfig) :
    settings.apply config = (config, .error (.dataBits number)) := by
  have unknown : DataBits.ofNat? number.toNat = none := DataBits.ofNat?_eq_none.2 unsuitable
  have refused : settings.withDataBits config = .error (.dataBits number) := by
    simp only [withDataBits, given, unknown]
  simp only [apply, refused]

theorem apply_of_stopBits {number : UInt8} (suit : settings.DataBitsSuit)
    (given : settings.stopBits = some number)
    (unsuitable : ¬ (number.toNat = 1 ∨ number.toNat = 2)) (config : ForwardConfig) :
    settings.apply config =
      (overwrite { dataBits := settings.dataBits } config, .error (.stopBits number)) := by
  have unknown : StopBits.ofNat? number.toNat = none := StopBits.ofNat?_eq_none.2 unsuitable
  have refused (other : ForwardConfig) :
      settings.withStopBits other = .error (.stopBits number) := by
    simp only [withStopBits, given, unknown]
  simp only [apply, withDataBits_of_suit suit, refused]

theorem apply_of_suit (suit : settings.Suit) (config : ForwardConfig) :
    settings.apply config = (overwrite settings config, .ok ()) := by
  simp only [apply, withDataBits_of_suit suit.dataBits, withStopBits_of_suit suit.stopBits,
    withParity_eq, withFlowControl_eq, withTimes_eq]
  rfl

/-- There is no other way. -/
theorem suit_cases (settings : Settings) :
    (∃ number, settings.dataBits = some number ∧ ¬ (5 ≤ number.toNat ∧ number.toNat ≤ 8)) ∨
    (settings.DataBitsSuit ∧
      ∃ number, settings.stopBits = some number ∧ ¬ (number.toNat = 1 ∨ number.toNat = 2)) ∨
    settings.Suit := by
  by_cases dataBits : settings.DataBitsSuit
  · by_cases stopBits : settings.StopBitsSuit
    · exact .inr (.inr ⟨dataBits, stopBits⟩)
    · simp only [StopBitsSuit, not_forall] at stopBits
      obtain ⟨number, given, unsuitable⟩ := stopBits
      exact .inr (.inl ⟨dataBits, number, given, unsuitable⟩)
  · simp only [DataBitsSuit, not_forall] at dataBits
    obtain ⟨number, given, unsuitable⟩ := dataBits
    exact .inl ⟨number, given, unsuitable⟩

/-! ### What is found afterwards -/

/-- Whether a configuration has every setting that is present, and is otherwise as it was before. A
time limit is the deadline of a block and also shortens the slice in which the port waits. -/
structure Takes (settings : Settings) (before after : ForwardConfig) : Prop where
  port : after.serial.port = before.serial.port
  baud : after.serial.baud = before.serial.baud
  blockSize : after.blockSize = before.blockSize
  dataBits :
    match settings.dataBits with
    | some number => after.serial.dataBits.toNat = number.toNat
    | none => after.serial.dataBits = before.serial.dataBits
  parity :
    match settings.parity with
    | some parity => after.serial.parity = parity
    | none => after.serial.parity = before.serial.parity
  stopBits :
    match settings.stopBits with
    | some number => after.serial.stopBits.toNat = number.toNat
    | none => after.serial.stopBits = before.serial.stopBits
  flowControl :
    match settings.flowControl with
    | some flowControl => after.serial.flowControl = flowControl
    | none => after.serial.flowControl = before.serial.flowControl
  timeout :
    match settings.timeout with
    | some limit =>
      after.writeTimeout = some limit.toNat ∧ after.serial.timeout = min limit.toNat 1000
    | none =>
      after.writeTimeout = before.writeTimeout ∧ after.serial.timeout = before.serial.timeout
  settle :
    match settings.settle with
    | some milliseconds => after.settle = milliseconds.toNat
    | none => after.settle = before.settle

theorem Suit.takes_overwrite (suit : settings.Suit) (config : ForwardConfig) :
    settings.Takes config (settings.overwrite config) where
  port := rfl
  baud := rfl
  blockSize := rfl
  dataBits := by
    cases given : settings.dataBits with
    | none => simp only [overwrite, given, Option.bind_none, Option.getD_none]
    | some number =>
      obtain ⟨bits, known⟩ := suit.dataBits.known given
      simp only [overwrite, given, Option.bind_some, known, Option.getD_some]
      exact DataBits.ofNat?_eq_some.1 known
  parity := by
    cases given : settings.parity <;>
      simp only [overwrite, given, Option.getD_none, Option.getD_some]
  stopBits := by
    cases given : settings.stopBits with
    | none => simp only [overwrite, given, Option.bind_none, Option.getD_none]
    | some number =>
      obtain ⟨bits, known⟩ := suit.stopBits.known given
      simp only [overwrite, given, Option.bind_some, known, Option.getD_some]
      exact StopBits.ofNat?_eq_some.1 known
  flowControl := by
    cases given : settings.flowControl <;>
      simp only [overwrite, given, Option.getD_none, Option.getD_some]
  timeout := by
    cases given : settings.timeout <;>
      simp only [overwrite, given, pollingSlice, Option.map_none, Option.map_some, Option.none_or,
        Option.some_or, Option.getD_none, Option.getD_some, and_self]
  settle := by
    cases given : settings.settle <;>
      simp only [overwrite, given, Option.map_none, Option.map_some, Option.getD_none,
        Option.getD_some]

end Settings

/-- Settings fail with a complaint about the data bits exactly if these are set to something else
than five to eight, and then the configuration is what it was. They fail with one about the stop
bits exactly if the data bits suit and the stop bits are set to something else than one or two, and
then only the data bits are taken. In all other cases they do not fail, and all are taken. -/
theorem apply_frame (settings : Settings) (config : ForwardConfig) :
    (∀ number, (settings.apply config).2 = .error (.dataBits number) ↔
      settings.dataBits = some number ∧ ¬ (5 ≤ number.toNat ∧ number.toNat ≤ 8)) ∧
    (∀ number, (settings.apply config).2 = .error (.stopBits number) ↔
      settings.DataBitsSuit ∧
        settings.stopBits = some number ∧ ¬ (number.toNat = 1 ∨ number.toNat = 2)) ∧
    ((settings.apply config).2 = .ok () ↔ settings.Suit) ∧
    match settings.apply config with
    | (after, .error (.dataBits number)) =>
      after = config ∧ (Settings.Unsuitable.dataBits number).message =
        "data_bits must be 5, 6, 7 or 8, not " ++ toString number.toNat
    | (after, .error (.stopBits number)) =>
      Settings.Takes { dataBits := settings.dataBits } config after ∧
        (Settings.Unsuitable.stopBits number).message =
          "stop_bits must be 1 or 2, not " ++ toString number.toNat
    | (after, .ok ()) => settings.Takes config after := by
  rcases settings.suit_cases with
    ⟨number, given, unsuitable⟩ | ⟨dataBits, number, given, unsuitable⟩ | suit
  · rw [Settings.apply_of_dataBits given unsuitable]
    have misfit : ¬ settings.DataBitsSuit := fun dataBits => unsuitable (dataBits number given)
    refine ⟨fun other => ?_, fun other => ?_, ?_, rfl, rfl⟩
    · rw [given]
      constructor
      · rintro ⟨⟩
        exact ⟨rfl, unsuitable⟩
      · rintro ⟨⟨⟩, _⟩
        rfl
    · exact iff_of_false nofun fun reached => misfit reached.1
    · exact iff_of_false nofun fun suit => misfit suit.dataBits
  · rw [Settings.apply_of_stopBits dataBits given unsuitable]
    refine ⟨fun other => ?_, fun other => ?_, ?_, ?_, rfl⟩
    · exact iff_of_false nofun fun misfit => misfit.2 (dataBits other misfit.1)
    · rw [given]
      constructor
      · rintro ⟨⟩
        exact ⟨dataBits, rfl, unsuitable⟩
      · rintro ⟨_, ⟨⟩, _⟩
        rfl
    · exact iff_of_false nofun fun suit => unsuitable (suit.stopBits number given)
    · have taken : Settings.Suit { dataBits := settings.dataBits } := ⟨dataBits, nofun⟩
      exact taken.takes_overwrite config
  · rw [Settings.apply_of_suit suit]
    refine ⟨fun other => ?_, fun other => ?_, iff_of_true rfl suit, suit.takes_overwrite config⟩
    · exact iff_of_false nofun fun misfit => misfit.2 (suit.dataBits other misfit.1)
    · exact iff_of_false nofun fun misfit => misfit.2.2 (suit.stopBits other misfit.2.1)

end SerialFeed
