/-
This file looks at settings field by field. A field is present or not, and settings are known once
all their fields are known. Settings that take over the fields of others one after the other have,
in the end, these fields from them and all other fields as before.
-/

import SerialFeed.Settings.Basic

namespace SerialFeed.Settings

/-! ### Fields -/

/-- What a field is, if it is present. -/
def Field.Value : Field → Type
  | dataBits => UInt8
  | parity => Parity
  | stopBits => UInt8
  | flowControl => FlowControl
  | timeout => UInt64
  | settle => UInt64

/-- The value of a field. -/
def get (settings : Settings) : (field : Field) → Option field.Value
  | .dataBits => settings.dataBits
  | .parity => settings.parity
  | .stopBits => settings.stopBits
  | .flowControl => settings.flowControl
  | .timeout => settings.timeout
  | .settle => settings.settle

/-- Whether a field is present. -/
def has (settings : Settings) (field : Field) : Bool :=
  (settings.get field).isSome

theorem eq_of_get {one other : Settings} (same : ∀ field, one.get field = other.get field) :
    one = other := by
  cases one
  cases other
  rw [mk.injEq]
  exact ⟨same .dataBits, same .parity, same .stopBits, same .flowControl, same .timeout,
    same .settle⟩

theorem get_empty (field : Field) : get {} field = none := by
  cases field <;> rfl

/-! ### Taking over fields -/

/-- The settings with one field as it is in others. -/
def adopt (wanted settings : Settings) : Field → Settings
  | .dataBits => { settings with dataBits := wanted.dataBits }
  | .parity => { settings with parity := wanted.parity }
  | .stopBits => { settings with stopBits := wanted.stopBits }
  | .flowControl => { settings with flowControl := wanted.flowControl }
  | .timeout => { settings with timeout := wanted.timeout }
  | .settle => { settings with settle := wanted.settle }

variable {wanted settings : Settings}

theorem get_adopt_self (field : Field) :
    (wanted.adopt settings field).get field = wanted.get field := by
  cases field <;> rfl

theorem get_adopt_other {field other : Field} (apart : other ≠ field) :
    (wanted.adopt settings field).get other = settings.get other := by
  cases field <;> cases other <;> first | rfl | exact absurd rfl apart

theorem get_foldl_adopt (fields : List Field) (field : Field) :
    (fields.foldl wanted.adopt settings).get field =
      if field ∈ fields then wanted.get field else settings.get field := by
  induction fields generalizing settings with
  | nil => rfl
  | cons first rest inductionHypothesis =>
    rw [List.foldl_cons, inductionHypothesis]
    by_cases later : field ∈ rest
    · rw [if_pos later, if_pos (List.mem_cons_of_mem first later)]
    · rw [if_neg later]
      by_cases same : field = first
      · rw [same, get_adopt_self, if_pos List.mem_cons_self]
      · rw [get_adopt_other same, if_neg (List.not_mem_cons_of_ne_of_not_mem same later)]

/-- Once all fields that are present have been taken over, nothing is left to be. -/
theorem foldl_adopt_eq {fields : List Field}
    (complete : ∀ field, wanted.has field = true → field ∈ fields) :
    fields.foldl wanted.adopt {} = wanted := by
  refine eq_of_get fun field => ?_
  rw [get_foldl_adopt]
  split
  · rfl
  · rename_i missing
    rw [get_empty]
    cases value : wanted.get field with
    | none => rfl
    | some _ => exact absurd (complete field (by rw [has, value]; rfl)) missing

end SerialFeed.Settings
