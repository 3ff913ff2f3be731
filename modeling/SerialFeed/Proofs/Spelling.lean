/-
This file says how settings can be written into a file so that they are read from it again. The
members of the object may come in any order; every field that is present has one, and of the others
each may have one whose value is null or may be left out. Numbers are written by their digits, and a
parity or a flow control by its name. Between these tokens there may be any blanks.

The reader takes the members one by one and puts the value of each into the settings that it has so
far. So after some members it has read the fields of these as they were written, and at the end, as
no field that is present was left out, the settings that were written.
-/

import SerialFeed.Proofs.Acceptance
import SerialFeed.Settings.Load

namespace SerialFeed

namespace Settings

open Json

/-! ### How settings are written -/

/-- A text between quotes. -/
def quoted (text : String) : List Char :=
  '"' :: (text.toList ++ ['"'])

/-- The digits of a number. -/
def digits (number : Nat) : List Char :=
  (toString number).toList

/-- A value as it is written, and null in the place of none. -/
def orNull {Value : Type} (write : Value → List Char) : Option Value → List Char
  | none => "null".toList
  | some value => write value

/-- The value of a field as it is written. -/
def written (settings : Settings) : Field → List Char
  | .dataBits => orNull (fun number => digits number.toNat) settings.dataBits
  | .parity => orNull (fun parity => quoted parity.name) settings.parity
  | .stopBits => orNull (fun number => digits number.toNat) settings.stopBits
  | .flowControl => orNull (fun flowControl => quoted flowControl.name) settings.flowControl
  | .timeout => orNull (fun limit => digits limit.toNat) settings.timeout
  | .settle => orNull (fun milliseconds => digits milliseconds.toNat) settings.settle

/-- The tokens of one member. -/
def member (settings : Settings) (field : Field) : List (List Char) :=
  [quoted field.key, [':'], settings.written field]

/-- The tokens of an object whose members are some fields. -/
def tokens (settings : Settings) (fields : List Field) : List (List Char) :=
  ['\x7b'] :: (List.intercalate [[',']] (fields.map settings.member) ++ [['\x7d']])

/-! ### Values -/

theorem plain_of_all {text : String}
    (all : (text.toList.all fun character =>
      character != '"' && character != '\\' && 0x20 ≤ character.toNat) = true) :
    Reader.Plain text.toList := by
  intro character member
  have checked := List.all_eq_true.1 all character member
  simp only [Bool.and_eq_true, bne_iff_ne, decide_eq_true_eq] at checked
  exact ⟨checked.1.1, checked.1.2, Nat.not_lt.2 checked.2⟩

theorem plain_key (field : Field) : Reader.Plain field.key.toList := by
  cases field <;> exact plain_of_all rfl

theorem plain_parity (parity : Parity) : Reader.Plain parity.name.toList := by
  cases parity <;> exact plain_of_all rfl

theorem plain_flowControl (flowControl : FlowControl) : Reader.Plain flowControl.name.toList := by
  cases flowControl <;> exact plain_of_all rfl

variable {Value : Type}

theorem digits_eq (number : Nat) : digits number = Nat.toDigits 10 number := by
  rw [digits, Nat.toString_eq_repr, Nat.toList_repr]

/-- Where every value is written as what it denotes, none is written as null. -/
theorem exists_orNull {write : Value → List Char} {denotes : Value → Json.Value → Prop}
    (writes : ∀ value, ∃ written, Spells written [write value] ∧ denotes value written)
    (given : Option Value) :
    ∃ written, Spells written [orNull write given] ∧ OrNull denotes given written := by
  cases given with
  | none => exact ⟨.null, .null, rfl⟩
  | some value => exact writes value

theorem exists_amount (number : Nat) :
    ∃ written, Spells written [digits number] ∧ written.IsInteger number := by
  have isWhole : IsWhole (digits number) := digits_eq number ▸ isWhole_toDigits number
  refine ⟨.number (digits number), .number isWhole.isNumber, _, rfl, isWhole, ?_⟩
  rw [digits_eq, Nat.ofDigitChars_ten_toDigits]

theorem exists_name {name : String} (plain : Reader.Plain name.toList) :
    ∃ written, Spells written [quoted name] ∧ written.IsName name :=
  ⟨.string name, .string (Quote.spells_of_plain plain), .inl rfl⟩

/-- The value of a field is written as what it is. -/
theorem exists_written (settings : Settings) (field : Field) :
    ∃ written, Spells written [settings.written field] ∧
      OrNull field.Denotes (settings.get field) written := by
  cases field with
  | dataBits => exact exists_orNull (fun number : UInt8 => exists_amount number.toNat) _
  | parity => exact exists_orNull (fun parity => exists_name (plain_parity parity)) _
  | stopBits => exact exists_orNull (fun number : UInt8 => exists_amount number.toNat) _
  | flowControl => exact exists_orNull (fun choice => exists_name (plain_flowControl choice)) _
  | timeout => exact exists_orNull (fun number : UInt64 => exists_amount number.toNat) _
  | settle => exact exists_orNull (fun number : UInt64 => exists_amount number.toNat) _

/-! ### Objects -/

/-- Members that say what some fields are, and among them all that are present, say the settings. -/
theorem writtenIn_map {settings : Settings} {fields : List Field} {value : Field → Json.Value}
    (distinct : fields.Nodup) (complete : ∀ field, settings.has field = true → field ∈ fields)
    (denoted : ∀ field, OrNull field.Denotes (settings.get field) (value field)) :
    settings.WrittenIn (fields.map fun field => (field.key, value field)) where
  known member isMember := by
    obtain ⟨field, _, rfl⟩ := List.mem_map.1 isMember
    exact ⟨field, rfl⟩
  distinct := by
    rw [List.map_map]
    exact distinct.map fun _ _ same => key_inj same
  absent field := by
    constructor
    · intro isAbsent written isMember
      obtain ⟨other, _, same⟩ := List.mem_map.1 isMember
      obtain ⟨sameKey, rfl⟩ := Prod.mk.inj same
      cases key_inj sameKey
      have said := denoted field
      rwa [isAbsent] at said
    · intro nulls
      cases isValue : settings.get field with
      | none => rfl
      | some given =>
        have present : field ∈ fields := complete field (by rw [has, isValue]; rfl)
        have said := denoted field
        rw [isValue, nulls _ (List.mem_map.2 ⟨field, present, rfl⟩)] at said
        exact absurd said (field.not_denotes_null given)
  present field given isValue := by
    have present : field ∈ fields := complete field (by rw [has, isValue]; rfl)
    have said := denoted field
    rw [isValue] at said
    exact ⟨value field, List.mem_map.2 ⟨field, present, rfl⟩, said⟩

/-- An object is read as the settings that were written into it. -/
theorem leads_read (wanted : Settings) {fields : List Field} (distinct : fields.Nodup)
    (complete : ∀ field, wanted.has field = true → field ∈ fields) :
    read.Leads (Spaced (wanted.tokens fields)) wanted (Spaced []) := by
  choose value spells denoted using wanted.exists_written
  let asWritten (field : Field) : Member :=
    ⟨field.key, field.key.toList, value field, [wanted.written field]⟩
  have keys : ∀ part ∈ fields.map asWritten, Quote.Spells part.key.toList part.body :=
    List.forall_mem_map.2 fun field _ => Quote.spells_of_plain (plain_key field)
  have values : ∀ part ∈ fields.map asWritten, Spells part.value part.tokens :=
    List.forall_mem_map.2 fun field _ => spells field
  have spelled := Spells.object keys values
  rw [List.map_map, List.map_map] at spelled
  exact leads_read_object spelled (writtenIn_map distinct complete denoted)

end Settings

/-! ### Files -/

/-- The bytes for which a text stands in a file. -/
def Text.utf8 (text : List Char) : Bytes :=
  text.flatMap String.utf8EncodeChar

theorem Host.decodeText_utf8 (text : List Char) :
    Host.decodeText (Text.utf8 text) = .ok (String.ofList text) := by
  have valid : (Text.utf8 text).toByteArray.IsValidUTF8 := ByteArray.isValidUTF8_utf8Encode
  have decoded : String.fromUTF8? (Text.utf8 text).toByteArray = some (String.ofList text) :=
    dif_pos valid
  rw [Host.decodeText, decoded]

/-- Whether a path leads to a file, or to a device, that holds a text. -/
structure Host.Holds (host : Host) (path : String) (text : List Char) : Prop where
  named : Host.hasNul path = false
  found : ∃ node, host.find path = .ok node ∧ node.read = .ok (Text.utf8 text)

theorem Host.Holds.readText {host : Host} {path : String} {text : List Char}
    (holds : host.Holds path text) : host.readText path = .ok (String.ofList text) := by
  obtain ⟨named, node, found, contents⟩ := holds
  have read : (host.find path >>= Node.read) = .ok (Text.utf8 text) := by
    rw [found]
    exact contents
  rw [Host.readText, if_neg (ne_true_of_eq_false named), read]
  exact Host.decodeText_utf8 text

/-- A file that holds a text is what this text stands for. -/
theorem Settings.ofFile_of_holds {host : Host} {path : String} {text : List Char}
    (holds : host.Holds path text) :
    ofFile host path = (ofText (String.ofList text)).mapError (.malformed path) := by
  rw [ofFile, holds.readText]
  rfl

/-- A file is read as the settings that were written into it, whatever they are: in whichever order
their fields were written, whether or not a field that is absent was written as null, and whatever
blanks there are between the tokens. -/
theorem ofFile_written {host : Host} {path : String} {settings : Settings}
    {fields : List Settings.Field} {text : List Char} (distinct : fields.Nodup)
    (complete : ∀ field, settings.has field = true → field ∈ fields)
    (spaced : Json.Spaced (settings.tokens fields) text) (holds : host.Holds path text) :
    Settings.ofFile host path = .ok settings := by
  have read : Settings.ofText (String.ofList text) = .ok settings :=
    (Settings.leads_read settings distinct complete).runAll spaced
  rw [Settings.ofFile, holds.readText]
  show (Settings.ofText (String.ofList text)).mapError _ = _
  rw [read]
  rfl

/-- A machine with one file, which lies in the directory in which programs run. -/
def machineWith (name : String) (text : List Char) : Host where
  tree place :=
    if place = [] then some .directory
    else if place = [name] then some (.file (Text.utf8 text))
    else none

/-- The largest delay, no parity that is written as such, and data bits behind them. -/
theorem ofFile_written_backwards :
    Settings.ofFile
        (machineWith "line.json"
          "\n\x7b\"settle_ms\" :18446744073709551615,\t\"parity\":null,\"data_bits\":7\x7d ".toList)
        "line.json" =
      .ok { dataBits := some 7, settle := some 18446744073709551615 } := by
  let settings : Settings := { dataBits := some 7, settle := some 18446744073709551615 }
  have complete : ∀ field, settings.has field = true →
      field ∈ [Settings.Field.settle, .parity, .dataBits] := by
    intro field present
    cases field <;> first | decide | cases present
  have spaced := @Json.spaced_flatMap
    [(['\n'], ['\x7b']),
      ([], Settings.quoted "settle_ms"), ([' '], [':']), ([], Settings.digits (2 ^ 64 - 1)),
      ([], [',']), (['\t'], Settings.quoted "parity"), ([], [':']), ([], "null".toList),
      ([], [',']), ([], Settings.quoted "data_bits"), ([], [':']), ([], Settings.digits 7),
      ([], ['\x7d'])]
    [' '] (by simp [Json.blanks]) (by simp [Json.blanks])
  exact @ofFile_written _ _ settings _ _ (by decide) complete spaced ⟨rfl, _, rfl, rfl⟩

end SerialFeed
