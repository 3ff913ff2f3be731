/-
This file says when the members of an object are settings, and shows that an object of which this is
true is read as these settings, however it is written: in whichever order its members stand, by
whichever escapes its keys and names are spelled, and whatever blanks there are between its tokens.
-/

import Mathlib.Data.List.Nodup
import SerialFeed.Proofs.Fields
import SerialFeed.Proofs.Grammar
import SerialFeed.Settings.Reader

namespace SerialFeed

namespace Json

namespace Value

/-- Whether a value is an integer without sign, fraction and exponent. -/
def IsInteger (written : Value) (number : Nat) : Prop :=
  ∃ digits, written = .number digits ∧ IsWhole digits ∧ Nat.ofDigitChars 10 digits 0 = number

/-- Whether a value is a name, as a string or as the only key of an object, with null behind it. -/
def IsName (written : Value) (name : String) : Prop :=
  written = .string name ∨ written = .object [(name, .null)]

variable {written : Value}

theorem IsInteger.ne_null {number : Nat} (isInteger : written.IsInteger number) :
    written ≠ .null := by
  obtain ⟨digits, rfl, _⟩ := isInteger
  exact nofun

theorem IsName.ne_null {name : String} (isName : written.IsName name) : written ≠ .null := by
  obtain rfl | rfl := isName <;> exact nofun

end Value

/-! ### Tokens -/

theorem Number.begins_of_blank : ∀ character ∈ blanks, Number.begins character = false := by
  simp [blanks, Number.begins]

/-- A value that is no null does not begin with its letter, and no value begins with a blank. -/
theorem Spells.exists_first {written : Value} {tokens : List (List Char)}
    (spells : Spells written tokens) :
    ∃ first token rest, tokens = (first :: token) :: rest ∧ first ∉ blanks ∧
      (first = 'n' → written = .null) := by
  cases spells with
  | null => exact ⟨'n', _, [], rfl, by decide, fun _ => rfl⟩
  | boolean truth =>
    cases truth with
    | true => exact ⟨'t', _, [], rfl, by decide, fun same => absurd same (by decide)⟩
    | false => exact ⟨'f', _, [], rfl, by decide, fun same => absurd same (by decide)⟩
  | number isNumber =>
    obtain ⟨first, rest, rfl, begins⟩ := isNumber.exists_first
    refine ⟨first, rest, [], rfl, fun blank => ?_, ?_⟩
    · rw [Number.begins_of_blank first blank] at begins
      cases begins
    · rintro rfl
      exact absurd begins (by decide)
  | string => exact ⟨'"', _, [], rfl, by decide, fun same => absurd same (by decide)⟩
  | list => exact ⟨'[', [], _, rfl, by decide, fun same => absurd same (by decide)⟩
  | object => exact ⟨'\x7b', [], _, rfl, by decide, fun same => absurd same (by decide)⟩

theorem Spells.eq_of_null {tokens : List (List Char)} (spells : Spells .null tokens) :
    tokens = ["null".toList] := by
  cases spells
  rfl

/-- An object is spelled by its members. -/
theorem Spells.exists_members {content : List (String × Value)} {tokens : List (List Char)}
    (spells : Spells (.object content) tokens) :
    ∃ members : List Member, content = members.map Member.content ∧
      (∀ member ∈ members, Quote.Spells member.key.toList member.body) ∧
      (∀ member ∈ members, Spells member.value member.tokens) ∧
      tokens =
        ['\x7b'] :: (List.intercalate [[',']] (members.map Member.spelling) ++ [['\x7d']]) := by
  cases spells with
  | object keys values => exact ⟨_, rfl, keys, values, rfl⟩

namespace Reader

variable {Value : Type} {others : List (List Char)}

/-- Whether a reader gives every value that stands in a text in front of some other tokens. -/
def Accepts (others : List (List Char)) (reader : Reader Value)
    (denotes : Value → Json.Value → Prop) : Prop :=
  ∀ ⦃written tokens value⦄, Spells written tokens → denotes value written →
    reader.Leads (Spaced (tokens ++ others)) value (Spaced others)

/-- A string is read from every text that spells it. -/
theorem leads_quote_of_spells {text body : List Char} {after : List Char → Prop}
    (spells : Quote.Spells text body) :
    Leads (Begins ('"' :: (body ++ ['"'])) after) Quote.read text after := by
  refine (leads_skip_one _ _).bind ?_
  rintro cursor ⟨rest, here, later⟩
  obtain ⟨next, reads⟩ := Quote.body_of_spells spells rest cursor.position
  refine ⟨⟨rest, next⟩, ?_, later⟩
  show Quote.body cursor.position cursor.rest = _
  rw [here, List.append_assoc]
  exact reads

end Reader

end Json

namespace Settings

open Json

/-! ### What is written -/

/-- Whether a value stands for what a field can be. -/
def Field.Denotes : (field : Field) → field.Value → Json.Value → Prop
  | .dataBits, number, written => written.IsInteger (UInt8.toNat number)
  | .parity, choice, written => written.IsName (Parity.name choice)
  | .stopBits, number, written => written.IsInteger (UInt8.toNat number)
  | .flowControl, choice, written => written.IsName (FlowControl.name choice)
  | .timeout, number, written => written.IsInteger (UInt64.toNat number)
  | .settle, number, written => written.IsInteger (UInt64.toNat number)

theorem Field.not_denotes_null (field : Field) (value : field.Value) :
    ¬ field.Denotes value .null := by
  intro denotes
  cases field <;> exact denotes.ne_null rfl

/-- Whether settings are what the members of an object say: each member is a field of its own, and a
field is absent exactly if its member is missing or null and otherwise is what its member says. -/
structure WrittenIn (settings : Settings) (members : List (String × Json.Value)) : Prop where
  known : ∀ member ∈ members, ∃ field : Field, member.1 = field.key
  distinct : (members.map Prod.fst).Nodup
  absent : ∀ field, settings.get field = none ↔
    ∀ written, (field.key, written) ∈ members → written = .null
  present : ∀ field value, settings.get field = some value →
    ∃ written, (field.key, written) ∈ members ∧ field.Denotes value written

/-- Whether a value stands for what a field can be, or is null in the place of none. -/
def OrNull {Value : Type} (denotes : Value → Json.Value → Prop) :
    Option Value → Json.Value → Prop
  | none, written => written = .null
  | some value, written => denotes value written

theorem Field.key_of_ofKey? {key : String} {field : Field} (known : ofKey? key = some field) :
    field.key = key := by
  have same := List.find?_some known
  exact beq_iff_eq.1 same

theorem key_inj {field other : Field} (same : field.key = other.key) : field = other := by
  have known := Field.ofKey?_key field
  rw [same, Field.ofKey?_key] at known
  exact (Option.some.inj known).symm

/-! ### Tokens -/

/-- The tokens of members, of which the first has no comma in front of it if it is the first of
all. -/
def memberTokens (first : Bool) (members : List Member) : List (List Char) :=
  if first then List.intercalate [[',']] (members.map Member.spelling)
  else members.flatMap fun member => [','] :: member.spelling

/-- Behind the first of some parts each part has the separator in front of it. -/
theorem intercalate_cons {Token : Type} (separator part : List Token) (rest : List (List Token)) :
    List.intercalate separator (part :: rest) = part ++ rest.flatMap (separator ++ ·) := by
  induction rest generalizing part with
  | nil => rw [List.intercalate_singleton, List.flatMap_nil, List.append_nil]
  | cons next others inductionHypothesis =>
    rw [List.intercalate_cons_cons, inductionHypothesis, List.flatMap_cons, List.append_assoc,
      List.append_assoc]

theorem memberTokens_cons (first : Bool) (member : Member) (rest : List Member) :
    memberTokens first (member :: rest) =
      (if first then [] else [[',']]) ++ (member.spelling ++ memberTokens false rest) := by
  cases first with
  | true =>
    show List.intercalate [[',']] ((member :: rest).map Member.spelling) = _
    rw [List.map_cons, intercalate_cons, List.flatMap_map]
    rfl
  | false => rfl

/-! ### Values -/

variable {Value : Type} {others : List (List Char)}

theorem accepts_optional {reader : Reader Value} {denotes : Value → Json.Value → Prop}
    (unlike : ∀ value, ¬ denotes value .null) (accepts : reader.Accepts others denotes) :
    (readOptional reader).Accepts others (OrNull denotes) := by
  intro written tokens given spells denoted
  cases given with
  | none =>
    obtain rfl : written = .null := denoted
    rw [spells.eq_of_null]
    refine (Reader.leads_peekBehindBlanks ['u', 'l', 'l'] (by decide)).bind ?_
    exact (Reader.leads_skip_one 'n' _).bind
      ((Reader.leads_word ['u', 'l', 'l']).bind (Reader.leads_pure none))
  | some value =>
    obtain ⟨first, token, rest, rfl, solid, isNull⟩ := spells.exists_first
    refine (Reader.leads_peekBehindBlanks token solid).bind ?_
    split
    · rename_i same
      exact absurd (isNull (Option.some.inj same) ▸ denoted) (unlike value)
    · exact ((accepts spells denoted).weaken fun _ => Spaced.of_begins).map some

theorem accepts_integer {limit : Nat} (expected : String) (small : limit ≤ Number.largest)
    (separated : ∀ text, Spaced others text → Reader.Separated text) :
    (readInteger limit expected).Accepts others fun number written =>
      number ≤ limit ∧ written.IsInteger number := by
  intro written tokens number spells denoted
  obtain ⟨fits, digits, rfl, isWhole, rfl⟩ := denoted
  have reads := Reader.leads_number (fits.trans small) separated
  rw [isWhole.toDigits_eq] at reads
  cases spells with
  | number isNumber =>
    obtain ⟨first, rest, rfl, begins⟩ := isNumber.exists_first
    have solid : first ∉ blanks := fun blank =>
      Bool.false_ne_true ((Number.begins_of_blank first blank).symm.trans begins)
    refine (Reader.leads_peekBehindBlanks rest solid).bind ?_
    simp only [begins, if_true]
    refine reads.bind ?_
    have inRange : (0 : Int) ≤ Nat.ofDigitChars 10 (first :: rest) 0 ∧
        (Nat.ofDigitChars 10 (first :: rest) 0 : Int) ≤ limit :=
      ⟨Int.natCast_nonneg _, Int.ofNat_le.2 fits⟩
    simp only [inRange, and_self, if_true]
    exact Reader.leads_pure _

/-- A value that stands for a number is read from every integer that is this number. -/
theorem accepts_amount {limit : Nat} {ofNat : Nat → Value} {amount : Value → Nat}
    (expected : String) (small : limit ≤ Number.largest) (fits : ∀ value, amount value ≤ limit)
    (inverse : ∀ value, ofNat (amount value) = value)
    (separated : ∀ text, Spaced others text → Reader.Separated text) :
    Reader.Accepts others (do return ofNat (← readInteger limit expected)) fun value written =>
      written.IsInteger (amount value) := by
  intro written tokens value spells denoted
  have reads := (accepts_integer expected small separated spells ⟨fits value, denoted⟩).map ofNat
  rwa [inverse] at reads

theorem accepts_bits (separated : ∀ text, Spaced others text → Reader.Separated text) :
    readBits.Accepts others fun number written => written.IsInteger number.toNat := by
  have fits : ∀ number : UInt8, number.toNat ≤ UInt8.size - 1 :=
    fun number => Nat.le_pred_of_lt number.toNat_lt
  exact @accepts_amount UInt8 others _ UInt8.ofNat _ "u8" (by decide) fits
    (fun _ => UInt8.ofNat_toNat) separated

theorem accepts_time (separated : ∀ text, Spaced others text → Reader.Separated text) :
    readTime.Accepts others fun number written => written.IsInteger number.toNat := by
  have fits : ∀ number : UInt64, number.toNat ≤ UInt64.size - 1 :=
    fun number => Nat.le_pred_of_lt number.toNat_lt
  exact @accepts_amount UInt64 others _ UInt64.ofNat _ "u64" (by decide) fits
    (fun _ => UInt64.ofNat_toNat) separated

variable {name : Value → String} {all : List Value}

/-- A name is read if it can be told from the other names. -/
theorem leads_readName {after : List Char → Prop} {value : Value} {body : List Char}
    (known : (all.find? fun other => name other == name value) = some value)
    (spells : Quote.Spells (name value).toList body) :
    (readName name all).Leads (Begins ('"' :: (body ++ ['"'])) after) value after := by
  refine (Reader.leads_quote_of_spells spells).bind ?_
  simp only [String.ofList_toList, known]
  exact Reader.leads_pure value

theorem leads_readNothing :
    readNothing.Leads (Spaced ("null".toList :: others)) () (Spaced others) := by
  refine (Reader.leads_peekBehindBlanks ['u', 'l', 'l'] (by decide)).bind ?_
  exact (Reader.leads_skip_one 'n' _).bind (Reader.leads_word ['u', 'l', 'l'])

theorem leads_readNameAsKey {value : Value} {body : List Char}
    (known : (all.find? fun other => name other == name value) = some value)
    (spells : Quote.Spells (name value).toList body) :
    (readNameAsKey name all).Leads
      (Spaced (('"' :: (body ++ ['"'])) :: [':'] :: "null".toList :: ['\x7d'] :: others)) value
      (Spaced others) := by
  refine (Reader.leads_peekBehindBlanks _ (by decide)).bind ?_
  refine (leads_readName known spells).bind ?_
  refine Reader.leads_colon.bind (leads_readNothing.bind ?_)
  refine (Reader.leads_peekBehindBlanks [] (by decide)).bind ?_
  exact (Reader.leads_skip ['\x7d']).bind (Reader.leads_pure value)

theorem accepts_choice
    (known : ∀ value, (all.find? fun other => name other == name value) = some value) :
    (readChoice name all).Accepts others fun value written => written.IsName (name value) := by
  intro written tokens value spells denoted
  obtain rfl | rfl := denoted
  · cases spells with
    | string spelled =>
      refine (Reader.leads_peekBehindBlanks _ (by decide)).bind ?_
      exact leads_readName (known value) spelled
  · obtain ⟨members, same, keys, values, rfl⟩ := spells.exists_members
    obtain ⟨member, rfl, content⟩ := List.map_eq_singleton_iff.1 same.symm
    obtain ⟨isKey, isNull⟩ := Prod.mk.inj content
    have spelledKey := keys member List.mem_cons_self
    have spelledNull := values member List.mem_cons_self
    rw [isKey] at spelledKey
    rw [isNull] at spelledNull
    rw [List.map_singleton, List.intercalate_singleton, Member.spelling, spelledNull.eq_of_null]
    refine (Reader.leads_peekBehindBlanks [] (by decide)).bind ?_
    exact (Reader.leads_skip ['\x7b']).bind (leads_readNameAsKey (known value) spelledKey)

/-! ### Fields -/

/-- The value of a field is read into the settings. -/
theorem leads_readField (wanted settings : Settings) {field : Field} {written : Json.Value}
    {tokens : List (List Char)} (spells : Spells written tokens)
    (denoted : OrNull field.Denotes (wanted.get field) written)
    (separated : ∀ text, Spaced others text → Reader.Separated text) :
    (readField settings field).Leads (Spaced (tokens ++ others)) (wanted.adopt settings field)
      (Spaced others) := by
  have unlike := field.not_denotes_null
  cases field with
  | dataBits =>
    have accepts := accepts_optional unlike (accepts_bits separated)
    exact (accepts spells denoted).map fun dataBits => { settings with dataBits }
  | parity =>
    have accepts := @accepts_optional _ others _ _ unlike (accepts_choice Parity.ofName?_name)
    exact (accepts spells denoted).map fun parity => { settings with parity }
  | stopBits =>
    have accepts := accepts_optional unlike (accepts_bits separated)
    exact (accepts spells denoted).map fun stopBits => { settings with stopBits }
  | flowControl =>
    have accepts := @accepts_optional _ others _ _ unlike (accepts_choice FlowControl.ofName?_name)
    exact (accepts spells denoted).map fun flowControl => { settings with flowControl }
  | timeout =>
    have accepts := accepts_optional unlike (accepts_time separated)
    exact (accepts spells denoted).map fun timeout => { settings with timeout }
  | settle =>
    have accepts := accepts_optional unlike (accepts_time separated)
    exact (accepts spells denoted).map fun settle => { settings with settle }

/-! ### Members -/

/-- The key of a member is read behind the comma in front of it, if it has one. -/
theorem leads_readKey {key : String} {body : List Char} (first : Bool)
    (spells : Quote.Spells key.toList body) :
    (readKey first).Leads
      (Spaced ((if first then [] else [[',']]) ++ ('"' :: (body ++ ['"'])) :: others)) (some key)
      (Spaced others) := by
  have quoted : Reader.Leads (Begins ('"' :: (body ++ ['"'])) (Spaced others))
      (do return some (String.ofList (← Quote.read))) (some key) (Spaced others) := by
    have whole := (@Reader.leads_quote_of_spells _ _ (Spaced others) spells).map
      fun text => some (String.ofList text)
    rwa [String.ofList_toList] at whole
  cases first with
  | true => exact (Reader.leads_peekBehindBlanks _ (by decide)).bind quoted
  | false =>
    refine (Reader.leads_peekBehindBlanks [] (by decide)).bind ?_
    refine (Reader.leads_skip [',']).bind ?_
    exact (Reader.leads_peekBehindBlanks _ (by decide)).bind quoted

theorem leads_readKey_end (first : Bool) :
    (readKey first).Leads (Spaced (['\x7d'] :: others)) none (Spaced others) :=
  (Reader.leads_peekBehindBlanks [] (by decide)).bind
    ((Reader.leads_skip ['\x7d']).bind (Reader.leads_pure none))

/-- Behind a value there is a comma or the end of the object. -/
theorem separated_memberTokens (members : List Member) {text : List Char}
    (spaced : Spaced (memberTokens false members ++ ['\x7d'] :: others) text) :
    Reader.Separated text := by
  cases members with
  | nil => exact Reader.separated_of_spaced (by decide) spaced
  | cons member rest => exact Reader.separated_of_spaced (by decide) spaced

/-- Once a member has been read, those that are still to come are awaited as before. -/
theorem awaited_erase {field : Field} {rest unmet : List Field} (distinct : (field :: rest).Nodup)
    (awaited : ∀ other ∈ rest, other ∈ unmet) : ∀ other ∈ rest, other ∈ unmet.erase field := by
  intro other member
  have apart : other ≠ field := fun same => (List.nodup_cons.1 distinct).1 (same ▸ member)
  exact (List.mem_erase_of_ne apart).2 (awaited other member)

/-- Members are read one after the other into the settings. -/
theorem leads_readMembers (wanted settings : Settings) {first : Bool} {members : List Member}
    {fields unmet : List Field} (isFields : members.map Member.key = fields.map Field.key)
    (distinct : fields.Nodup) (awaited : ∀ field ∈ fields, field ∈ unmet)
    (keys : ∀ member ∈ members, Quote.Spells member.key.toList member.body)
    (values : ∀ member ∈ members, Spells member.value member.tokens)
    (denoted : ∀ member ∈ members, ∀ field : Field, member.key = field.key →
      OrNull field.Denotes (wanted.get field) member.value) :
    (readMembers first unmet settings).Leads
      (Spaced (memberTokens first members ++ ['\x7d'] :: others))
      (fields.foldl wanted.adopt settings) (Spaced others) := by
  induction members generalizing first fields unmet settings with
  | nil =>
    obtain rfl := List.map_eq_nil_iff.1 isFields.symm
    rw [readMembers]
    cases first <;> exact (leads_readKey_end _).bind (Reader.leads_pure settings)
  | cons member rest inductionHypothesis =>
    obtain ⟨field, later, rfl, isKey, isLater⟩ := List.map_eq_cons_iff.1 isFields.symm
    obtain ⟨awaitedFirst, awaitedRest⟩ := List.forall_mem_cons.1 awaited
    obtain ⟨key, keysRest⟩ := List.forall_mem_cons.1 keys
    obtain ⟨value, valuesRest⟩ := List.forall_mem_cons.1 values
    obtain ⟨denotedFirst, denotedRest⟩ := List.forall_mem_cons.1 denoted
    have still := awaited_erase distinct awaitedRest
    have readsLater := @inductionHypothesis (wanted.adopt settings field) false later _ isLater.symm
      distinct.of_cons still keysRest valuesRest denotedRest
    have readsField := leads_readField wanted settings value (denotedFirst field isKey.symm)
      fun _ => @separated_memberTokens others rest _
    rw [readMembers, memberTokens_cons, List.append_assoc, List.append_assoc]
    refine (leads_readKey first key).bind ?_
    rw [← isKey]
    simp only [Field.ofKey?_key, awaitedFirst, dite_true]
    exact Reader.leads_colon.bind (readsField.bind readsLater)

/-! ### Objects -/

namespace WrittenIn

variable {settings : Settings} {members : List (String × Json.Value)}

/-- The keys of the members are those of some fields. -/
theorem exists_fields (isWritten : settings.WrittenIn members) :
    ∃ fields : List Field, members.map Prod.fst = fields.map Field.key := by
  have known := isWritten.known
  clear isWritten
  induction members with
  | nil => exact ⟨[], rfl⟩
  | cons member rest inductionHypothesis =>
    obtain ⟨⟨field, isKey⟩, knownRest⟩ := List.forall_mem_cons.1 known
    obtain ⟨fields, isFields⟩ := inductionHypothesis knownRest
    exact ⟨field :: fields, by rw [List.map_cons, List.map_cons, isKey, isFields]⟩

/-- A member says what its field is. -/
theorem denoted (isWritten : settings.WrittenIn members) {field : Field} {written : Json.Value}
    (member : (field.key, written) ∈ members) :
    OrNull field.Denotes (settings.get field) written := by
  cases isValue : settings.get field with
  | none => exact (isWritten.absent field).1 isValue written member
  | some value =>
    obtain ⟨other, isMember, denotes⟩ := isWritten.present field value isValue
    have same := List.inj_on_of_nodup_map isWritten.distinct isMember member rfl
    obtain ⟨_, rfl⟩ := Prod.mk.inj same
    exact denotes

end WrittenIn

/-- An object is read as the settings that its members say. -/
theorem leads_read_object {settings : Settings} {content : List (String × Json.Value)}
    {tokens : List (List Char)} (spells : Spells (.object content) tokens)
    (isWritten : settings.WrittenIn content) :
    read.Leads (Spaced tokens) settings (Spaced []) := by
  obtain ⟨members, rfl, keys, values, rfl⟩ := spells.exists_members
  obtain ⟨fields, isFields⟩ := isWritten.exists_fields
  have distinct : fields.Nodup := List.Nodup.of_map Field.key (isFields ▸ isWritten.distinct)
  have awaited : ∀ field ∈ fields, field ∈ Field.all := by
    intro field _
    cases field <;> decide
  have complete : ∀ field, settings.has field = true → field ∈ fields := by
    intro field present
    obtain ⟨value, isValue⟩ := Option.isSome_iff_exists.1 present
    obtain ⟨written, member, _⟩ := isWritten.present field value isValue
    have isKey := List.mem_map_of_mem (f := Prod.fst) member
    rw [isFields] at isKey
    obtain ⟨other, isField, same⟩ := List.mem_map.1 isKey
    exact key_inj same ▸ isField
  have denoted : ∀ member ∈ members, ∀ field : Field, member.key = field.key →
      OrNull field.Denotes (settings.get field) member.value := by
    intro member isMember field isKey
    have content := List.mem_map_of_mem (f := Member.content) isMember
    rw [Member.content, isKey] at content
    exact isWritten.denoted content
  rw [List.map_map] at isFields
  refine (Reader.leads_peekBehindBlanks [] (by decide)).bind ?_
  refine (Reader.leads_skip ['\x7b']).bind ?_
  have reads := @leads_readMembers [] settings {} true members fields Field.all isFields distinct
    awaited keys values denoted
  rwa [foldl_adopt_eq complete] at reads

end Settings

end SerialFeed
