/-
This file shows that settings are read strictly. Whatever is read from an object is written there:
the reader passes one whole object and then only blanks, every key of it is that of a field and none
occurs twice, and a field of the result has the value that stands behind its key. So a text in which
anything else stands is refused, wherever it stands and whatever comes before it.
-/

import Mathlib
import SerialFeed.Proofs.Acceptance
import SerialFeed.Proofs.Spelling

namespace SerialFeed

namespace Json

/-! ### Passing tokens -/

theorem Spaced.append {tokens others : List (List Char)} {text rest : List Char}
    (first : Spaced tokens text) (second : Spaced others rest) :
    Spaced (tokens ++ others) (text ++ rest) := by
  induction first with
  | @nil gap blank =>
    cases second with
    | @nil last blankLast =>
      exact .nil fun character member =>
        (List.mem_append.1 member).elim (blank character) (blankLast character)
    | @cons between token tokens text blankBetween later =>
      rw [List.nil_append, ← List.append_assoc]
      exact .cons (fun character member =>
        (List.mem_append.1 member).elim (blank character) (blankBetween character)) later
  | @cons gap token tokens text blank later inductionHypothesis =>
    rw [List.append_assoc, List.append_assoc]
    exact .cons blank inductionHypothesis

namespace Cursor

/-- Whether some tokens, and only blanks besides, stand between two places of a text. -/
def Passes (cursor : Cursor) (tokens : List (List Char)) (next : Cursor) : Prop :=
  ∃ text, cursor.rest = text ++ next.rest ∧ Spaced tokens text

variable {cursor between next : Cursor} {tokens others : List (List Char)}

theorem Passes.append (first : cursor.Passes tokens between)
    (second : between.Passes others next) : cursor.Passes (tokens ++ others) next := by
  obtain ⟨text, here, spaced⟩ := first
  obtain ⟨rest, there, spacedRest⟩ := second
  exact ⟨text ++ rest, by rw [here, there, List.append_assoc], spaced.append spacedRest⟩

theorem Passes.token {token : List Char} (here : cursor.rest = token ++ next.rest) :
    cursor.Passes [token] next := by
  refine ⟨token, here, ?_⟩
  have spaced : Spaced [token] (token ++ []) := .of_begins ⟨[], rfl, .nil nofun⟩
  rwa [List.append_nil] at spaced

theorem passes_skipBlanks (cursor : Cursor) : cursor.Passes [] cursor.skipBlanks := by
  refine ⟨cursor.rest.takeWhile isBlank, ?_, .nil fun character member => ?_⟩
  · rw [Reader.rest_skipBlanks, List.takeWhile_append_dropWhile]
  · exact isBlank_iff.1 (List.mem_takeWhile_imp member)

end Cursor

namespace Reader

variable {Value : Type} {cursor next : Cursor}

theorem peekBehindBlanks_ok {answer : Option Char}
    (done : peekBehindBlanks cursor = .ok (answer, next)) :
    cursor.Passes [] next ∧ next.rest.head? = answer := by
  cases done
  exact ⟨cursor.passes_skipBlanks, rfl⟩

theorem skip_ok {first : Char} (done : skip 1 cursor = .ok ((), next))
    (ahead : cursor.rest.head? = some first) : cursor.rest = first :: next.rest := by
  cases done
  obtain ⟨rest, here⟩ := List.head?_eq_some_iff.1 ahead
  show _ = first :: cursor.rest.drop 1
  rw [here]
  rfl

theorem word_ok {word : List Char} (done : Reader.word word cursor = .ok ((), next)) :
    cursor.rest = word ++ next.rest := by
  induction word generalizing cursor with
  | nil =>
    cases done
    rfl
  | cons letter others inductionHypothesis =>
    obtain ⟨answer, _, peeked, goesOn⟩ := bind_ok done
    obtain ⟨rfl, ahead⟩ := peek_ok peeked
    split at goesOn
    · cases goesOn
    · split at goesOn
      · rename_i same
        obtain ⟨_, between, skipped, later⟩ := bind_ok goesOn
        rw [skip_ok skipped ahead.symm, same, inductionHypothesis later]
        rfl
      · cases goesOn

/-- The word for nothing is passed as a whole. -/
theorem null_ok {between : Cursor} (ahead : cursor.rest.head? = some 'n')
    (skipped : skip 1 cursor = .ok ((), between))
    (passed : Reader.word ['u', 'l', 'l'] between = .ok ((), next)) :
    cursor.Passes ["null".toList] next := by
  refine .token ?_
  rw [skip_ok skipped ahead, word_ok passed]
  rfl

/-- What is read behind an opening quote is passed with both quotes. -/
theorem quote_ok {text : List Char} (ahead : cursor.rest.head? = some '"')
    (done : Quote.read cursor = .ok (text, next)) :
    ∃ body, Quote.Spells text body ∧ cursor.Passes ['"' :: (body ++ ['"'])] next := by
  obtain ⟨_, between, skipped, read⟩ := bind_ok done
  obtain ⟨body, split, spells⟩ := Quote.body_ok read
  refine ⟨body, spells, .token ?_⟩
  rw [skip_ok skipped ahead, split, List.cons_append, List.append_assoc]
  rfl

theorem colon_ok (done : colon cursor = .ok ((), next)) : cursor.Passes [[':']] next := by
  obtain ⟨answer, between, peeked, goesOn⟩ := bind_ok done
  obtain ⟨gap, ahead⟩ := peekBehindBlanks_ok peeked
  split at goesOn
  · cases goesOn
  · exact gap.append (.token (skip_ok goesOn ahead))
  · cases goesOn

theorem finish_ok (done : finish cursor = .ok ((), next)) :
    cursor.Passes [] next ∧ next.rest = [] := by
  obtain ⟨answer, between, peeked, goesOn⟩ := bind_ok done
  obtain ⟨gap, ahead⟩ := peekBehindBlanks_ok peeked
  split at goesOn
  · cases goesOn
    exact ⟨gap, List.head?_eq_none_iff.1 ahead⟩
  · cases goesOn

/-- What is made of a whole text is made by the reader, which leaves only blanks. -/
theorem runAll_ok {reader : Reader Value} {text : String} {value : Value}
    (done : runAll reader text = .ok value) :
    ∃ between last, reader (Cursor.ofText text) = .ok (value, between) ∧
      between.Passes [] last ∧ last.rest = [] := by
  cases ran : (do
      let value ← reader
      finish
      return value : Reader Value) (Cursor.ofText text) with
  | error complaint =>
    have failed : (Prod.fst <$> (Except.error complaint : Except Complaint (Value × Cursor))) =
        Except.ok value := ran ▸ done
    cases failed
  | ok result =>
    obtain ⟨found, last⟩ := result
    have same : (Prod.fst <$> (Except.ok (found, last) : Except Complaint (Value × Cursor))) =
        Except.ok value := ran ▸ done
    cases same
    obtain ⟨found, between, read, goesOn⟩ := bind_ok ran
    obtain ⟨_, last, finished, goesOn⟩ := bind_ok goesOn
    cases goesOn
    exact ⟨between, last, read, finish_ok finished⟩

/-- Nothing is read where something else stands. -/
theorem mismatch_ne {character : Char} {expected : String} {value : Value} :
    mismatch character expected cursor ≠ .ok (value, next) := by
  intro done
  obtain ⟨_, _, _, goesOn⟩ := bind_ok done
  cases goesOn

/-- Whether what a reader gives stands in the text that it passes. -/
def Reads (reader : Reader Value) (denotes : Value → Json.Value → Prop) : Prop :=
  ∀ ⦃cursor next : Cursor⦄ ⦃value : Value⦄, reader cursor = .ok (value, next) →
    ∃ written tokens, Spells written tokens ∧ cursor.Passes tokens next ∧ denotes value written

end Reader

end Json

namespace Settings

open Json

/-! ### Values -/

variable {Value : Type}

theorem reads_optional {reader : Reader Value} {denotes : Value → Json.Value → Prop}
    (reads : reader.Reads denotes) : (readOptional reader).Reads (OrNull denotes) := by
  intro cursor next given done
  obtain ⟨answer, between, peeked, goesOn⟩ := Reader.bind_ok done
  obtain ⟨gap, ahead⟩ := Reader.peekBehindBlanks_ok peeked
  split at goesOn
  · obtain ⟨_, inside, skipped, goesOn⟩ := Reader.bind_ok goesOn
    obtain ⟨_, last, passed, goesOn⟩ := Reader.bind_ok goesOn
    cases goesOn
    exact ⟨.null, _, .null, gap.append (Reader.null_ok ahead skipped passed), rfl⟩
  · obtain ⟨value, last, read, goesOn⟩ := Reader.bind_ok goesOn
    cases goesOn
    obtain ⟨written, tokens, spells, passes, denoted⟩ := reads read
    exact ⟨written, tokens, spells, gap.append passes, denoted⟩

theorem reads_integer {limit : Nat} {expected : String} :
    (readInteger limit expected).Reads fun number written =>
      number ≤ limit ∧ written.IsInteger number := by
  intro cursor next number done
  obtain ⟨answer, between, peeked, goesOn⟩ := Reader.bind_ok done
  obtain ⟨gap, ahead⟩ := Reader.peekBehindBlanks_ok peeked
  split at goesOn
  · cases goesOn
  · split at goesOn
    · obtain ⟨found, last, read, goesOn⟩ := Reader.bind_ok goesOn
      split at goesOn
      · cases goesOn
      · split at goesOn
        · rename_i value inRange
          cases goesOn
          obtain ⟨digits, here, isWhole, same⟩ := Reader.number_ok read inRange.1
          have natural : Nat.ofDigitChars 10 digits 0 = value.toNat := by omega
          exact ⟨.number digits, _, .number isWhole.isNumber, gap.append (.token here), by omega,
            digits, rfl, isWhole, natural⟩
        · cases goesOn
    · exact absurd goesOn Reader.mismatch_ne

/-- A value that stands for a number is read from an integer. -/
theorem reads_amount {limit : Nat} {expected : String} {ofNat : Nat → Value} {amount : Value → Nat}
    (inverse : ∀ number ≤ limit, amount (ofNat number) = number) :
    Reader.Reads (do return ofNat (← readInteger limit expected)) fun value written =>
      written.IsInteger (amount value) := by
  intro cursor next value done
  obtain ⟨number, last, read, goesOn⟩ := Reader.bind_ok done
  obtain ⟨written, tokens, spells, passes, small, isInteger⟩ := reads_integer read
  cases goesOn
  refine ⟨written, tokens, spells, passes, ?_⟩
  show written.IsInteger (amount (ofNat number))
  rwa [inverse number small]

theorem reads_bits : readBits.Reads fun number written => written.IsInteger number.toNat :=
  reads_amount fun _ small => UInt8.toNat_ofNat_of_lt' (Nat.lt_of_le_pred (by decide) small)

theorem reads_time : readTime.Reads fun number written => written.IsInteger number.toNat :=
  reads_amount fun _ small => UInt64.toNat_ofNat_of_lt' (Nat.lt_of_le_pred (by decide) small)

variable {name : Value → String} {all : List Value} {cursor next : Cursor} {value : Value}

theorem readName_ok (ahead : cursor.rest.head? = some '"')
    (done : readName name all cursor = .ok (value, next)) :
    ∃ body, Quote.Spells (name value).toList body ∧
      cursor.Passes ['"' :: (body ++ ['"'])] next := by
  obtain ⟨text, last, read, goesOn⟩ := Reader.bind_ok done
  obtain ⟨body, spells, passes⟩ := Reader.quote_ok ahead read
  dsimp only at goesOn
  generalize known : all.find? (fun value => name value == String.ofList text) = found at goesOn
  split at goesOn
  · cases goesOn
    have same := List.find?_some known
    rw [beq_iff_eq.1 same, String.toList_ofList]
    exact ⟨body, spells, passes⟩
  · cases goesOn

theorem readNothing_ok (done : readNothing cursor = .ok ((), next)) :
    cursor.Passes ["null".toList] next := by
  obtain ⟨answer, between, peeked, goesOn⟩ := Reader.bind_ok done
  obtain ⟨gap, ahead⟩ := Reader.peekBehindBlanks_ok peeked
  split at goesOn
  · cases goesOn
  · split at goesOn
    · rename_i isFirst
      obtain ⟨_, inside, skipped, passed⟩ := Reader.bind_ok goesOn
      rw [isFirst] at ahead
      exact gap.append (Reader.null_ok ahead skipped passed)
    · exact absurd goesOn Reader.mismatch_ne

theorem readNameAsKey_ok (done : readNameAsKey name all cursor = .ok (value, next)) :
    ∃ body, Quote.Spells (name value).toList body ∧
      cursor.Passes (['"' :: (body ++ ['"']), [':'], "null".toList] ++ [['\x7d']]) next := by
  obtain ⟨answer, between, peeked, goesOn⟩ := Reader.bind_ok done
  obtain ⟨gap, ahead⟩ := Reader.peekBehindBlanks_ok peeked
  split at goesOn
  · cases goesOn
  · cases goesOn
  · obtain ⟨found, behind, named, goesOn⟩ := Reader.bind_ok goesOn
    obtain ⟨_, inside, colon, goesOn⟩ := Reader.bind_ok goesOn
    obtain ⟨_, last, nothing, goesOn⟩ := Reader.bind_ok goesOn
    obtain ⟨answer, _, peeked, goesOn⟩ := Reader.bind_ok goesOn
    obtain ⟨space, close⟩ := Reader.peekBehindBlanks_ok peeked
    split at goesOn
    · cases goesOn
    · obtain ⟨_, _, skipped, goesOn⟩ := Reader.bind_ok goesOn
      cases goesOn
      obtain ⟨body, spells, key⟩ := readName_ok ahead named
      refine ⟨body, spells, gap.append ?_⟩
      refine ((key.append (Reader.colon_ok colon)).append (readNothing_ok nothing)).append ?_
      exact space.append (.token (Reader.skip_ok skipped close))
    · cases goesOn
  · cases goesOn

theorem reads_choice (name : Value → String) (all : List Value) :
    (readChoice name all).Reads fun value written => written.IsName (name value) := by
  intro cursor next value done
  obtain ⟨answer, between, peeked, goesOn⟩ := Reader.bind_ok done
  obtain ⟨gap, ahead⟩ := Reader.peekBehindBlanks_ok peeked
  split at goesOn
  · cases goesOn
  · obtain ⟨body, spells, passes⟩ := readName_ok ahead goesOn
    exact ⟨.string (name value), _, .string spells, gap.append passes, .inl rfl⟩
  · obtain ⟨_, inside, skipped, goesOn⟩ := Reader.bind_ok goesOn
    obtain ⟨body, spells, passes⟩ := readNameAsKey_ok goesOn
    let member : Member := ⟨name value, body, .null, ["null".toList]⟩
    have spelled := @Spells.object [member] (List.forall_mem_singleton.2 spells)
      (List.forall_mem_singleton.2 .null)
    have opening : between.Passes [['\x7b']] inside := .token (Reader.skip_ok skipped ahead)
    exact ⟨_, _, spelled, gap.append (opening.append passes), .inr rfl⟩
  · cases goesOn

/-! ### Fields -/

/-- What is read into a field stands in the text, and no other field changes. -/
theorem readField_ok {settings result : Settings} {field : Field}
    (done : readField settings field cursor = .ok (result, next)) :
    (∃ written tokens, Spells written tokens ∧ cursor.Passes tokens next ∧
      OrNull field.Denotes (result.get field) written) ∧
      ∀ other, other ≠ field → result.get other = settings.get other := by
  have others : ∀ {wanted : Settings}, result = wanted.adopt settings field →
      ∀ other, other ≠ field → result.get other = settings.get other :=
    fun same _ apart => same ▸ get_adopt_other apart
  cases field with
  | dataBits =>
    obtain ⟨value, _, read, goesOn⟩ := Reader.bind_ok done
    have reads := reads_optional reads_bits read
    cases goesOn
    exact ⟨reads, @others { dataBits := value } rfl⟩
  | parity =>
    obtain ⟨value, _, read, goesOn⟩ := Reader.bind_ok done
    have reads := reads_optional (reads_choice Parity.name Parity.all) read
    cases goesOn
    exact ⟨reads, @others { parity := value } rfl⟩
  | stopBits =>
    obtain ⟨value, _, read, goesOn⟩ := Reader.bind_ok done
    have reads := reads_optional reads_bits read
    cases goesOn
    exact ⟨reads, @others { stopBits := value } rfl⟩
  | flowControl =>
    obtain ⟨value, _, read, goesOn⟩ := Reader.bind_ok done
    have reads := reads_optional (reads_choice FlowControl.name FlowControl.all) read
    cases goesOn
    exact ⟨reads, @others { flowControl := value } rfl⟩
  | timeout =>
    obtain ⟨value, _, read, goesOn⟩ := Reader.bind_ok done
    have reads := reads_optional reads_time read
    cases goesOn
    exact ⟨reads, @others { timeout := value } rfl⟩
  | settle =>
    obtain ⟨value, _, read, goesOn⟩ := Reader.bind_ok done
    have reads := reads_optional reads_time read
    cases goesOn
    exact ⟨reads, @others { settle := value } rfl⟩

/-! ### Members -/

/-- Whether settings become others by the members of an object: each of them is a field of its own
that was awaited, and no other field changes. -/
structure Gains (unmet : List Field) (settings : Settings) (members : List (String × Json.Value))
    (result : Settings) : Prop where
  known : ∀ member ∈ members, ∃ field ∈ unmet, member.1 = field.key
  distinct : (members.map Prod.fst).Nodup
  kept : ∀ field : Field, field.key ∉ members.map Prod.fst → result.get field = settings.get field
  given : ∀ field written, (field.key, written) ∈ members →
    OrNull field.Denotes (result.get field) written

theorem Gains.refl (unmet : List Field) (settings : Settings) :
    Gains unmet settings [] settings where
  known := nofun
  distinct := List.nodup_nil
  kept _ _ := rfl
  given _ _ member := nomatch member

/-- A member in front of others adds its field. -/
theorem Gains.cons {unmet : List Field} {field : Field} {settings between result : Settings}
    {written : Json.Value} {members : List (String × Json.Value)} (distinct : unmet.Nodup)
    (awaited : field ∈ unmet) (denoted : OrNull field.Denotes (between.get field) written)
    (others : ∀ other, other ≠ field → between.get other = settings.get other)
    (later : Gains (unmet.erase field) between members result) :
    Gains unmet settings ((field.key, written) :: members) result := by
  have fresh : field.key ∉ members.map Prod.fst := by
    intro repeated
    obtain ⟨member, isMember, same⟩ := List.mem_map.1 repeated
    obtain ⟨other, stillAwaited, key⟩ := later.known member isMember
    rw [key_inj (key.symm.trans same)] at stillAwaited
    exact distinct.not_mem_erase stillAwaited
  refine ⟨List.forall_mem_cons.2 ⟨⟨field, awaited, rfl⟩, fun member isMember => ?_⟩,
    List.nodup_cons.2 ⟨fresh, later.distinct⟩, fun other missing => ?_,
    fun other value member => ?_⟩
  · obtain ⟨other, stillAwaited, key⟩ := later.known member isMember
    exact ⟨other, List.mem_of_mem_erase stillAwaited, key⟩
  · rw [List.map_cons, List.mem_cons, not_or] at missing
    rw [later.kept other missing.2]
    exact others other fun same => missing.1 (congrArg Field.key same)
  · rcases List.mem_cons.1 member with isFirst | isLater
    · obtain ⟨sameKey, rfl⟩ := Prod.mk.inj isFirst
      cases key_inj sameKey
      rw [later.kept field fresh]
      exact denoted
    · exact later.given other value isLater

/-- Starting from nothing, a field is absent or has a member. -/
theorem Gains.missing_or_mem {unmet : List Field} {settings : Settings}
    {members : List (String × Json.Value)} (gains : Gains unmet {} members settings)
    (field : Field) :
    settings.get field = none ∨ ∃ written, (field.key, written) ∈ members := by
  by_cases known : field.key ∈ members.map Prod.fst
  · obtain ⟨⟨key, written⟩, member, rfl⟩ := List.mem_map.1 known
    exact .inr ⟨written, member⟩
  · exact .inl ((gains.kept field known).trans (get_empty field))

/-- What is gained from nothing is written in the members. -/
theorem Gains.writtenIn {unmet : List Field} {settings : Settings}
    {members : List (String × Json.Value)} (gains : Gains unmet {} members settings) :
    settings.WrittenIn members where
  known member isMember := by
    obtain ⟨field, _, key⟩ := gains.known member isMember
    exact ⟨field, key⟩
  distinct := gains.distinct
  absent field := by
    constructor
    · intro isAbsent written member
      have denoted := gains.given field written member
      rwa [isAbsent] at denoted
    · intro nulls
      obtain missing | ⟨written, member⟩ := gains.missing_or_mem field
      · exact missing
      · have denoted := gains.given field written member
        rw [nulls written member] at denoted
        cases value : settings.get field with
        | none => rfl
        | some value =>
          rw [value] at denoted
          exact absurd denoted (Field.not_denotes_null field _)
  present field value isValue := by
    obtain missing | ⟨written, member⟩ := gains.missing_or_mem field
    · rw [missing] at isValue
      cases isValue
    · have denoted := gains.given field written member
      rw [isValue] at denoted
      exact ⟨written, member, denoted⟩

/-- Instead of a key the closing brace is passed, or the key stands between quotes, behind a comma
if it is not the first. -/
theorem readKey_ok {first : Bool} {key : Option String}
    (done : readKey first cursor = .ok (key, next)) :
    (key = none ∧ cursor.Passes [['\x7d']] next) ∨
      ∃ name body, key = some name ∧ Quote.Spells name.toList body ∧
        cursor.Passes ((if first then [] else [[',']]) ++ ['"' :: (body ++ ['"'])]) next := by
  have quoted : ∀ {start : Cursor}, start.rest.head? = some '"' →
      (do return some (String.ofList (← Quote.read)) : Reader (Option String)) start =
        .ok (key, next) →
      ∃ name body, key = some name ∧ Quote.Spells name.toList body ∧
        start.Passes ['"' :: (body ++ ['"'])] next := by
    intro start here reads
    obtain ⟨text, last, read, goesOn⟩ := Reader.bind_ok reads
    cases goesOn
    obtain ⟨body, spells, passes⟩ := Reader.quote_ok here read
    exact ⟨_, body, rfl, String.toList_ofList.symm ▸ spells, passes⟩
  obtain ⟨answer, between, peeked, goesOn⟩ := Reader.bind_ok done
  obtain ⟨gap, ahead⟩ := Reader.peekBehindBlanks_ok peeked
  split at goesOn
  · cases goesOn
  · obtain ⟨_, last, skipped, goesOn⟩ := Reader.bind_ok goesOn
    cases goesOn
    exact .inl ⟨rfl, gap.append (.token (Reader.skip_ok skipped ahead))⟩
  · refine .inr ?_
    cases first with
    | true =>
      rw [if_pos rfl] at goesOn
      split at goesOn
      · rename_i isQuote
        obtain ⟨name, body, isKey, spells, passes⟩ := quoted (isQuote ▸ ahead) goesOn
        exact ⟨name, body, isKey, spells, gap.append passes⟩
      · cases goesOn
    | false =>
      rw [if_neg Bool.false_ne_true] at goesOn
      split at goesOn
      · rename_i isComma
        rw [isComma] at ahead
        obtain ⟨_, inside, skipped, goesOn⟩ := Reader.bind_ok goesOn
        obtain ⟨answer, behind, peeked, goesOn⟩ := Reader.bind_ok goesOn
        obtain ⟨space, start⟩ := Reader.peekBehindBlanks_ok peeked
        have comma : between.Passes [[',']] inside := .token (Reader.skip_ok skipped ahead)
        split at goesOn
        · cases goesOn
        · obtain ⟨name, body, isKey, spells, passes⟩ := quoted start goesOn
          exact ⟨name, body, isKey, spells, gap.append (comma.append (space.append passes))⟩
        · cases goesOn
        · cases goesOn
      · cases goesOn

/-- No value is read behind a key that is refused. -/
theorem refuseKey_ne {trouble : Trouble} {value : Value} :
    refuseKey trouble cursor ≠ .ok (value, next) := by
  intro done
  obtain ⟨answer, between, _, goesOn⟩ := Reader.bind_ok done
  dsimp only at goesOn
  split at goesOn
  · obtain ⟨_, _, _, goesOn⟩ := Reader.bind_ok goesOn
    cases goesOn
  · cases goesOn

theorem readMembers_ok {first : Bool} {unmet : List Field} {settings result : Settings}
    (distinct : unmet.Nodup)
    (done : readMembers first unmet settings cursor = .ok (result, next)) :
    ∃ members : List Member,
      (∀ member ∈ members, Quote.Spells member.key.toList member.body) ∧
        (∀ member ∈ members, Spells member.value member.tokens) ∧
        cursor.Passes (memberTokens first members ++ [['\x7d']]) next ∧
        Gains unmet settings (members.map Member.content) result := by
  induction first, unmet, settings using readMembers.induct generalizing cursor with
  | case1 first unmet settings inductionHypothesis =>
    rw [readMembers] at done
    obtain ⟨key, behind, keyRead, goesOn⟩ := Reader.bind_ok done
    obtain ⟨rfl, close⟩ | ⟨name, body, rfl, isBody, keyPassed⟩ := readKey_ok keyRead
    · cases goesOn
      refine ⟨[], List.forall_mem_nil _, List.forall_mem_nil _, ?_, .refl unmet _⟩
      cases first <;> exact close
    · dsimp only at goesOn
      generalize known : Field.ofKey? name = found at goesOn
      split at goesOn
      · exact absurd goesOn refuseKey_ne
      · rename_i field
        split at goesOn
        · rename_i awaited
          obtain ⟨_, inside, colon, goesOn⟩ := Reader.bind_ok goesOn
          obtain ⟨between, last, read, goesOn⟩ := Reader.bind_ok goesOn
          obtain ⟨⟨written, tokens, spells, passed, denoted⟩, others⟩ := readField_ok read
          obtain ⟨members, keys, values, passedRest, gains⟩ :=
            inductionHypothesis field awaited between (distinct.erase field) goesOn
          obtain rfl := Field.key_of_ofKey? known
          let member : Member := ⟨field.key, body, written, tokens⟩
          have value : behind.Passes ([':'] :: tokens) last :=
            (Reader.colon_ok colon).append passed
          have whole := keyPassed.append (value.append passedRest)
          refine ⟨member :: members, List.forall_mem_cons.2 ⟨isBody, keys⟩,
            List.forall_mem_cons.2 ⟨spells, values⟩, ?_, gains.cons distinct awaited denoted others⟩
          rw [List.append_assoc] at whole
          rwa [memberTokens_cons, List.append_assoc, List.append_assoc]
        · exact absurd goesOn refuseKey_ne

/-! ### Objects -/

/-- Whether a text opens with a character, before which there is only white space. -/
def Opens (text : List Char) (first : Char) : Prop :=
  text.find? (fun character => !Text.isBlank character) = some first

instance (text : List Char) (first : Char) : Decidable (Opens text first) :=
  inferInstanceAs (Decidable (_ = _))

theorem isBlank_of_mem_blanks : ∀ character ∈ blanks, Text.isBlank character = true := by
  simp [blanks, Text.isBlank]

/-- What stands behind the first blanks is what the text opens with. -/
theorem Opens.eq {first other : Char} (opens : Opens cursor.rest first)
    (gap : cursor.Passes [] next) (ahead : next.rest.head? = some other)
    (solid : Text.isBlank other = false) : first = other := by
  obtain ⟨spaces, here, spaced⟩ := gap
  obtain ⟨rest, there⟩ := List.head?_eq_some_iff.1 ahead
  cases spaced with
  | nil blank =>
    have none : spaces.find? (fun character => !Text.isBlank character) = none :=
      List.find?_eq_none.2 fun character member => by
        simp [isBlank_of_mem_blanks character (blank character member)]
    unfold Opens at opens
    rw [here, there, List.find?_append, none, Option.none_or, List.find?_cons_of_pos] at opens
    · exact (Option.some.inj opens).symm
    · rw [solid]
      rfl

/-- Settings that are read behind an opening brace are written in one whole object. -/
theorem read_ok {settings : Settings} (opens : Opens cursor.rest '\x7b')
    (done : read cursor = .ok (settings, next)) :
    ∃ members tokens, Spells (.object members) tokens ∧ cursor.Passes tokens next ∧
      settings.WrittenIn members := by
  obtain ⟨answer, between, peeked, goesOn⟩ := Reader.bind_ok done
  obtain ⟨gap, ahead⟩ := Reader.peekBehindBlanks_ok peeked
  split at goesOn
  · cases goesOn
  · cases opens.eq gap ahead (by decide)
  · obtain ⟨_, inside, skipped, goesOn⟩ := Reader.bind_ok goesOn
    obtain ⟨members, keys, values, passed, gains⟩ := readMembers_ok (by decide) goesOn
    have opening : between.Passes [['\x7b']] inside := .token (Reader.skip_ok skipped ahead)
    exact ⟨_, _, .object keys values, gap.append (opening.append passed), gains.writtenIn⟩
  · exact absurd goesOn Reader.mismatch_ne

/-- A text that opens with a brace is read as settings exactly if it spells an object whose members
say these settings. -/
theorem ofText_eq_ok {text : List Char} {settings : Settings} (opens : Opens text '\x7b') :
    ofText (String.ofList text) = .ok settings ↔
      ∃ members, IsText text (.object members) ∧ settings.WrittenIn members := by
  constructor
  · intro done
    obtain ⟨between, last, read, rest, ended⟩ := Reader.runAll_ok done
    have start : (Cursor.ofText (String.ofList text)).rest = text := String.toList_ofList
    obtain ⟨members, tokens, spells, passes, isWritten⟩ := read_ok (by rwa [start]) read
    obtain ⟨whole, here, spaced⟩ := passes.append rest
    rw [start, ended, List.append_nil] at here
    rw [List.append_nil] at spaced
    exact ⟨members, ⟨tokens, spells, here ▸ spaced⟩, isWritten⟩
  · rintro ⟨members, ⟨tokens, spells, spaced⟩, isWritten⟩
    exact (leads_read_object spells isWritten).runAll spaced

end Settings

/-- Settings files are read strictly. Take any file whose text opens with a brace. It is read as
settings exactly if the text is one object, with nothing else around it but blanks, whose members
are fields, none of them twice, and say just these settings: a field is absent if its member is
missing or null, and otherwise the integer or the name that is written. Every other such file is
refused as one that cannot be parsed. -/
theorem ofFile_strict {host : Host} {path : String} {text : List Char}
    (holds : host.Holds path text) (opens : Settings.Opens text '\x7b') :
    (∀ settings, Settings.ofFile host path = .ok settings ↔
      ∃ members, Json.IsText text (.object members) ∧ settings.WrittenIn members) ∧
      ((∀ members (settings : Settings), Json.IsText text (.object members) →
          ¬ settings.WrittenIn members) →
        ∃ error, Settings.ofFile host path = .error error ∧
          error.message = "parsing settings in " ++ path) := by
  rw [Settings.ofFile_of_holds holds]
  have strict := fun settings => @Settings.ofText_eq_ok text settings opens
  cases read : Settings.ofText (String.ofList text) with
  | error complaint =>
    refine ⟨fun settings => iff_of_false nofun fun isWritten => ?_,
      fun _ => ⟨_, rfl, rfl⟩⟩
    have accepted := (strict settings).2 isWritten
    rw [read] at accepted
    cases accepted
  | ok found =>
    refine ⟨fun settings => ?_, fun never => ?_⟩
    · rw [← strict, read]
      exact ⟨congrArg _ ∘ Except.ok.inj, congrArg _ ∘ Except.ok.inj⟩
    · obtain ⟨members, isText, isWritten⟩ := (strict found).1 read
      exact absurd isWritten (never members found isText)

/-- A key and a name are read through their escapes and a null is passed over, but data bits that do
not fit their width are refused, and so is a key that comes again at the end. -/
theorem ofFile_strict_width :
    let accepted :=
      " \x7b\"data\\u005fbits\":7,\"parity\":\x7b\"odd\":null\x7d,\"settle_ms\":null\x7d".toList
    let wide := "\x7b\"parity\":null,\"data_bits\":264\x7d".toList
    let twice := "\x7b\"stop_bits\":1,\"parity\":\"odd\",\"stop_bits\":1\x7d".toList
    let settings : Settings := { dataBits := some 7, parity := some .odd }
    (∃ members, Json.IsText accepted (.object members) ∧ settings.WrittenIn members) ∧
      ∀ text ∈ [wide, twice], ∃ error,
        Settings.ofFile (machineWith "line.json" text) "line.json" = .error error ∧
          error.message = "parsing settings in line.json" := by
  intro accepted wide twice settings
  have holds : ∀ text, (machineWith "line.json" text).Holds "line.json" text :=
    fun text => ⟨rfl, _, rfl, rfl⟩
  have strict := fun text opens => @ofFile_strict _ _ text (holds text) opens
  have refused : ∀ text complaint, Settings.Opens text '\x7b' →
      Settings.ofText (String.ofList text) = .error complaint → ∃ error,
        Settings.ofFile (machineWith "line.json" text) "line.json" = .error error ∧
          error.message = "parsing settings in line.json" := by
    intro text complaint opens read
    refine (strict text opens).2 fun members settings isText isWritten => ?_
    have accepts := ((strict text opens).1 settings).2 ⟨members, isText, isWritten⟩
    rw [Settings.ofFile_of_holds (holds text), read] at accepts
    cases accepts
  have reads : Settings.ofText (String.ofList accepted) = .ok settings := by
    subst accepted settings
    cbv
  have tooWide : Settings.ofText (String.ofList wide) =
      .error ⟨.invalidValue 264 "u8", ⟨1, 30⟩⟩ := by
    subst wide
    cbv
  have repeated : Settings.ofText (String.ofList twice) =
      .error ⟨.duplicateField "stop_bits", ⟨1, 41⟩⟩ := by
    subst twice
    cbv
  refine ⟨((strict accepted (by decide)).1 settings).1 ?_, List.forall_mem_cons.2
    ⟨refused wide _ (by decide) tooWide, List.forall_mem_singleton.2
      (refused twice _ (by decide) repeated)⟩⟩
  rw [Settings.ofFile_of_holds (holds accepted), reads]
  rfl

end SerialFeed
