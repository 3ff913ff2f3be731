/-
This file says how a text is read that was put together from tokens. The tokens stand in their
order, and there may be any blanks before, between and behind them. A reader that comes to a token
passes the blanks in front of it first, so for the value that is read it makes no difference how
many there are; and what it leaves is again a text of tokens, the ones that are still to be read.

A number is the one token that does not show its own end. It is read as far as it goes, and what
follows it has to be something else.
-/

import SerialFeed.Json.Number
import SerialFeed.Proofs.Decimals

namespace SerialFeed.Json

/-! ### Texts of tokens -/

/-- The characters that may stand between tokens. -/
def blanks : List Char :=
  [' ', '\t', '\n', '\r']

/-- Whether a text consists of some tokens in their order, with blanks before, between and behind
them. -/
inductive Spaced : List (List Char) → List Char → Prop
  | nil {gap : List Char} (blank : ∀ character ∈ gap, character ∈ blanks) : Spaced [] gap
  | cons {gap token : List Char} {tokens : List (List Char)} {text : List Char}
      (blank : ∀ character ∈ gap, character ∈ blanks) (later : Spaced tokens text) :
      Spaced (token :: tokens) (gap ++ (token ++ text))

/-- Whether a text begins with the given characters and goes on with what is told of the rest. -/
def Begins (front : List Char) (after : List Char → Prop) (text : List Char) : Prop :=
  ∃ rest, text = front ++ rest ∧ after rest

theorem isBlank_iff {character : Char} : Cursor.isBlank character = true ↔ character ∈ blanks := by
  simp [Cursor.isBlank, blanks, or_assoc]

theorem Spaced.of_begins {token : List Char} {tokens : List (List Char)} {text : List Char}
    (begins : Begins token (Spaced tokens) text) : Spaced (token :: tokens) text := by
  obtain ⟨rest, rfl, later⟩ := begins
  exact @Spaced.cons [] token tokens rest nofun later

/-- A text in which every token stands behind some blanks is one of these tokens. -/
theorem spaced_flatMap {parts : List (List Char × List Char)} {last : List Char}
    (blank : ∀ part ∈ parts, ∀ character ∈ part.1, character ∈ blanks)
    (blankLast : ∀ character ∈ last, character ∈ blanks) :
    Spaced (parts.map Prod.snd) (parts.flatMap (fun part => part.1 ++ part.2) ++ last) := by
  induction parts with
  | nil => exact .nil blankLast
  | cons part rest inductionHypothesis =>
    obtain ⟨blankPart, blankRest⟩ := List.forall_mem_cons.1 blank
    rw [List.flatMap_cons, List.append_assoc, List.append_assoc]
    exact .cons blankPart (inductionHypothesis blankRest)

/-- Behind the blanks a text of tokens begins with the first of them. -/
theorem Spaced.dropWhile {first : Char} {token : List Char} {tokens : List (List Char)}
    {text : List Char} (spaced : Spaced ((first :: token) :: tokens) text)
    (solid : first ∉ blanks) :
    Begins (first :: token) (Spaced tokens) (text.dropWhile Cursor.isBlank) := by
  cases spaced with
  | @cons gap _ _ rest blank later =>
    have passed : ∀ character ∈ gap, Cursor.isBlank character = true :=
      fun character member => isBlank_iff.2 (blank character member)
    have stays : ¬ Cursor.isBlank first = true := fun isBlank => solid (isBlank_iff.1 isBlank)
    rw [List.dropWhile_append_of_pos passed, List.cons_append, List.dropWhile_cons_of_neg stays]
    exact ⟨rest, rfl, later⟩

namespace Reader

variable {Value Other : Type} {before middle after : List Char → Prop}

/-! ### Readers that get on -/

/-- Whether a reader gives a value wherever the text is as told before, and leaves a text that is as
told afterwards. -/
def Leads (before : List Char → Prop) (reader : Reader Value) (value : Value)
    (after : List Char → Prop) : Prop :=
  ∀ cursor : Cursor, before cursor.rest →
    ∃ next : Cursor, reader cursor = .ok (value, next) ∧ after next.rest

theorem Leads.weaken {stronger : List Char → Prop} {reader : Reader Value} {value : Value}
    (leads : Leads before reader value after) (imply : ∀ text, stronger text → before text) :
    Leads stronger reader value after :=
  fun cursor known => leads cursor (imply cursor.rest known)

theorem leads_pure (value : Value) : Leads before (pure value) value before :=
  fun cursor known => ⟨cursor, rfl, known⟩

theorem Leads.bind {reader : Reader Value} {value : Value} {next : Value → Reader Other}
    {other : Other} (first : Leads before reader value middle)
    (second : Leads middle (next value) other after) :
    Leads before (reader >>= next) other after := by
  intro cursor known
  obtain ⟨between, reads, reached⟩ := first cursor known
  obtain ⟨last, goesOn, left⟩ := second between reached
  refine ⟨last, ?_, left⟩
  show (reader cursor).bind (fun result => next result.1 result.2) = _
  rw [reads]
  exact goesOn

theorem Leads.map {reader : Reader Value} {value : Value}
    (leads : Leads before reader value after) (change : Value → Other) :
    Leads before (reader >>= fun value => pure (change value)) (change value) after :=
  leads.bind (leads_pure (change value))

/-! ### Characters -/

theorem leads_peek (first : Char) (front : List Char) :
    Leads (Begins (first :: front) after) peek (some first) (Begins (first :: front) after) := by
  rintro cursor ⟨rest, here, later⟩
  refine ⟨cursor, ?_, rest, here, later⟩
  show Except.ok (cursor.rest.head?, cursor) = _
  rw [here]
  rfl

theorem leads_skip (front : List Char) :
    Leads (Begins front after) (skip front.length) () after := by
  rintro cursor ⟨rest, here, later⟩
  refine ⟨cursor.drop front.length, rfl, ?_⟩
  show after (cursor.rest.drop front.length)
  rwa [here, List.drop_left]

theorem leads_skip_one (first : Char) (front : List Char) :
    Leads (Begins (first :: front) after) (skip 1) () (Begins front after) := by
  refine (leads_skip [first]).weaken ?_
  rintro _ ⟨rest, rfl, later⟩
  exact ⟨front ++ rest, rfl, rest, rfl, later⟩

theorem leads_word (word : List Char) : Leads (Begins word after) (Reader.word word) () after := by
  induction word with
  | nil =>
    refine (leads_pure ()).weaken ?_
    rintro _ ⟨rest, rfl, later⟩
    exact later
  | cons letter others inductionHypothesis =>
    refine (leads_peek letter others).bind ?_
    simp only [if_true]
    exact (leads_skip_one letter others).bind inductionHypothesis

/-! ### Tokens -/

variable {tokens : List (List Char)}

theorem rest_skipBlanks (cursor : Cursor) :
    cursor.skipBlanks.rest = cursor.rest.dropWhile Cursor.isBlank := by
  let passed := cursor.rest.takeWhile Cursor.isBlank
  calc cursor.skipBlanks.rest = cursor.rest.drop passed.length := rfl
    _ = (passed ++ cursor.rest.dropWhile Cursor.isBlank).drop passed.length := by
      rw [List.takeWhile_append_dropWhile]
    _ = cursor.rest.dropWhile Cursor.isBlank := List.drop_left

theorem leads_peekBehindBlanks {first : Char} (token : List Char) (solid : first ∉ blanks) :
    Leads (Spaced ((first :: token) :: tokens)) peekBehindBlanks (some first)
      (Begins (first :: token) (Spaced tokens)) := by
  intro cursor spaced
  have begins : Begins (first :: token) (Spaced tokens) cursor.skipBlanks.rest := by
    rw [rest_skipBlanks]
    exact spaced.dropWhile solid
  refine ⟨cursor.skipBlanks, ?_, begins⟩
  obtain ⟨rest, here, _⟩ := begins
  show Except.ok (cursor.skipBlanks.rest.head?, cursor.skipBlanks) = _
  rw [here]
  rfl

theorem leads_colon : Leads (Spaced ([':'] :: tokens)) colon () (Spaced tokens) :=
  (leads_peekBehindBlanks [] (by decide)).bind (leads_skip [':'])

/-- Nothing but blanks is left behind the last token. -/
theorem leads_peekBehindBlanks_end : Leads (Spaced []) peekBehindBlanks none (Spaced []) := by
  intro cursor spaced
  have ended : cursor.skipBlanks.rest = [] := by
    rw [rest_skipBlanks]
    cases spaced with
    | nil blank =>
      exact List.dropWhile_eq_nil_iff.2 fun character member =>
        isBlank_iff.2 (blank character member)
  refine ⟨cursor.skipBlanks, ?_, ended ▸ .nil nofun⟩
  show Except.ok (cursor.skipBlanks.rest.head?, cursor.skipBlanks) = _
  rw [ended]
  rfl

theorem leads_finish : Leads (Spaced []) finish () (Spaced []) :=
  leads_peekBehindBlanks_end.bind (leads_pure ())

/-- A text of tokens is read as a whole if its tokens are. -/
theorem Leads.runAll {reader : Reader Value} {value : Value} {text : List Char}
    (leads : Leads (Spaced tokens) reader value (Spaced [])) (spaced : Spaced tokens text) :
    runAll reader (String.ofList text) = .ok value := by
  have whole : Leads (Spaced tokens) (do
      let value ← reader
      finish
      return value) value (Spaced []) :=
    leads.bind (leads_finish.map fun _ => value)
  obtain ⟨last, reads, _⟩ := whole (Cursor.ofText (String.ofList text))
    (by rwa [Cursor.ofText, String.toList_ofList])
  show Prod.fst <$> _ = _
  rw [reads]
  rfl

/-! ### Numbers -/

/-- The characters that can follow a number. -/
def separators : List Char :=
  blanks ++ [',', '\x7d', ']']

/-- Whether a text begins with a character that can follow a number. -/
def Separated (text : List Char) : Prop :=
  ∃ first rest, text = first :: rest ∧ first ∈ separators

theorem separated_of_spaced {first : Char} {token : List Char} {text : List Char}
    (separates : first ∈ separators) (spaced : Spaced ((first :: token) :: tokens) text) :
    Separated text := by
  cases spaced with
  | @cons gap _ _ rest blank later =>
    cases gap with
    | nil => exact ⟨first, token ++ rest, rfl, separates⟩
    | cons space spaces =>
      exact ⟨space, _, rfl, List.mem_append_left _ (blank space List.mem_cons_self)⟩

theorem isDigit_of_separates : ∀ character ∈ separators, character.isDigit = false := by
  simp [separators, blanks]

theorem append_eq {limit value : Nat} {digits : List Char}
    (fits : Nat.ofDigitChars 10 digits value ≤ limit) :
    Number.append limit value digits = (Nat.ofDigitChars 10 digits value, 0) := by
  induction digits generalizing value with
  | nil => rfl
  | cons digit rest inductionHypothesis =>
    rw [Numeral.ofDigitChars_digit] at fits ⊢
    have small := (Numeral.le_ofDigitChars rest _).trans fits
    rw [Number.append, if_pos small]
    exact inductionHypothesis fits

theorem takeWhile_isDigit {digits rest : List Char}
    (only : ∀ character ∈ digits, character.isDigit = true) (separated : Separated rest) :
    (digits ++ rest).takeWhile Char.isDigit = digits := by
  obtain ⟨first, others, rfl, separates⟩ := separated
  rw [List.takeWhile_append_of_pos only, List.takeWhile_cons_of_neg, List.append_nil]
  exact ne_true_of_eq_false (isDigit_of_separates first separates)

theorem leads_digits {digits : List Char} (only : ∀ character ∈ digits, character.isDigit = true)
    (separated : ∀ text, after text → Separated text) :
    Leads (Begins digits after) Number.digits digits after := by
  rintro cursor ⟨rest, here, later⟩
  have taken : cursor.rest.takeWhile Char.isDigit = digits := by
    rw [here, takeWhile_isDigit only (separated rest later)]
  refine ⟨cursor.drop digits.length, ?_, ?_⟩
  · show Except.ok (cursor.rest.takeWhile Char.isDigit,
      cursor.drop (cursor.rest.takeWhile Char.isDigit).length) = _
    rw [taken]
  · show after (cursor.rest.drop digits.length)
    rwa [here, List.drop_left]

/-- What is left of the text decides how it is read. -/
theorem leads_rest {next : List Char → Reader Value} {value : Value}
    (each : ∀ text, before text → Leads (fun left => left = text) (next text) value after) :
    Leads before (Reader.rest >>= next) value after :=
  fun cursor known => each cursor.rest known cursor rfl

/-- The digits of a number are read to their end, also if there is only a zero. -/
theorem leads_wholeDigits (number : Nat) (separated : ∀ text, after text → Separated text) :
    Leads (Begins (Nat.toDigits 10 number) after) Number.wholeDigits (Nat.toDigits 10 number)
      after := by
  refine leads_rest fun text begins => ?_
  obtain ⟨rest, rfl, later⟩ := begins
  have here : ∀ left, left = Nat.toDigits 10 number ++ rest →
      Begins (Nat.toDigits 10 number) after left := fun _ same => ⟨rest, same, later⟩
  rcases Nat.eq_zero_or_pos number with rfl | positive
  · obtain ⟨first, others, rfl, separates⟩ := separated rest later
    show Leads _ (do
      skip 1
      if first.isDigit then failNext .invalidNumber else return ['0']) _ _
    rw [isDigit_of_separates first separates]
    exact ((leads_skip ['0']).weaken here).bind (leads_pure ['0'])
  · have reads := (leads_digits (Numeral.isDigit_toDigits number) separated).weaken here
    obtain ⟨digit, digits, spelled, isDigit⟩ := Numeral.toDigits_eq_cons number
    have nonzero : digit ≠ '0' := fun zero =>
      Numeral.head?_toDigits positive (by rw [spelled, List.head?_cons, zero])
    rw [spelled, List.cons_append] at reads ⊢
    split
    · rename_i impossible
      cases impossible
    · rename_i zero
      exact absurd (List.cons.inj zero).1 nonzero
    · rename_i same
      rw [← (List.cons.inj same).1, if_pos isDigit]
      exact reads

/-- What can follow a number is looked at without being known. -/
theorem leads_peek_separator {next : Option Char → Reader Value} {value : Value}
    (separated : ∀ text, before text → Separated text)
    (each : ∀ first ∈ separators, Leads before (next (some first)) value after) :
    Leads before (peek >>= next) value after := by
  intro cursor known
  obtain ⟨first, rest, here, separates⟩ := separated cursor.rest known
  obtain ⟨last, reads, left⟩ := each first separates cursor known
  refine ⟨last, ?_, left⟩
  show next cursor.rest.head? cursor = _
  rw [here]
  exact reads

/-- A number of 64 bits is read as the integer that it is. -/
theorem leads_number {number : Nat} (fits : number ≤ Number.largest)
    (separated : ∀ text, after text → Separated text) :
    Leads (Begins (Nat.toDigits 10 number) after) Number.read (.integer number) after := by
  have whole : Number.append Number.largest 0 (Nat.toDigits 10 number) = (number, 0) := by
    rw [append_eq, Nat.ofDigitChars_ten_toDigits]
    rwa [Nat.ofDigitChars_ten_toDigits]
  have unsigned : Leads (Begins (Nat.toDigits 10 number) after) (Number.unsigned false)
      (.integer number) after := by
    refine (leads_wholeDigits number separated).bind ?_
    rw [whole]
    refine leads_peek_separator separated fun first separates => ?_
    split
    · rename_i point
      cases point
      exact absurd separates (by decide)
    · rename_i exponent
      cases exponent
      exact absurd separates (by decide)
    · rename_i exponent
      cases exponent
      exact absurd separates (by decide)
    · exact leads_pure _
  obtain ⟨digit, digits, spelled, isDigit⟩ := Numeral.toDigits_eq_cons number
  rw [spelled] at unsigned ⊢
  refine (leads_peek digit digits).bind ?_
  split
  · rename_i minus
    cases minus
    exact absurd isDigit (by decide)
  · exact unsigned

end Reader

end SerialFeed.Json
