/-
This file says what texts of the form in which settings are written look like, whoever reads them: a
value is null, a truth value, a number, a string, a list or an object, and each is spelled by tokens
between which there may be blanks. A string is spelled between quotes, by its own characters or by
escapes. Strings and numbers are the tokens with an inside of their own, and this file shows of the
readers of both that they pass exactly one of them.
-/

import SerialFeed.Json.Quote
import SerialFeed.Proofs.Tokens

namespace SerialFeed.Json

/-- What follows a first step is only reached where this step has gone well. -/
theorem exists_of_bind {Value Result : Type} {first : Except Complaint Value}
    {follow : Value → Except Complaint Result} {result : Result}
    (done : (first >>= follow) = .ok result) :
    ∃ value, first = .ok value ∧ follow value = .ok result := by
  cases first with
  | error complaint => cases done
  | ok value => exact ⟨value, rfl, done⟩

/-! ### Strings -/

namespace Quote

/-- Whether some characters behind a backslash stand for a character. -/
inductive IsEscape : Char → List Char → Prop
  | letter {letter meant : Char} (known : letter? letter = some meant) : IsEscape meant [letter]
  | unit {digits : List Char} {value : Nat} (isUnit : unit? digits = some value)
    (noHigh : isHighHalf value = false) (noLow : isLowHalf value = false) :
    IsEscape (Char.ofNat value) ('u' :: digits)
  | pair {first second : List Char} {high low : Nat} (isFirst : unit? first = some high)
    (isHigh : isHighHalf high = true) (isSecond : unit? second = some low)
    (isLow : isLowHalf low = true) :
    IsEscape (ofPair high low) ('u' :: (first ++ '\\' :: 'u' :: second))

/-- Whether a text between quotes spells a string. -/
inductive Spells : List Char → List Char → Prop
  | nil : Spells [] []
  | plain {character : Char} {text body : List Char} (noQuote : character ≠ '"')
    (noEscape : character ≠ '\\') (noControl : ¬ character.toNat < 0x20)
    (later : Spells text body) : Spells (character :: text) (character :: body)
  | escape {meant : Char} {escape text body : List Char} (isEscape : IsEscape meant escape)
    (later : Spells text body) : Spells (meant :: text) ('\\' :: (escape ++ body))

theorem length_of_unit? {digits : List Char} {value : Nat} (isUnit : unit? digits = some value) :
    digits.length = 4 := by
  unfold unit? at isUnit
  split at isUnit
  · rfl
  · cases isUnit

theorem unit_ok {cursor : Cursor} {value : Nat} (done : unit cursor = .ok value) :
    unit? (cursor.rest.take 4) = some value := by
  unfold unit at done
  split at done
  · rename_i isUnit
    cases done
    exact isUnit
  · split at done <;> cases done

/-- What is read as the second half of a pair is spelled behind a backslash of its own. -/
theorem secondHalf_ok {high count : Nat} {cursor : Cursor} {meant : Char}
    (done : secondHalf high cursor = .ok (meant, count)) :
    ∃ rest low, cursor.rest = '\\' :: 'u' :: rest ∧ unit? (rest.take 4) = some low ∧
      isLowHalf low = true ∧ meant = ofPair high low ∧ count = 11 := by
  unfold secondHalf at done
  dsimp only at done
  split at done
  · cases done
  · cases done
  · rename_i rest here
    obtain ⟨low, read, done⟩ := exists_of_bind done
    have isUnit := unit_ok read
    rw [show (cursor.drop 2).rest = cursor.rest.drop 2 from rfl, here] at isUnit
    split at done
    · rename_i isLow
      rw [Except.ok.injEq, Prod.mk.injEq] at done
      exact ⟨rest, low, here, isUnit, isLow, done.1.symm, done.2.symm⟩
    · cases done
  · cases done
  · cases done

/-- What is read behind a backslash is an escape. -/
theorem escape_ok {cursor : Cursor} {meant : Char} {count : Nat}
    (done : escape cursor = .ok (meant, count)) : IsEscape meant (cursor.rest.take count) := by
  unfold escape at done
  split at done
  · cases done
  · rename_i rest here
    obtain ⟨value, read, done⟩ := exists_of_bind done
    have isUnit := unit_ok read
    rw [show (cursor.drop 1).rest = cursor.rest.drop 1 from rfl, here] at isUnit
    rw [here]
    split at done
    · cases done
    · rename_i noLow
      split at done
      · rename_i isHigh
        obtain ⟨behind, low, there, isSecond, isLow, isMeant, isCount⟩ := secondHalf_ok done
        rw [show (cursor.drop 5).rest = cursor.rest.drop 5 from rfl, here] at there
        have taken : ('u' :: rest).take 11 =
            'u' :: (rest.take 4 ++ '\\' :: 'u' :: behind.take 4) := by
          have front : (rest.take 4).length = 4 := length_of_unit? isUnit
          calc ('u' :: rest).take 11 = 'u' :: (rest.take 4 ++ rest.drop 4).take 10 := by
                rw [List.take_append_drop, List.take_succ_cons]
            _ = 'u' :: (rest.take 4 ++ (rest.drop 4).take 6) := by
                rw [List.take_append, front, List.take_take]
                rfl
            _ = 'u' :: (rest.take 4 ++ '\\' :: 'u' :: behind.take 4) := by
                rw [show rest.drop 4 = _ from there, List.take_succ_cons, List.take_succ_cons]
        rw [isMeant, isCount, taken]
        exact .pair isUnit isHigh isSecond isLow
      · rename_i noHigh
        rw [Except.ok.injEq, Prod.mk.injEq] at done
        rw [Bool.not_eq_true] at noLow noHigh
        rw [← done.1, ← done.2, List.take_succ_cons]
        exact .unit isUnit noHigh noLow
  · rename_i letter rest noUnit here
    split at done
    · rename_i known
      cases done
      rw [here]
      exact .letter known
    · cases done

/-- What is read up to a closing quote spells what has been read. -/
theorem body_ok {position : Position} {text result : List Char} {next : Cursor}
    (done : body position text = .ok (result, next)) :
    ∃ spelled, text = spelled ++ '"' :: next.rest ∧ Spells result spelled := by
  fun_induction body position text generalizing result next with
  | case1 => cases done
  | case2 =>
    cases done
    exact ⟨[], rfl, .nil⟩
  | case3 position rest ahead noQuote =>
    rename_i inductionHypothesis
    obtain ⟨⟨meant, count⟩, read, done⟩ := exists_of_bind done
    obtain ⟨⟨others, last⟩, readOthers, done⟩ := exists_of_bind done
    obtain ⟨spelled, split, spells⟩ := inductionHypothesis count readOthers
    cases done
    refine ⟨'\\' :: (rest.take count ++ spelled), ?_, .escape (escape_ok read) spells⟩
    rw [List.cons_append, List.append_assoc, ← split, List.take_append_drop]
  | case4 => cases done
  | case5 position character rest ahead noQuote noEscape noControl =>
    rename_i inductionHypothesis
    obtain ⟨⟨others, last⟩, readOthers, done⟩ := exists_of_bind done
    obtain ⟨spelled, split, spells⟩ := inductionHypothesis readOthers
    cases done
    refine ⟨character :: spelled, ?_, .plain noQuote noEscape noControl spells⟩
    rw [List.cons_append, ← split]

/-! ### Reading what is spelled -/

theorem unit_of_unit? {cursor : Cursor} {digits rest : List Char} {value : Nat}
    (here : cursor.rest = digits ++ rest) (isUnit : unit? digits = some value) :
    unit cursor = .ok value := by
  have taken : cursor.rest.take 4 = digits := by
    rw [here, ← length_of_unit? isUnit, List.take_left]
  unfold unit
  rw [taken, isUnit]

theorem secondHalf_of_unit? {cursor : Cursor} {second rest : List Char} {high low : Nat}
    (here : cursor.rest = '\\' :: 'u' :: (second ++ rest)) (isSecond : unit? second = some low)
    (isLow : isLowHalf low = true) : secondHalf high cursor = .ok (ofPair high low, 11) := by
  have behind : (cursor.drop 2).rest = second ++ rest := congrArg (List.drop 2) here
  unfold secondHalf
  rw [here]
  show (unit (cursor.drop 2) >>= fun low => if isLowHalf low then _ else _) = _
  rw [unit_of_unit? behind isSecond]
  exact if_pos isLow

/-- An escape is read as the character for which it stands. -/
theorem escape_of_isEscape {cursor : Cursor} {meant : Char} {spelled rest : List Char}
    (here : cursor.rest = spelled ++ rest) (isEscape : IsEscape meant spelled) :
    escape cursor = .ok (meant, spelled.length) := by
  unfold escape
  rw [here]
  cases isEscape with
  | @letter letter _ known =>
    rw [List.singleton_append]
    split
    · rename_i nothing
      cases nothing
    · rename_i same
      rw [(List.cons.inj same).1] at known
      cases known
    · rename_i same
      rw [← (List.cons.inj same).1, known]
      rfl
  | @unit digits value isUnit noHigh noLow =>
    have behind : (cursor.drop 1).rest = digits ++ rest := congrArg (List.drop 1) here
    show (unit (cursor.drop 1) >>= _) = _
    rw [unit_of_unit? behind isUnit]
    show (if isLowHalf value = true then _ else if isHighHalf value = true then _ else _) = _
    rw [noLow, if_neg Bool.false_ne_true, noHigh, if_neg Bool.false_ne_true, List.length_cons,
      length_of_unit? isUnit]
  | @pair first second high low isFirst isHigh isSecond isLow =>
    rw [List.cons_append, List.append_assoc] at here
    have behind : (cursor.drop 1).rest = first ++ '\\' :: 'u' :: (second ++ rest) :=
      congrArg (List.drop 1) here
    have further : (cursor.drop 5).rest = '\\' :: 'u' :: (second ++ rest) := by
      show cursor.rest.drop 5 = _
      rw [here, List.drop_succ_cons, ← length_of_unit? isFirst, List.drop_left]
      rfl
    have noLow : ¬ isLowHalf high = true := by
      unfold isHighHalf at isHigh
      unfold isLowHalf
      simp only [Bool.and_eq_true, decide_eq_true_eq] at isHigh ⊢
      omega
    show (unit (cursor.drop 1) >>= _) = _
    rw [unit_of_unit? behind isFirst]
    show (if isLowHalf high = true then _ else if isHighHalf high = true then _ else _) = _
    rw [if_neg noLow, if_pos isHigh, secondHalf_of_unit? further isSecond isLow,
      List.length_cons, List.length_append, List.length_cons, List.length_cons,
      length_of_unit? isFirst, length_of_unit? isSecond]

theorem body_of_spells {text spelled : List Char} (spells : Spells text spelled) (rest : List Char)
    (position : Position) :
    ∃ next, body position (spelled ++ '"' :: rest) = .ok (text, ⟨rest, next⟩) := by
  induction spells generalizing position with
  | nil =>
    refine ⟨position.advance '"', ?_⟩
    rw [List.nil_append, body]
    rfl
  | plain noQuote noEscape noControl later inductionHypothesis =>
    obtain ⟨next, reads⟩ := inductionHypothesis (position.advance _)
    refine ⟨next, ?_⟩
    rw [List.cons_append, body, if_neg noQuote, if_neg noEscape, if_neg noControl, reads]
    rfl
  | @escape meant escape text spelled isEscape later inductionHypothesis =>
    have read : Quote.escape ⟨escape ++ (spelled ++ '"' :: rest), position.advance '\\'⟩ = _ :=
      escape_of_isEscape rfl isEscape
    obtain ⟨next, reads⟩ := inductionHypothesis
      ((position.advance '\\').advanceAll escape)
    refine ⟨next, ?_⟩
    rw [List.cons_append, List.append_assoc, body, if_neg (by decide), if_pos rfl, read]
    show (body ((position.advance '\\').advanceAll ((escape ++ (spelled ++ '"' :: rest)).take
      escape.length)) ((escape ++ (spelled ++ '"' :: rest)).drop escape.length) >>= _) = _
    rw [List.take_left, List.drop_left, reads]
    rfl

end Quote

/-- Whether a string can stand between quotes as it is. -/
def Reader.Plain (text : List Char) : Prop :=
  ∀ character ∈ text, character ≠ '"' ∧ character ≠ '\\' ∧ ¬ character.toNat < 0x20

/-- Such a string spells itself. -/
theorem Quote.spells_of_plain {text : List Char} (plain : Reader.Plain text) :
    Spells text text := by
  induction text with
  | nil => exact .nil
  | cons character rest inductionHypothesis =>
    obtain ⟨⟨noQuote, noEscape, noControl⟩, plainRest⟩ := List.forall_mem_cons.1 plain
    exact .plain noQuote noEscape noControl (inductionHypothesis plainRest)

/-! ### Numbers -/

/-- Whether a text is a row of digits. -/
def IsDigits (text : List Char) : Prop :=
  text ≠ [] ∧ ∀ character ∈ text, character.isDigit = true

/-- Whether a text is a whole number without a sign. Only zero itself begins with a zero. -/
def IsWhole (text : List Char) : Prop :=
  text = ['0'] ∨ IsDigits text ∧ text.head? ≠ some '0'

/-- Whether a text is a number: a whole number, in front of it perhaps a minus, and behind it
perhaps a fraction and an exponent. -/
inductive IsNumber : List Char → Prop
  | intro {sign whole fraction exponent : List Char} (isSign : sign = [] ∨ sign = ['-'])
    (isWhole : IsWhole whole)
    (isFraction : fraction = [] ∨ ∃ digits, fraction = '.' :: digits ∧ IsDigits digits)
    (isExponent : exponent = [] ∨ ∃ mark direction digits,
      exponent = mark :: (direction ++ digits) ∧ (mark = 'e' ∨ mark = 'E') ∧
        (direction = [] ∨ direction = ['+'] ∨ direction = ['-']) ∧ IsDigits digits) :
    IsNumber (sign ++ whole ++ fraction ++ exponent)

theorem IsWhole.isNumber {text : List Char} (isWhole : IsWhole text) : IsNumber text := by
  have isNumber := @IsNumber.intro [] text [] [] (.inl rfl) isWhole (.inl rfl) (.inl rfl)
  rwa [List.nil_append, List.append_nil, List.append_nil] at isNumber

theorem IsWhole.exists_digit {text : List Char} (isWhole : IsWhole text) :
    ∃ first rest, text = first :: rest ∧ first.isDigit = true := by
  obtain rfl | ⟨⟨nonempty, only⟩, _⟩ := isWhole
  · exact ⟨'0', [], rfl, by decide⟩
  · obtain ⟨first, rest, rfl⟩ := List.exists_cons_of_ne_nil nonempty
    exact ⟨first, rest, rfl, only first List.mem_cons_self⟩

theorem isWhole_toDigits (number : Nat) : IsWhole (Nat.toDigits 10 number) := by
  rcases Nat.eq_zero_or_pos number with rfl | positive
  · exact .inl rfl
  · exact .inr ⟨⟨Nat.toDigits_ne_nil, Numeral.isDigit_toDigits number⟩,
      Numeral.head?_toDigits positive⟩

/-- A number begins with a digit or a minus. -/
theorem IsNumber.exists_first {text : List Char} (isNumber : IsNumber text) :
    ∃ first rest, text = first :: rest ∧ Number.begins first = true := by
  obtain ⟨isSign, isWhole, _, _⟩ := isNumber
  obtain ⟨first, rest, rfl, isDigit⟩ := isWhole.exists_digit
  obtain rfl | rfl := isSign
  · exact ⟨first, _, rfl, by rw [Number.begins, isDigit, Bool.or_true]⟩
  · exact ⟨'-', _, rfl, by decide⟩

/-- A digit is known by its value. -/
theorem digitChar_of_isDigit {digit : Char} (isDigit : digit.isDigit = true) :
    (digit.toNat - 48).digitChar = digit ∧ digit.toNat - 48 < 10 := by
  have range : 48 ≤ digit.toNat ∧ digit.toNat ≤ 57 := by
    simp only [Char.isDigit, Bool.and_eq_true, decide_eq_true_eq, UInt32.le_iff_toNat_le] at isDigit
    exact isDigit
  refine ⟨Char.toNat_inj.1 ?_, by omega⟩
  generalize digit.toNat = code at range ⊢
  obtain ⟨low, high⟩ := range
  interval_cases code <;> decide

/-- A row of digits that does not begin with a zero is how its value is usually written. -/
theorem toDigits_ofDigitChars {text : List Char} (isDigits : IsDigits text)
    (noZero : text.head? ≠ some '0') :
    0 < Nat.ofDigitChars 10 text 0 ∧ Nat.toDigits 10 (Nat.ofDigitChars 10 text 0) = text := by
  obtain ⟨nonempty, only⟩ := isDigits
  induction text using List.reverseRecOn with
  | nil => exact absurd rfl nonempty
  | append_singleton front digit inductionHypothesis =>
    obtain ⟨onlyFront, isDigit⟩ := List.forall_mem_append.1 only
    obtain ⟨shown, small⟩ := digitChar_of_isDigit (isDigit digit (List.mem_singleton.2 rfl))
    have value : Nat.ofDigitChars 10 (front ++ [digit]) 0 =
        Nat.ofDigitChars 10 front 0 * 10 + (digit.toNat - 48) := by
      rw [Nat.ofDigitChars_append, Numeral.ofDigitChars_digit, Nat.ofDigitChars_nil]
    rw [value]
    by_cases alone : front = []
    · subst alone
      have positive : digit.toNat - 48 ≠ 0 := by
        intro zero
        rw [zero] at shown
        exact noZero (congrArg some shown.symm)
      rw [Nat.ofDigitChars_nil, Nat.zero_mul, Nat.zero_add, Nat.toDigits_of_lt_base small, shown]
      exact ⟨Nat.pos_of_ne_zero positive, rfl⟩
    · rw [List.head?_append_of_ne_nil _ alone] at noZero
      obtain ⟨positive, same⟩ := inductionHypothesis noZero alone onlyFront
      have large : 10 ≤ Nat.ofDigitChars 10 front 0 * 10 + (digit.toNat - 48) := by omega
      have rest : (Nat.ofDigitChars 10 front 0 * 10 + (digit.toNat - 48)) / 10 =
          Nat.ofDigitChars 10 front 0 := by omega
      have last : (Nat.ofDigitChars 10 front 0 * 10 + (digit.toNat - 48)) % 10 =
          digit.toNat - 48 := by omega
      rw [Nat.toDigits_of_base_le (by decide) large, rest, last, same, shown]
      exact ⟨by omega, rfl⟩

theorem IsWhole.toDigits_eq {text : List Char} (isWhole : IsWhole text) :
    Nat.toDigits 10 (Nat.ofDigitChars 10 text 0) = text := by
  obtain rfl | ⟨isDigits, noZero⟩ := isWhole
  · decide
  · exact (toDigits_ofDigitChars isDigits noZero).2

namespace Reader

variable {Value Other : Type} {cursor next : Cursor}

/-- Behind a first reader the second goes on where the first has stopped. -/
theorem bind_ok {reader : Reader Value} {follow : Value → Reader Other} {other : Other}
    (done : (reader >>= follow) cursor = .ok (other, next)) :
    ∃ value between, reader cursor = .ok (value, between) ∧
      follow value between = .ok (other, next) := by
  obtain ⟨⟨value, between⟩, first, second⟩ := exists_of_bind done
  exact ⟨value, between, first, second⟩

theorem peek_ok {answer : Option Char} (done : peek cursor = .ok (answer, next)) :
    next = cursor ∧ answer = cursor.rest.head? := by
  cases done
  exact ⟨rfl, rfl⟩

theorem append_ok {limit value number : Nat} {digits : List Char}
    (whole : Number.append limit value digits = (number, 0)) :
    Nat.ofDigitChars 10 digits value = number := by
  induction digits generalizing value with
  | nil =>
    cases whole
    rfl
  | cons digit rest inductionHypothesis =>
    rw [Number.append] at whole
    split at whole
    · rw [Numeral.ofDigitChars_digit]
      exact inductionHypothesis whole
    · cases whole

theorem digits_ok {digits : List Char} (done : Number.digits cursor = .ok (digits, next)) :
    cursor.rest = digits ++ next.rest ∧ digits = cursor.rest.takeWhile Char.isDigit := by
  cases done
  refine ⟨?_, rfl⟩
  exact (List.prefix_iff_eq_append.1 (List.takeWhile_prefix Char.isDigit)).symm

theorem wholeDigits_ok {digits : List Char}
    (done : Number.wholeDigits cursor = .ok (digits, next)) :
    cursor.rest = digits ++ next.rest ∧ IsWhole digits := by
  obtain ⟨rest, between, here, done⟩ := bind_ok done
  cases here
  generalize here : cursor.rest = rest at done
  split at done
  · cases done
  · rename_i second tail
    obtain ⟨_, between, passed, done⟩ := bind_ok done
    cases passed
    split at done
    · cases done
    · cases done
      rw [show (cursor.drop 1).rest = cursor.rest.drop 1 from rfl, here]
      exact ⟨rfl, .inl rfl⟩
  · rename_i character tail several
    split at done
    · rename_i isDigit
      obtain ⟨split, taken⟩ := digits_ok done
      rw [here] at split taken
      refine ⟨split, ?_⟩
      rw [List.takeWhile_cons_of_pos isDigit] at taken
      by_cases zero : character = '0'
      · cases tail with
        | nil => exact .inl (taken.trans (congrArg (· :: []) zero))
        | cons second others => exact absurd rfl (several second others zero)
      · refine .inr ⟨⟨taken ▸ List.cons_ne_nil _ _, fun digit member => ?_⟩, ?_⟩
        · rw [taken, ← List.takeWhile_cons_of_pos isDigit] at member
          exact List.mem_takeWhile_imp member
        · rw [taken, List.head?_cons]
          exact fun same => zero (Option.some.inj same)
    · cases done

/-- Behind a point or an exponent no integer is read. -/
theorem conclude_ok {negative : Bool} {significand : Nat} {exponent : Int} {number : Number}
    (done : Number.conclude negative significand exponent cursor = .ok (number, next)) :
    ∃ value, number = .floating value := by
  unfold Number.conclude at done
  cases scaled : Number.scaled? significand exponent with
  | none =>
    rw [scaled] at done
    cases done
  | some value =>
    rw [scaled] at done
    cases done
    exact ⟨_, rfl⟩

theorem exponentPart_ok {negative : Bool} {significand : Nat} {exponent : Int} {number : Number}
    (done : Number.exponentPart negative significand exponent cursor = .ok (number, next)) :
    ∃ value, number = .floating value := by
  obtain ⟨_, _, _, done⟩ := bind_ok done
  obtain ⟨down, _, _, done⟩ := bind_ok done
  obtain ⟨start, _, _, done⟩ := bind_ok done
  obtain ⟨written, _, _, done⟩ := bind_ok done
  generalize Number.append Number.largestExponent 0 written = parts at done
  split at done
  · split at done
    · exact conclude_ok done
    · exact conclude_ok done
  · split at done
    · obtain ⟨_, _, _, done⟩ := bind_ok done
      cases done
    · cases done
      exact ⟨_, rfl⟩

theorem withExponent_ok {negative : Bool} {significand : Nat} {exponent : Int} {number : Number}
    (done : Number.withExponent negative significand exponent cursor = .ok (number, next)) :
    ∃ value, number = .floating value := by
  obtain ⟨ahead, _, _, done⟩ := bind_ok done
  split at done
  · exact exponentPart_ok done
  · exact exponentPart_ok done
  · exact conclude_ok done

theorem unsigned_ok {negative : Bool} {value : Int}
    (done : Number.unsigned negative cursor = .ok (.integer value, next)) (natural : 0 ≤ value) :
    negative = false ∧ ∃ digits, cursor.rest = digits ++ next.rest ∧ IsWhole digits ∧
      (Nat.ofDigitChars 10 digits 0 : Int) = value := by
  obtain ⟨digits, between, read, done⟩ := bind_ok done
  obtain ⟨split, isWhole⟩ := wholeDigits_ok read
  generalize whole : Number.append Number.largest 0 digits = parts at done
  obtain ⟨significand, left⟩ := parts
  obtain ⟨ahead, _, peeked, goesOn⟩ := bind_ok done
  obtain ⟨rfl, -⟩ := peek_ok peeked
  dsimp only at goesOn
  split at goesOn
  · obtain ⟨_, _, _, goesOn⟩ := bind_ok goesOn
    obtain ⟨fraction, _, _, goesOn⟩ := bind_ok goesOn
    obtain ⟨_, floating⟩ := withExponent_ok goesOn
    cases floating
  · obtain ⟨_, floating⟩ := exponentPart_ok goesOn
    cases floating
  · obtain ⟨_, floating⟩ := exponentPart_ok goesOn
    cases floating
  · split at goesOn
    · obtain ⟨_, floating⟩ := conclude_ok goesOn
      cases floating
    · rename_i nothing
      rw [Decidable.not_not] at nothing
      rw [nothing] at whole
      split at goesOn
      · rename_i plain
        rw [Bool.not_eq_true'] at plain
        cases goesOn
        exact ⟨plain, digits, split, isWhole, congrArg Int.ofNat (append_ok whole)⟩
      · split at goesOn
        · cases goesOn
        · rename_i nonzero
          -- What is read behind a minus is below zero.
          cases goesOn
          omega

/-- An integer that is not negative is read from the digits of a whole number. -/
theorem number_ok {value : Int} (done : Number.read cursor = .ok (.integer value, next))
    (natural : 0 ≤ value) :
    ∃ digits, cursor.rest = digits ++ next.rest ∧ IsWhole digits ∧
      (Nat.ofDigitChars 10 digits 0 : Int) = value := by
  obtain ⟨ahead, _, peeked, goesOn⟩ := bind_ok done
  obtain ⟨rfl, -⟩ := peek_ok peeked
  split at goesOn
  · obtain ⟨_, between, _, goesOn⟩ := bind_ok goesOn
    cases (unsigned_ok goesOn natural).1
  · exact (unsigned_ok goesOn natural).2

end Reader

/-! ### Values -/

/-- What a text of this form stands for. A number is kept as it is written. -/
inductive Value where
  | null
  | boolean (truth : Bool)
  | number (literal : List Char)
  | string (text : String)
  | list (items : List Value)
  | object (members : List (String × Value))

/-- A member of an object, with its key and its value as they are written. -/
structure Member where
  key : String
  body : List Char
  value : Value
  tokens : List (List Char)

namespace Member

def content (member : Member) : String × Value :=
  (member.key, member.value)

/-- The tokens of a member. -/
def spelling (member : Member) : List (List Char) :=
  ('"' :: (member.body ++ ['"'])) :: [':'] :: member.tokens

end Member

/-- Whether some tokens spell a value. -/
inductive Spells : Value → List (List Char) → Prop
  | null : Spells .null ["null".toList]
  | boolean (truth : Bool) :
    Spells (.boolean truth) [if truth then "true".toList else "false".toList]
  | number {literal : List Char} (isNumber : IsNumber literal) :
    Spells (.number literal) [literal]
  | string {text : String} {body : List Char} (spelled : Quote.Spells text.toList body) :
    Spells (.string text) ['"' :: (body ++ ['"'])]
  | list {items : List (Value × List (List Char))} (each : ∀ item ∈ items, Spells item.1 item.2) :
    Spells (.list (items.map Prod.fst))
      (['['] :: (List.intercalate [[',']] (items.map Prod.snd) ++ [[']']]))
  | object {members : List Member}
    (keys : ∀ member ∈ members, Quote.Spells member.key.toList member.body)
    (values : ∀ member ∈ members, Spells member.value member.tokens) :
    Spells (.object (members.map Member.content))
      (['\x7b'] :: (List.intercalate [[',']] (members.map Member.spelling) ++ [['\x7d']]))

/-- Whether a text spells a value, and holds nothing else but blanks. -/
def IsText (text : List Char) (value : Value) : Prop :=
  ∃ tokens, Spells value tokens ∧ Spaced tokens text

end SerialFeed.Json
