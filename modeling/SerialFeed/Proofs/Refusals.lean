/-
This file says why a number is refused. Its text is looked at without the blanks around it and
without one plus sign, and from the left: digits are added up until they are more than the limit, or
until something comes that is no digit, whichever is first. So there is one trouble in every text
that is refused, and which one it is can be told from the text alone: from its digits in front of
the first other character, and from what comes behind them.

A block size that can be read but is over the cap is refused for that. It is then shown as the
number that it is, while every other refusal shows the text as it was given.
-/

import Mathlib.Data.List.Infix
import SerialFeed.Proofs.Configuration

namespace SerialFeed

namespace Numeral

/-! ### Digits that are added up -/

/-- Whether a text consists of digits. -/
def DigitsOnly (text : List Char) : Prop :=
  ∀ character ∈ text, character.isDigit = true

/-- Whether the digits at the beginning of a text are more than the limit, once some of them have
been added to a number. -/
def Overflows (limit value : Nat) (text : List Char) : Prop :=
  ∃ front, front <+: text ∧ DigitsOnly front ∧ limit < Nat.ofDigitChars 10 front value

/-- Whether a text has a character that is no digit, and the digits in front of the first one, added
to a number, are not over the limit. -/
def Strays (limit value : Nat) (text : List Char) : Prop :=
  ∃ front other back, text = front ++ other :: back ∧ DigitsOnly front ∧ other.isDigit = false ∧
    Nat.ofDigitChars 10 front value ≤ limit

variable {limit value : Nat}

theorem digitsOnly_cons {digit : Char} {rest : List Char} :
    DigitsOnly (digit :: rest) ↔ digit.isDigit = true ∧ DigitsOnly rest :=
  List.forall_mem_cons

theorem extend_digit {digit : Char} (isDigit : digit.isDigit = true) (rest : List Char) :
    extend limit value (digit :: rest) =
      if value * 10 + (digit.toNat - 48) ≤ limit then
        extend limit (value * 10 + (digit.toNat - 48)) rest
      else .error .tooLarge := by
  simp only [extend, digit?, if_pos isDigit]

theorem extend_other {other : Char} (noDigit : other.isDigit = false) (rest : List Char) :
    extend limit value (other :: rest) = .error .invalidDigit := by
  simp only [extend, digit?, noDigit, Bool.false_eq_true, if_false]

theorem not_overflows_nil (fits : value ≤ limit) : ¬ Overflows limit value [] := by
  rintro ⟨front, starts, _, exceeds⟩
  rw [List.prefix_nil.1 starts, Nat.ofDigitChars_nil] at exceeds
  exact absurd exceeds (Nat.not_lt.2 fits)

theorem not_strays_nil : ¬ Strays limit value [] := by
  rintro ⟨front, other, back, split, _⟩
  exact List.append_ne_nil_of_right_ne_nil front (List.cons_ne_nil other back) split.symm

/-- Nothing overflows in front of a character that is no digit. -/
theorem not_overflows_other {other : Char} (noDigit : other.isDigit = false) (rest : List Char)
    (fits : value ≤ limit) : ¬ Overflows limit value (other :: rest) := by
  rintro ⟨front, starts, digits, exceeds⟩
  rcases List.prefix_cons_iff.1 starts with rfl | ⟨others, rfl, _⟩
  · exact absurd exceeds (Nat.not_lt.2 fits)
  · rw [(digitsOnly_cons.1 digits).1] at noDigit
    cases noDigit

/-- A digit that fits leaves it to the rest of the text whether something overflows. -/
theorem overflows_digit {digit : Char} (isDigit : digit.isDigit = true) (rest : List Char)
    (fits : value ≤ limit) :
    Overflows limit value (digit :: rest) ↔
      Overflows limit (value * 10 + (digit.toNat - 48)) rest := by
  constructor
  · rintro ⟨front, starts, digits, exceeds⟩
    rcases List.prefix_cons_iff.1 starts with rfl | ⟨others, rfl, shorter⟩
    · exact absurd exceeds (Nat.not_lt.2 fits)
    · rw [ofDigitChars_digit] at exceeds
      exact ⟨others, shorter, (digitsOnly_cons.1 digits).2, exceeds⟩
  · rintro ⟨front, starts, digits, exceeds⟩
    rw [← ofDigitChars_digit] at exceeds
    exact ⟨digit :: front, List.prefix_cons_inj digit |>.2 starts,
      digitsOnly_cons.2 ⟨isDigit, digits⟩, exceeds⟩

/-- A digit is not the character that strays. -/
theorem strays_digit {digit : Char} (isDigit : digit.isDigit = true) (rest : List Char) :
    Strays limit value (digit :: rest) ↔
      Strays limit (value * 10 + (digit.toNat - 48)) rest := by
  constructor
  · rintro ⟨front, other, back, split, digits, noDigit, small⟩
    rcases List.cons_eq_append_iff.1 split with ⟨rfl, first⟩ | ⟨others, rfl, rfl⟩
    · rw [(List.cons.inj first).1, isDigit] at noDigit
      cases noDigit
    · rw [ofDigitChars_digit] at small
      exact ⟨others, other, back, rfl, (digitsOnly_cons.1 digits).2, noDigit, small⟩
  · rintro ⟨front, other, back, rfl, digits, noDigit, small⟩
    rw [← ofDigitChars_digit] at small
    exact ⟨digit :: front, other, back, rfl, digitsOnly_cons.2 ⟨isDigit, digits⟩, noDigit, small⟩

/-- What is over the limit stays over it, so nothing strays behind it. -/
theorem not_strays_of_exceeds {text : List Char} (exceeds : limit < value) :
    ¬ Strays limit value text := by
  rintro ⟨front, other, back, _, _, _, small⟩
  have longer := le_ofDigitChars front value
  omega

theorem extend_eq_tooLarge {digits : List Char} (fits : value ≤ limit) :
    extend limit value digits = .error .tooLarge ↔ Overflows limit value digits := by
  induction digits generalizing value with
  | nil => exact iff_of_false nofun (not_overflows_nil fits)
  | cons digit rest inductionHypothesis =>
    by_cases isDigit : digit.isDigit = true
    · rw [extend_digit isDigit, overflows_digit isDigit rest fits]
      split
      · rename_i small
        exact inductionHypothesis small
      · rename_i large
        exact iff_of_true rfl ⟨[], List.nil_prefix, nofun, Nat.not_le.1 large⟩
    · rw [extend_other (eq_false_of_ne_true isDigit)]
      exact iff_of_false nofun (not_overflows_other (eq_false_of_ne_true isDigit) rest fits)

theorem extend_eq_invalidDigit {digits : List Char} (fits : value ≤ limit) :
    extend limit value digits = .error .invalidDigit ↔ Strays limit value digits := by
  induction digits generalizing value with
  | nil => exact iff_of_false nofun not_strays_nil
  | cons digit rest inductionHypothesis =>
    by_cases isDigit : digit.isDigit = true
    · rw [extend_digit isDigit, strays_digit isDigit]
      split
      · rename_i small
        exact inductionHypothesis small
      · rename_i large
        exact iff_of_false nofun (not_strays_of_exceeds (Nat.not_le.1 large))
    · have noDigit := eq_false_of_ne_true isDigit
      rw [extend_other noDigit]
      exact iff_of_true rfl ⟨[], digit, rest, rfl, nofun, noDigit, fits⟩

/-- Digits in a row are troubled by nothing but an overflow or a character that is no digit. -/
theorem extend_eq_error {digits : List Char} {trouble : Trouble}
    (refused : extend limit value digits = .error trouble) :
    trouble = .tooLarge ∨ trouble = .invalidDigit := by
  induction digits generalizing value with
  | nil => cases refused
  | cons digit rest inductionHypothesis =>
    by_cases isDigit : digit.isDigit = true
    · rw [extend_digit isDigit] at refused
      split at refused
      · exact inductionHypothesis refused
      · exact .inl (Except.error.inj refused).symm
    · rw [extend_other (eq_false_of_ne_true isDigit)] at refused
      exact .inr (Except.error.inj refused).symm

/-- A digit is worth nothing only if it is a zero. -/
theorem eq_zero_of_worth {digit : Char} (isDigit : digit.isDigit = true)
    (worth : digit.toNat - 48 = 0) : digit = '0' := by
  have range : 48 ≤ digit.toNat := by
    simp only [Char.isDigit, Bool.and_eq_true, decide_eq_true_eq, UInt32.le_iff_toNat_le] at isDigit
    exact isDigit.1
  have same : digit.toNat = '0'.toNat := Nat.le_antisymm (Nat.sub_eq_zero_iff_le.1 worth) range
  exact Char.toNat_inj.1 same

/-- Digits are worth nothing only if they are zeros. -/
theorem ofDigitChars_eq_zero {digits : List Char} (only : DigitsOnly digits) :
    Nat.ofDigitChars 10 digits 0 = 0 ↔ ∀ character ∈ digits, character = '0' := by
  induction digits with
  | nil => exact iff_of_true rfl nofun
  | cons digit rest inductionHypothesis =>
    obtain ⟨isDigit, others⟩ := digitsOnly_cons.1 only
    rw [ofDigitChars_digit, List.forall_mem_cons, Nat.zero_mul, Nat.zero_add]
    constructor
    · intro nothing
      -- The value only grows, so the first digit is worth nothing by itself.
      have first := le_ofDigitChars rest (digit.toNat - 48)
      have worth : digit.toNat - 48 = 0 := Nat.le_zero.1 (nothing ▸ first)
      rw [worth] at nothing
      exact ⟨eq_zero_of_worth isDigit worth, (inductionHypothesis others).1 nothing⟩
    · rintro ⟨rfl, zeros⟩
      exact (inductionHypothesis others).2 zeros

/-! ### A number -/

/-- Whether a text is the usual spelling of a positive number: its digits, of which the first is no
zero. -/
structure Canonical (text : List Char) (value : Nat) : Prop where
  digits : DigitsOnly text
  first : text.head? ≠ some '0'
  value : Nat.ofDigitChars 10 text 0 = value

theorem canonical_toString {value : Nat} (positive : 0 < value) :
    Canonical (toString value).toList value := by
  rw [Nat.toString_eq_repr, Nat.toList_repr]
  exact ⟨isDigit_toDigits value, head?_toDigits positive, Nat.ofDigitChars_ten_toDigits⟩

/-- What is left of a text behind one plus sign, if it begins with one. -/
def unsigned : List Char → List Char
  | '+' :: digits => digits
  | text => text

/-- What a text without blanks around it is like if it is refused for each trouble. -/
def Trouble.Shows (limit : Nat) (text : List Char) : Trouble → Prop
  | empty => text = []
  | invalidDigit => text ≠ [] ∧ (unsigned text = [] ∨ Strays limit 0 (unsigned text))
  | tooLarge => Overflows limit 0 (unsigned text)
  | zero => unsigned text ≠ [] ∧ ∀ character ∈ unsigned text, character = '0'

/-- A text is read as what stands behind its sign, if there is something. -/
theorem read_eq_extend {text : List Char} (written : unsigned text ≠ []) :
    read limit text = extend limit 0 (unsigned text) := by
  unfold read
  split
  · exact absurd rfl written
  · exact absurd rfl written
  · rfl
  · rename_i nonempty single other
    rw [unsigned]
    exact fun digits signed => other digits signed

theorem unsigned_eq_nil {text : List Char} : unsigned text = [] ↔ text = [] ∨ text = ['+'] := by
  unfold unsigned
  split
  · simp
  · rename_i other
    exact ⟨.inl, fun either => either.resolve_right (other [])⟩

/-- Zeros, and nothing else, are read as zero. -/
theorem shows_zero {text : List Char} :
    Trouble.zero.Shows limit text ↔ read limit text = .ok 0 := by
  by_cases written : unsigned text = []
  · refine iff_of_false (fun shows => shows.1 written) ?_
    rcases unsigned_eq_nil.1 written with rfl | rfl <;> exact nofun
  · rw [read_eq_extend written, extend_eq_ok (Nat.zero_le limit)]
    constructor
    · rintro ⟨_, zeros⟩
      have only : DigitsOnly (unsigned text) := fun character member => zeros character member ▸ rfl
      exact ⟨only, (ofDigitChars_eq_zero only).2 zeros, Nat.zero_le limit⟩
    · rintro ⟨only, nothing, _⟩
      exact ⟨written, (ofDigitChars_eq_zero only).1 nothing⟩

theorem read_eq_error {text : List Char} {trouble : Trouble} :
    read limit text = .error trouble ↔ trouble ≠ .zero ∧ trouble.Shows limit text := by
  by_cases written : unsigned text = []
  · -- There is nothing behind the sign, and perhaps no sign either.
    rcases unsigned_eq_nil.1 written with rfl | rfl
    · cases trouble with
      | empty => exact iff_of_true rfl ⟨nofun, rfl⟩
      | invalidDigit => exact iff_of_false nofun fun shows => shows.2.1 rfl
      | tooLarge => exact iff_of_false nofun fun shows => not_overflows_nil (Nat.zero_le _) shows.2
      | zero => exact iff_of_false nofun fun shows => shows.1 rfl
    · cases trouble with
      | empty => exact iff_of_false nofun fun shows => List.cons_ne_nil _ _ shows.2
      | invalidDigit => exact iff_of_true rfl ⟨nofun, List.cons_ne_nil _ _, .inl rfl⟩
      | tooLarge => exact iff_of_false nofun fun shows => not_overflows_nil (Nat.zero_le _) shows.2
      | zero => exact iff_of_false nofun fun shows => shows.1 rfl
  · have nonempty : text ≠ [] := by
      rintro rfl
      exact written rfl
    have either : ∀ other, extend limit 0 (unsigned text) = .error other →
        other = .tooLarge ∨ other = .invalidDigit := fun other => extend_eq_error
    rw [read_eq_extend written]
    cases trouble with
    | empty =>
      refine iff_of_false (fun refused => ?_) fun shows => nonempty shows.2
      rcases either _ refused with impossible | impossible <;> cases impossible
    | invalidDigit =>
      rw [extend_eq_invalidDigit (Nat.zero_le limit)]
      exact ⟨fun strays => ⟨nofun, nonempty, .inr strays⟩,
        fun shows => shows.2.2.resolve_left written⟩
    | tooLarge =>
      rw [extend_eq_tooLarge (Nat.zero_le limit)]
      exact ⟨fun overflows => ⟨nofun, overflows⟩, And.right⟩
    | zero =>
      refine iff_of_false (fun refused => ?_) fun shows => shows.1 rfl
      rcases either _ refused with impossible | impossible <;> cases impossible

/-- A text is refused for the one trouble that shows in it. -/
theorem readPositive_eq_error {text : List Char} {trouble : Trouble} :
    readPositive limit text = .error trouble ↔ trouble.Shows limit (Text.trim text) := by
  have shown : trouble.Shows limit (Text.trim text) ↔
      read limit (Text.trim text) = .error trouble ∨
        trouble = .zero ∧ read limit (Text.trim text) = .ok 0 := by
    rw [read_eq_error, ← shows_zero]
    by_cases isZero : trouble = .zero
    · subst isZero
      simp
    · simp [isZero]
  rw [shown]
  unfold readPositive
  cases read limit (Text.trim text) with
  | error other =>
    change Except.error other = _ ↔ _
    simp
  | ok value =>
    change (if positive : 0 < value then .ok ⟨value, positive⟩ else .error .zero :
      Except Trouble { value : Nat // 0 < value }) = .error trouble ↔ _
    split
    · rename_i positive
      simp [Nat.ne_of_gt positive]
    · rename_i nothing
      simp [Nat.eq_zero_of_not_pos nothing, eq_comm]

theorem Trouble.message_inj {trouble other : Trouble} :
    trouble.message = other.message ↔ trouble = other := by
  cases trouble <;> cases other <;> decide

/-- Which of four reasons is given where a text is refused: each exactly where the text is like
that, without the blanks around it. -/
structure Reason (limit : Nat) (text reason : String) : Prop where
  empty : reason = "cannot parse integer from empty string" ↔ Text.trim text.toList = []
  tooLarge : reason = "number too large to fit in target type" ↔
    Overflows limit 0 (unsigned (Text.trim text.toList))
  invalidDigit : reason = "invalid digit found in string" ↔
    Text.trim text.toList ≠ [] ∧ (unsigned (Text.trim text.toList) = [] ∨
      Strays limit 0 (unsigned (Text.trim text.toList)))
  zero : reason = "number would be zero for non-zero type" ↔
    unsigned (Text.trim text.toList) ≠ [] ∧
      ∀ character ∈ unsigned (Text.trim text.toList), character = '0'

namespace Reason

variable {text : String}

theorem of_refused {trouble : Trouble} (refused : readPositive limit text.toList = .error trouble) :
    Reason limit text trouble.message := by
  have exact (other : Trouble) :
      trouble.message = other.message ↔ other.Shows limit (Text.trim text.toList) := by
    rw [Trouble.message_inj, ← readPositive_eq_error, refused, Except.error.injEq]
  exact ⟨exact .empty, exact .tooLarge, exact .invalidDigit, exact .zero⟩

/-- None of the four is the reason if a number has been read. -/
theorem of_read {reason : String} {number : { value : Nat // 0 < value }}
    (accepted : readPositive limit text.toList = .ok number)
    (unlike : ∀ trouble : Trouble, reason ≠ trouble.message) : Reason limit text reason := by
  have exact (other : Trouble) :
      reason = other.message ↔ other.Shows limit (Text.trim text.toList) := by
    rw [← readPositive_eq_error, accepted]
    exact iff_of_false (unlike other) nofun
  exact ⟨exact .empty, exact .tooLarge, exact .invalidDigit, exact .zero⟩

end Reason

end Numeral

namespace ForwardConfig

/-! ### A configuration -/

theorem readNumber_refused {name : NumberName} {limit : Nat} {text : String}
    {error : ForwardError} :
    readNumber name limit text = .error error ↔
      ∃ trouble, Numeral.readPositive limit text.toList = .error trouble ∧
        error = .invalidNumber name text (.unreadable trouble) := by
  unfold readNumber
  cases Numeral.readPositive limit text.toList with
  | error trouble => simp [Except.mapError, eq_comm]
  | ok number => exact iff_of_false nofun nofun

/-- A block size is refused if it cannot be read, or for the number that it is. -/
theorem readBlockSize_refused {text : String} {error : ForwardError} :
    readBlockSize text = .error error ↔
      readNumber .blockSize maxReadable text = .error error ∨
        ∃ number, readNumber .blockSize maxReadable text = .ok number ∧
          maxBlockSize < number.val ∧
            error = .invalidNumber .blockSize (toString number.val) .overCap := by
  unfold readBlockSize
  cases readNumber .blockSize maxReadable text with
  | error other =>
    change Except.error other = _ ↔ _
    simp
  | ok number =>
    change (if number.val ≤ maxBlockSize then _ else _) = _ ↔ _
    split
    · rename_i small
      simp [Nat.not_lt.2 small]
    · rename_i large
      simp [Nat.not_le.1 large, eq_comm]

theorem ofTexts_refused {port baud block : String} {error : ForwardError} :
    ofTexts port baud block = .error error ↔
      readNumber .baudRate maxBaud baud = .error error ∨
        (∃ speed, readNumber .baudRate maxBaud baud = .ok speed) ∧
          readBlockSize block = .error error := by
  unfold ofTexts
  cases readNumber .baudRate maxBaud baud with
  | error other =>
    change Except.error other = _ ↔ _
    simp
  | ok speed =>
    cases readBlockSize block with
    | error other =>
      change Except.error other = _ ↔ _
      simp
    | ok size => exact iff_of_false nofun (by simp)

/-- A number that can be read is refused as a block size if it is over the cap. -/
theorem readBlockSize_large {text : String} {size : Nat}
    (written : Numeral.Decimal text.toList size) (large : maxBlockSize < size)
    (readable : size ≤ maxReadable) :
    readBlockSize text = .error (.invalidNumber .blockSize (toString size) .overCap) := by
  have positive : 0 < size := Nat.zero_lt_of_lt large
  have read : readNumber .blockSize maxReadable text = .ok ⟨size, positive⟩ :=
    readNumber_eq_ok.2 ⟨written, positive, readable⟩
  exact readBlockSize_refused.2 (.inr ⟨_, read, large, rfl⟩)

end ForwardConfig

/-- A configuration is refused for its speed, with the text of the speed and one of four reasons; or
for its block size, with the text of the block size and one of the same reasons; or for a block size
that is over the cap, with this number. Each of the four reasons is given exactly where the text is
like that. And every number over the cap that can be read at all is refused for that and shown by
its digits alone, however it was written. -/
theorem ofTexts_reason (port baud block : String) :
    (∀ error, ForwardConfig.ofTexts port baud block = .error error →
      (∃ trouble, error = .invalidNumber .baudRate baud (.unreadable trouble) ∧
        Numeral.Reason (2 ^ 32 - 1) baud (NumberTrouble.unreadable trouble).message) ∨
      (∃ trouble, error = .invalidNumber .blockSize block (.unreadable trouble) ∧
        Numeral.Reason (2 ^ 64 - 1) block (NumberTrouble.unreadable trouble).message) ∨
      ∃ size, error = .invalidNumber .blockSize (toString size) .overCap ∧
        (Numeral.Decimal block.toList size ∧ 67108865 ≤ size ∧ size ≤ 2 ^ 64 - 1) ∧
        Numeral.Reason (2 ^ 64 - 1) block NumberTrouble.overCap.message) ∧
    (∀ speed size, Numeral.Within (2 ^ 32 - 1) baud speed → Numeral.Decimal block.toList size →
      67108865 ≤ size → size ≤ 2 ^ 64 - 1 →
      ∃ value trouble,
        ForwardConfig.ofTexts port baud block = .error (.invalidNumber .blockSize value trouble) ∧
        Numeral.Canonical value.toList size ∧ trouble.message = "larger than 67108864 bytes") := by
  have capped : NumberTrouble.overCap.message = "larger than 67108864 bytes" := by decide
  refine ⟨fun error refused => ?_, fun speed size within written large readable => ?_⟩
  · rcases ForwardConfig.ofTexts_refused.1 refused with slow | ⟨_, wide⟩
    · obtain ⟨trouble, reading, rfl⟩ := ForwardConfig.readNumber_refused.1 slow
      exact .inl ⟨trouble, rfl, .of_refused reading⟩
    · rcases ForwardConfig.readBlockSize_refused.1 wide with unread | ⟨size, read, large, rfl⟩
      · obtain ⟨trouble, reading, rfl⟩ := ForwardConfig.readNumber_refused.1 unread
        exact .inr (.inl ⟨trouble, rfl, .of_refused reading⟩)
      · have within := ForwardConfig.readNumber_eq_ok.1 read
        have unlike (trouble : Numeral.Trouble) :
            NumberTrouble.overCap.message ≠ trouble.message := by
          cases trouble <;> decide
        exact .inr (.inr ⟨size.val, rfl, ⟨within.decimal, large, within.small⟩,
          .of_read (Numeral.readPositive_eq_ok.2 ⟨within.decimal, within.small⟩) unlike⟩)
  · have read : ForwardConfig.readNumber .baudRate ForwardConfig.maxBaud baud =
        .ok ⟨speed, within.positive⟩ := ForwardConfig.readNumber_eq_ok.2 within
    have refused := ForwardConfig.readBlockSize_large written large readable
    exact ⟨_, _, ForwardConfig.ofTexts_of_block read refused,
      Numeral.canonical_toString (Nat.zero_lt_of_lt large), capped⟩

/-- A speed that is too large before a letter comes; and a block size over the cap with zeros and a
sign in front of it. -/
theorem ofTexts_reason_padded :
    (∃ trouble,
      ForwardConfig.ofTexts "ttyUSB0" "4294967296x" "64" =
        .error (.invalidNumber .baudRate "4294967296x" (.unreadable trouble)) ∧
      Numeral.Reason (2 ^ 32 - 1) "4294967296x" (NumberTrouble.unreadable trouble).message) ∧
    ∃ value trouble,
      ForwardConfig.ofTexts "ttyUSB0" "9600" " +0067108865\n" =
        .error (.invalidNumber .blockSize value trouble) ∧
      Numeral.Canonical value.toList 67108865 ∧ trouble.message = "larger than 67108864 bytes" := by
  constructor
  · have refused : ForwardConfig.ofTexts "ttyUSB0" "4294967296x" "64" =
        .error (.invalidNumber .baudRate "4294967296x" (.unreadable .tooLarge)) := rfl
    rcases (ofTexts_reason "ttyUSB0" "4294967296x" "64").1 _ refused with
      ⟨trouble, same, reason⟩ | ⟨_, impossible, _⟩ | ⟨_, impossible, _⟩
    · exact ⟨trouble, same ▸ refused, reason⟩
    · cases impossible
    · cases impossible
  · have read : ForwardConfig.readNumber .baudRate ForwardConfig.maxBaud "9600" =
        .ok ⟨9600, by decide⟩ := rfl
    have speed : Numeral.Within (2 ^ 32 - 1) "9600" 9600 := ForwardConfig.readNumber_eq_ok.1 read
    have size : Numeral.Decimal " +0067108865\n".toList 67108865 := by
      refine ⟨[' '], "+0067108865".toList, ['\n'], rfl, List.all_eq_true.1 rfl,
        List.all_eq_true.1 rfl, "0067108865".toList, .inr rfl, by decide, ?_, by decide⟩
      exact List.all_eq_true.1 rfl
    exact (ofTexts_reason "ttyUSB0" "9600" " +0067108865\n").2 9600 67108865 speed size (by decide)
      (by decide)

end SerialFeed
