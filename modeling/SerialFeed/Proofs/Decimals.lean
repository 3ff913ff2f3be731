/-
This file says which texts are read as numbers, and as which. A decimal number has digits, at least
one of them and any number of leading zeros, perhaps a plus sign in front of them, and perhaps
blanks around it. Such a text is read if the number is not over the limit, and nothing else is read:
the digits are taken from the left and their value never falls, so an overflow on the way is an
overflow at the end.
-/

import Mathlib.Data.List.DropRight
import Mathlib.Tactic.IntervalCases
import SerialFeed.Numeral

namespace SerialFeed

/-! ### Decimal numbers -/

namespace Numeral

/-- Whether a text is the digits of a number, with at most one plus sign in front. -/
def Denotes (text : List Char) (value : Nat) : Prop :=
  ∃ digits, (text = digits ∨ text = '+' :: digits) ∧ digits ≠ [] ∧
    (∀ character ∈ digits, character.isDigit = true) ∧ Nat.ofDigitChars 10 digits 0 = value

/-- Whether a text is a decimal number with blanks around it. -/
def Decimal (text : List Char) (value : Nat) : Prop :=
  ∃ before number after, text = before ++ number ++ after ∧
    (∀ character ∈ before, Text.isBlank character = true) ∧
    (∀ character ∈ after, Text.isBlank character = true) ∧ Denotes number value

end Numeral

/-! ### Blanks -/

namespace Text

theorem isBlank_of_isDigit {character : Char} (digit : character.isDigit = true) :
    isBlank character = false := by
  have range : 48 ≤ character.toNat ∧ character.toNat ≤ 57 := by
    simp only [Char.isDigit, Bool.and_eq_true, decide_eq_true_eq, UInt32.le_iff_toNat_le] at digit
    exact digit
  unfold isBlank
  generalize character.toNat = code at range ⊢
  grind

/-- No blank is dropped in front of a text that has none. -/
theorem dropWhile_append {text : List Char} (nonempty : text ≠ [])
    (solid : ∀ character ∈ text, isBlank character = false) (rest : List Char) :
    (text ++ rest).dropWhile isBlank = text ++ rest := by
  obtain ⟨first, others, rfl⟩ := List.exists_cons_of_ne_nil nonempty
  have stays : isBlank first = false := solid first List.mem_cons_self
  exact List.dropWhile_cons_of_neg (ne_true_of_eq_false stays)

/-- Trimming takes away the blanks at both ends, and no more if there are none inside. -/
theorem trim_append {before text after : List Char} (nonempty : text ≠ [])
    (solid : ∀ character ∈ text, isBlank character = false)
    (blankBefore : ∀ character ∈ before, isBlank character = true)
    (blankAfter : ∀ character ∈ after, isBlank character = true) :
    trim (before ++ text ++ after) = text := by
  have front : (before ++ text ++ after).dropWhile isBlank = text ++ after := by
    rw [List.append_assoc, List.dropWhile_append_of_pos blankBefore,
      dropWhile_append nonempty solid]
  have back : (text ++ after).reverse.dropWhile isBlank = text.reverse := by
    have solidReverse : ∀ character ∈ text.reverse, isBlank character = false := by
      simpa using solid
    have stays := dropWhile_append (List.reverse_ne_nil_iff.2 nonempty) solidReverse []
    rw [List.append_nil] at stays
    rw [List.reverse_append, List.dropWhile_append_of_pos (by simpa using blankAfter), stays]
  rw [trim, front, back, List.reverse_reverse]

/-- Trimming takes away nothing but blanks. -/
theorem exists_trim (text : List Char) :
    ∃ before after, text = before ++ trim text ++ after ∧
      (∀ character ∈ before, isBlank character = true) ∧
      ∀ character ∈ after, isBlank character = true := by
  let solid := text.dropWhile isBlank
  refine ⟨text.takeWhile isBlank, solid.rtakeWhile isBlank, ?_, ?_, ?_⟩
  · calc text = text.takeWhile isBlank ++ solid := List.takeWhile_append_dropWhile.symm
      _ = text.takeWhile isBlank ++ (solid.rdropWhile isBlank ++ solid.rtakeWhile isBlank) := by
        rw [List.rdropWhile_append_rtakeWhile]
      _ = text.takeWhile isBlank ++ trim text ++ solid.rtakeWhile isBlank :=
        (List.append_assoc ..).symm
  · exact fun _ member => List.mem_takeWhile_imp member
  · exact fun _ member => List.mem_rtakeWhile_imp member

end Text

/-! ### Reading -/

namespace Numeral

/-- The number that a digit is added to. -/
theorem ofDigitChars_digit (digit : Char) (rest : List Char) (value : Nat) :
    Nat.ofDigitChars 10 (digit :: rest) value =
      Nat.ofDigitChars 10 rest (value * 10 + (digit.toNat - 48)) := by
  rw [Nat.ofDigitChars_cons, Nat.mul_comm]
  rfl

/-- More digits never make a number smaller. -/
theorem le_ofDigitChars (digits : List Char) (value : Nat) :
    value ≤ Nat.ofDigitChars 10 digits value := by
  induction digits generalizing value with
  | nil => exact Nat.le_refl value
  | cons digit rest inductionHypothesis =>
    rw [ofDigitChars_digit]
    have longer := inductionHypothesis (value * 10 + (digit.toNat - 48))
    omega

/-- Digits are read one after the other exactly if they all are digits and the number that they end
with is not over the limit. -/
theorem extend_eq_ok {limit value number : Nat} {digits : List Char} (fits : value ≤ limit) :
    extend limit value digits = .ok number ↔
      (∀ character ∈ digits, character.isDigit = true) ∧
        Nat.ofDigitChars 10 digits value = number ∧ number ≤ limit := by
  induction digits generalizing value with
  | nil =>
    simp only [extend, Nat.ofDigitChars_nil, Except.ok.injEq]
    constructor
    · rintro rfl
      exact ⟨nofun, rfl, fits⟩
    · exact fun known => known.2.1
  | cons digit rest inductionHypothesis =>
    rw [ofDigitChars_digit, List.forall_mem_cons]
    by_cases isDigit : digit.isDigit = true
    · simp only [extend, digit?, isDigit, if_true, true_and]
      split
      · rename_i small
        exact inductionHypothesis small
      · rename_i large
        -- The digits behind an overflow cannot bring the number down again.
        refine iff_of_false nofun ?_
        rintro ⟨_, rfl, small⟩
        exact large ((le_ofDigitChars rest _).trans small)
    · simp [extend, digit?, isDigit]

/-- A text is read exactly if it denotes a number that is not over the limit. -/
theorem read_eq_ok {limit number : Nat} {text : List Char} :
    read limit text = .ok number ↔ Denotes text number ∧ number ≤ limit := by
  unfold read
  split
  · refine iff_of_false nofun ?_
    rintro ⟨⟨digits, rfl | impossible, nonempty, _⟩, _⟩
    · exact nonempty rfl
    · cases impossible
  · refine iff_of_false nofun ?_
    rintro ⟨⟨digits, rfl | signed, nonempty, isDigit, _⟩, _⟩
    · exact absurd (isDigit '+' List.mem_cons_self) (by decide)
    · exact nonempty (List.cons.inj signed).2.symm
  · rename_i digits several
    rw [extend_eq_ok (Nat.zero_le limit)]
    constructor
    · rintro ⟨isDigit, value, small⟩
      exact ⟨⟨digits, .inr rfl, fun empty => several (empty ▸ rfl), isDigit, value⟩, small⟩
    · rintro ⟨⟨others, rfl | signed, _, isDigit, value⟩, small⟩
      · exact absurd (isDigit '+' List.mem_cons_self) (by decide)
      · exact (List.cons.inj signed).2 ▸ ⟨isDigit, value, small⟩
  · rename_i nonempty _ unsigned
    rw [extend_eq_ok (Nat.zero_le limit)]
    constructor
    · rintro ⟨isDigit, value, small⟩
      exact ⟨⟨text, .inl rfl, nonempty, isDigit, value⟩, small⟩
    · rintro ⟨⟨digits, rfl | rfl, _, isDigit, value⟩, small⟩
      · exact ⟨isDigit, value, small⟩
      · exact absurd rfl (unsigned digits)

/-- The characters of a number are no blanks, and there are some. -/
theorem Denotes.solid {text : List Char} {value : Nat} (denotes : Denotes text value) :
    text ≠ [] ∧ ∀ character ∈ text, Text.isBlank character = false := by
  obtain ⟨digits, rfl | rfl, nonempty, isDigit, _⟩ := denotes
  · exact ⟨nonempty, fun character member => Text.isBlank_of_isDigit (isDigit character member)⟩
  · refine ⟨List.cons_ne_nil _ _, List.forall_mem_cons.2 ⟨by decide, fun character member => ?_⟩⟩
    exact Text.isBlank_of_isDigit (isDigit character member)

/-- A number does not begin with a minus sign. -/
theorem Denotes.head?_ne {text : List Char} {value : Nat} (denotes : Denotes text value) :
    text.head? ≠ some '-' := by
  obtain ⟨digits, rfl | rfl, nonempty, isDigit, _⟩ := denotes
  · intro hyphen
    exact absurd (isDigit '-' (List.mem_of_mem_head? hyphen)) (by decide)
  · simp

/-- With blanks around it a number does not begin with a minus sign either. -/
theorem Decimal.head?_ne {text : List Char} {value : Nat} (decimal : Decimal text value) :
    text.head? ≠ some '-' := by
  obtain ⟨before, number, after, rfl, blank, _, denotes⟩ := decimal
  intro hyphen
  rw [List.append_assoc, List.head?_append] at hyphen
  by_cases nothing : before = []
  · subst nothing
    rw [List.head?_nil, Option.none_or, List.head?_append_of_ne_nil _ denotes.solid.1] at hyphen
    exact denotes.head?_ne hyphen
  · obtain ⟨first, rest, rfl⟩ := List.exists_cons_of_ne_nil nothing
    rw [List.head?_cons, Option.some_or, Option.some_inj] at hyphen
    exact absurd (blank first List.mem_cons_self) (hyphen ▸ by decide)

/-- A text is a decimal number if what is left of it without its blanks denotes one. -/
theorem decimal_iff {text : List Char} {value : Nat} :
    Decimal text value ↔ Denotes (Text.trim text) value := by
  constructor
  · rintro ⟨before, number, after, rfl, blankBefore, blankAfter, denotes⟩
    rw [Text.trim_append denotes.solid.1 denotes.solid.2 blankBefore blankAfter]
    exact denotes
  · intro denotes
    obtain ⟨before, after, split, blankBefore, blankAfter⟩ := Text.exists_trim text
    exact ⟨before, _, after, split, blankBefore, blankAfter, denotes⟩

theorem readPositive_eq_ok {limit : Nat} {text : List Char}
    {number : { value : Nat // 0 < value }} :
    readPositive limit text = .ok number ↔ Decimal text number.val ∧ number.val ≤ limit := by
  rw [decimal_iff, ← read_eq_ok]
  unfold readPositive
  cases read limit (Text.trim text) with
  | error trouble => exact iff_of_false nofun nofun
  | ok value =>
    change (if positive : 0 < value then .ok ⟨value, positive⟩ else .error Trouble.zero) =
      Except.ok number ↔ Except.ok value = Except.ok number.val
    split
    · rw [Except.ok.injEq, Except.ok.injEq, Subtype.ext_iff]
    · rename_i zero
      refine iff_of_false nofun ?_
      rintro ⟨⟩
      exact zero number.property

theorem isDigit_toDigits (value : Nat) :
    ∀ character ∈ Nat.toDigits 10 value, character.isDigit = true :=
  fun _ member => Nat.isDigit_of_mem_toDigits (by decide) (by decide) member

/-- The usual digits of a number denote it. -/
theorem denotes_toString (value : Nat) : Denotes (toString value).toList value := by
  refine ⟨Nat.toDigits 10 value, Or.inl ?_, Nat.toDigits_ne_nil, isDigit_toDigits value,
    Nat.ofDigitChars_ten_toDigits⟩
  rw [Nat.toString_eq_repr, Nat.toList_repr]

theorem toDigits_eq_cons (value : Nat) :
    ∃ digit digits, Nat.toDigits 10 value = digit :: digits ∧ digit.isDigit = true := by
  obtain ⟨digit, digits, spelled⟩ := List.exists_cons_of_ne_nil (@Nat.toDigits_ne_nil value 10)
  exact ⟨digit, digits, spelled, isDigit_toDigits value digit (spelled ▸ List.mem_cons_self)⟩

/-- The usual digits of a number do not begin with a zero, unless it is zero. -/
theorem head?_toDigits {value : Nat} (positive : 0 < value) :
    (Nat.toDigits 10 value).head? ≠ some '0' := by
  induction value using Nat.strongRecOn with
  | ind value inductionHypothesis =>
    by_cases small : value < 10
    · rw [Nat.toDigits_of_lt_base small, List.head?_cons]
      interval_cases value <;> decide
    · rw [Nat.toDigits_of_base_le (by decide) (Nat.not_lt.1 small),
        List.head?_append_of_ne_nil _ Nat.toDigits_ne_nil]
      exact inductionHypothesis (value / 10) (by omega) (by omega)

end Numeral

end SerialFeed
