/-
This file puts command lines together from pieces: positional values, options with their values, and
flags for more output. What can stand for a positional value is told by its first characters alone,
and so is an option, however its value is joined to it. The arguments that some pieces stand for do
not depend on where the options are among them: each piece adds what it gives, and flags are only
counted.
-/

import SerialFeed.Proofs.Decimals
import SerialFeed.Proofs.Provision

namespace SerialFeed.CommandLine

/-! ### Texts that are values -/

/-- Whether a text does not begin with a hyphen, or is nothing but a hyphen. -/
def IsWord (text : String) : Prop :=
  text.toList.head? = some '-' → text = "-"

instance (text : String) : Decidable (IsWord text) :=
  inferInstanceAs (Decidable (_ → _))

theorem IsWord.of_head?_ne {text : String} (other : text.toList.head? ≠ some '-') : IsWord text :=
  fun hyphen => absurd hyphen other

theorem Shape.ofText_eq_word {text : String} :
    Shape.ofText text.toList = .word ↔ IsWord text := by
  constructor
  · intro word hyphen
    obtain ⟨rest, spelled⟩ := List.head?_eq_some_iff.1 hyphen
    rw [spelled] at word
    cases rest with
    | nil => exact String.toList_inj.1 spelled
    | cons first others =>
      unfold Shape.ofText at word
      split at word
      · cases word
      · split at word <;> cases word
      · cases word
      · rename_i other
        exact absurd rfl (other first others)
  · intro word
    by_cases hyphen : text.toList.head? = some '-'
    · rw [word hyphen]
      rfl
    · unfold Shape.ofText
      split <;> simp_all

/-- What looks like a number behind a hyphen is not a name. -/
theorem Shape.ofText_of_looksNumeric {letters : List Char} (numeric : looksNumeric letters = true)
    (nonempty : letters ≠ []) : Shape.ofText ('-' :: letters) = .short letters := by
  obtain ⟨first, rest, rfl⟩ := List.exists_cons_of_ne_nil nonempty
  have noHyphen : first ≠ '-' := by
    rintro rfl
    simp [looksNumeric, looksNumeric.scan] at numeric
  unfold Shape.ofText
  split <;> simp_all

theorem Shape.eq_of_ofText_short {text letters : List Char}
    (isShort : Shape.ofText text = .short letters) : text = '-' :: letters := by
  unfold Shape.ofText at isShort
  split at isShort
  · cases isShort
  · split at isShort <;> cases isShort
  · cases isShort
    rfl
  · cases isShort

/-- Whether a text can stand for a positional value as it is: it is a word, or looks like a negative
number where the value may do so. -/
def Positional.Admits (position : Positional) (text : String) : Prop :=
  IsWord text ∨ position.takesNegative = true ∧
    ∃ letters, letters ≠ [] ∧ text.toList = '-' :: letters ∧ looksNumeric letters = true

/-- What is admitted at a position is exactly what tells a value where that position comes next. -/
theorem Positional.admits_iff (position : Positional) {text : String} :
    position.Admits text ↔ told position.place false [text] = [.value text] := by
  have isNext : (position.place == 1 || position.place == 2) = position.takesNegative := by
    cases position <;> rfl
  constructor
  · rintro (word | ⟨isNumber, letters, nonempty, spelled, numeric⟩)
    · rw [told_of_word (Shape.ofText_eq_word.2 word)]
      rfl
    · have shape := Shape.ofText_of_looksNumeric numeric nonempty
      rw [← spelled] at shape
      rw [told_of_short shape, isNext, isNumber, numeric]
      rfl
  · intro isValue
    cases shape : Shape.ofText text.toList with
    | word => exact .inl (Shape.ofText_eq_word.1 shape)
    | escape =>
      rw [told_of_escape shape] at isValue
      cases isValue
    | long name value =>
      rw [told_of_long shape] at isValue
      split at isValue <;> cases isValue
    | short letters =>
      rw [told_of_short shape, isNext] at isValue
      split at isValue
      · rename_i negative
        rw [Bool.and_eq_true] at negative
        exact .inr ⟨negative.1, letters, Shape.ne_nil_of_ofText shape,
          Shape.eq_of_ofText_short shape, negative.2⟩
      · cases isValue

instance (position : Positional) (text : String) : Decidable (position.Admits text) :=
  decidable_of_iff _ position.admits_iff.symm

/-- Whether some texts can stand for the first positional values as they are. -/
structure Admissible (values : List String) : Prop where
  few : values.length ≤ Positional.all.length
  admits : ∀ (position : Positional) (text : String), values[position.place]? = some text →
    position.Admits text

theorem Admissible.of_append {values others : List String}
    (admissible : Admissible (values ++ others)) : Admissible values where
  few := by
    have few := admissible.few
    rw [List.length_append] at few
    omega
  admits position text given := by
    obtain ⟨inside, _⟩ := List.getElem?_eq_some_iff.1 given
    exact admissible.admits position text ((List.getElem?_append_left inside).trans given)

theorem admissible_of_admits {port baud block : String}
    (portAdmits : Positional.serialPort.Admits port) (baudAdmits : Positional.baudRate.Admits baud)
    (blockAdmits : Positional.blockSize.Admits block) : Admissible [port, baud, block] where
  few := Nat.le_refl 3
  admits position text given := by
    cases position with
    | serialPort => exact Option.some_inj.1 given ▸ portAdmits
    | baudRate => exact Option.some_inj.1 given ▸ baudAdmits
    | blockSize => exact Option.some_inj.1 given ▸ blockAdmits

/-! ### Names of options -/

theorem Argument.ofLongName?_setting (option : Setting) :
    ofLongName? option.longName = some (.setting option) := by
  cases option <;> decide

theorem Shape.ofText_setting (option : Setting) :
    Shape.ofText ("--" ++ option.longName).toList = .long option.longName.toList none := by
  cases option <;> decide

/-- The value behind the first equals sign may hold any characters. -/
theorem Shape.ofText_setting_joined (option : Setting) (value : String) :
    Shape.ofText ("--" ++ option.longName ++ "=" ++ value).toList =
      .long option.longName.toList (some value.toList) := by
  simp only [String.toList_append]
  cases option <;> rfl

/-! ### Pieces -/

/-- Where the value of an option stands: in a text of its own, or behind an equals sign. -/
inductive Joint where
  | apart
  | joined
  deriving DecidableEq

/-- The texts that give an option its value. -/
def Setting.spelled (option : Setting) (value : String) : Joint → List String
  | .apart => ["--" ++ option.longName, value]
  | .joined => ["--" ++ option.longName ++ "=" ++ value]

/-- Texts of a command line that belong together. -/
inductive Piece where
  | value (text : String)
  | config (joint : Joint) (path : String)
  /-- A settle delay, with the text that stands for it. -/
  | settle (joint : Joint) (text : String) (time : UInt64)
  | verbose
  /-- The letter of the verbose flag, once and so many times more. -/
  | letters (more : Nat)

namespace Piece

def texts : Piece → List String
  | value text => [text]
  | config joint path => Setting.config.spelled path joint
  | settle joint text _ => Setting.settle.spelled text joint
  | verbose => ["--verbose"]
  | letters more => [String.ofList ('-' :: List.replicate (more + 1) 'v')]

def value? : Piece → Option String
  | value text => some text
  | _ => none

def config? : Piece → Option String
  | config _ path => some path
  | _ => none

def settle? : Piece → Option UInt64
  | settle _ _ time => some time
  | _ => none

/-- How often a piece gives the verbose flag. -/
def louder : Piece → Nat
  | verbose => 1
  | letters more => more + 1
  | _ => 0

/-- Whether the value of an option is one, and can be told from an option where it stands in a text
of its own. -/
def WellFormed : Piece → Prop
  | config joint path => path ≠ "" ∧ (joint = .apart → IsWord path)
  | settle _ text time => Numeral.Denotes text.toList time.toNat
  | _ => True

end Piece

example : [Piece.letters 1, .value "ttyUSB0", .settle .joined "0250" 250, .verbose].flatMap
    Piece.texts = ["-vv", "ttyUSB0", "--settle-ms=0250", "--verbose"] := by decide

/-- Whether some pieces are these positional values in order, with options anywhere between them and
each option that has a value at most once. -/
structure Interleaves (pieces : List Piece) (values : List String) : Prop where
  wellFormed : ∀ piece ∈ pieces, piece.WellFormed
  values : pieces.filterMap Piece.value? = values
  config : (pieces.filterMap Piece.config?).length ≤ 1
  settle : (pieces.filterMap Piece.settle?).length ≤ 1

/-- The arguments that some pieces stand for, wherever the options are among them. -/
def argumentsOf (pieces : List Piece) : Arguments where
  serialPort := (pieces.filterMap Piece.value?)[0]?
  baudRate := (pieces.filterMap Piece.value?)[1]?
  blockSize := (pieces.filterMap Piece.value?)[2]?
  config := (pieces.filterMap Piece.config?).head?
  settle := (pieces.filterMap Piece.settle?).head?
  verbose := min (pieces.map Piece.louder).sum Arguments.maxVerbose

section

variable {before : List Piece} {Value : Type} {given? : Piece → Option Value} {piece : Piece}

/-- The last piece adds what it gives. -/
theorem filterMap_concat (given? : Piece → Option Value) (before : List Piece) (piece : Piece) :
    (before ++ [piece]).filterMap given? = before.filterMap given? ++ (given? piece).toList := by
  rw [List.filterMap_append, List.filterMap_cons]
  cases given? piece <;> rfl

theorem filterMap_concat_none (nothing : given? piece = none) :
    (before ++ [piece]).filterMap given? = before.filterMap given? := by
  rw [filterMap_concat, nothing, Option.toList_none, List.append_nil]

/-- What is given at most once was not given before. -/
theorem filterMap_eq_nil_of_once {value : Value} (given : given? piece = some value)
    (once : ((before ++ [piece]).filterMap given?).length ≤ 1) :
    before.filterMap given? = [] := by
  rw [filterMap_concat, given, List.length_append, Option.toList_some,
    List.length_singleton] at once
  exact List.length_eq_zero_iff.1 (by omega)

theorem argumentsOf_value {position : Positional} (text : String)
    (isNext : position.place = (before.filterMap Piece.value?).length) :
    argumentsOf (before ++ [.value text]) = (argumentsOf before).withPositional text position := by
  simp only [argumentsOf, filterMap_concat]
  generalize before.filterMap Piece.value? = values at isNext
  cases position with
  | serialPort =>
    obtain rfl := List.length_eq_zero_iff.1 isNext.symm
    simp [Arguments.withPositional, Piece.value?, Piece.config?, Piece.settle?, Piece.louder]
  | baudRate =>
    obtain ⟨first, rfl⟩ := List.length_eq_one_iff.1 isNext.symm
    simp [Arguments.withPositional, Piece.value?, Piece.config?, Piece.settle?, Piece.louder]
  | blockSize =>
    obtain ⟨first, second, rfl⟩ := List.length_eq_two.1 isNext.symm
    simp [Arguments.withPositional, Piece.value?, Piece.config?, Piece.settle?, Piece.louder]

theorem argumentsOf_config (joint : Joint) (path : String)
    (unseen : before.filterMap Piece.config? = []) :
    argumentsOf (before ++ [.config joint path]) =
      { argumentsOf before with config := some path } := by
  simp only [argumentsOf, filterMap_concat]
  simp [unseen, Piece.value?, Piece.config?, Piece.settle?, Piece.louder]

theorem argumentsOf_settle (joint : Joint) (text : String) (time : UInt64)
    (unseen : before.filterMap Piece.settle? = []) :
    argumentsOf (before ++ [.settle joint text time]) =
      { argumentsOf before with settle := some time } := by
  simp only [argumentsOf, filterMap_concat]
  simp [unseen, Piece.value?, Piece.config?, Piece.settle?, Piece.louder]

/-- To count on from the most that is counted is to stay there. -/
theorem min_add_min (count more limit : Nat) :
    min (min count limit + more) limit = min (count + more) limit := by
  omega

/-- A piece without a value is counted. -/
theorem argumentsOf_louder (noValue : piece.value? = none) (noConfig : piece.config? = none)
    (noSettle : piece.settle? = none) :
    argumentsOf (before ++ [piece]) =
      { argumentsOf before with
        verbose := min ((argumentsOf before).verbose + piece.louder) Arguments.maxVerbose } := by
  simp only [argumentsOf, filterMap_concat_none noValue, filterMap_concat_none noConfig,
    filterMap_concat_none noSettle, List.map_append, List.sum_append, min_add_min]
  simp

end

namespace Interleaves

/-- What stands in front of the last piece is interleaved too. -/
theorem front {before : List Piece} {piece : Piece} {values : List String}
    (interleaved : Interleaves (before ++ [piece]) values) :
    Interleaves before (before.filterMap Piece.value?) where
  wellFormed other member := interleaved.wellFormed other (List.mem_append_left _ member)
  values := rfl
  config := by
    have once := interleaved.config
    rw [filterMap_concat, List.length_append] at once
    omega
  settle := by
    have once := interleaved.settle
    rw [filterMap_concat, List.length_append] at once
    omega

/-- The positional values among the pieces are the ones that their arguments provide. -/
theorem positional? {pieces : List Piece} {port baud block : String}
    (interleaved : Interleaves pieces [port, baud, block]) :
    (argumentsOf pieces).positional? = some (port, baud, block) := by
  refine Arguments.positional?_of_some ?_ ?_ ?_ <;>
    simp [Arguments.valueAt?, argumentsOf, interleaved.values]

end Interleaves

end SerialFeed.CommandLine
