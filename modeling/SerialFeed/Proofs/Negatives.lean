/-
This file shows that a negative number reaches the error report. A text that begins with a hyphen is
taken for letters of flags, but not where the speed or the block size comes next and digits follow
the hyphen: there it is the value that was meant. As a number it is refused for its sign, which is
the first character and no digit, however many digits come behind it. So the program says in one
line which number is wrong, before it looks at anything else.
-/

import SerialFeed.Proofs.Placement
import SerialFeed.Proofs.Refusals
import SerialFeed.Proofs.Stages

namespace SerialFeed

/-! ### The number -/

/-- Digits behind a minus sign are no number of any size. -/
theorem Numeral.readPositive_negative {digits : List Char} (only : DigitsOnly digits)
    (limit : Nat) : readPositive limit ('-' :: digits) = .error .invalidDigit := by
  have solid : ∀ character ∈ '-' :: digits, Text.isBlank character = false :=
    List.forall_mem_cons.2
      ⟨by decide, fun character member => Text.isBlank_of_isDigit (only character member)⟩
  have noBlanks : ∀ character ∈ ([] : List Char), Text.isBlank character = true := nofun
  have trimmed : Text.trim ('-' :: digits) = '-' :: digits := by
    have kept := Text.trim_append (List.cons_ne_nil '-' digits) solid noBlanks noBlanks
    rwa [List.nil_append, List.append_nil] at kept
  rw [readPositive_eq_error, trimmed]
  -- The sign itself is the character that strays, in front of all digits.
  exact ⟨List.cons_ne_nil _ _,
    .inr ⟨[], '-', digits, rfl, nofun, rfl, Nat.zero_le limit⟩⟩

namespace ForwardConfig

variable {digits : List Char} (only : Numeral.DigitsOnly digits)
include only

theorem readNumber_negative (name : NumberName) (limit : Nat) :
    readNumber name limit (String.ofList ('-' :: digits)) =
      .error (.invalidNumber name (String.ofList ('-' :: digits)) (.unreadable .invalidDigit)) := by
  refine readNumber_refused.2 ⟨.invalidDigit, ?_, rfl⟩
  rw [String.toList_ofList]
  exact Numeral.readPositive_negative only limit

/-- A negative speed is to blame whatever the block size is. -/
theorem ofTexts_negative_baud (port block : String) :
    ofTexts port (String.ofList ('-' :: digits)) block =
      .error (.invalidNumber .baudRate (String.ofList ('-' :: digits))
        (.unreadable .invalidDigit)) :=
  ofTexts_of_baud (readNumber_negative only .baudRate maxBaud)

theorem ofTexts_negative_block (port : String) {baud : String} {speed : Nat}
    (within : Numeral.Within maxBaud baud speed) :
    ofTexts port baud (String.ofList ('-' :: digits)) =
      .error (.invalidNumber .blockSize (String.ofList ('-' :: digits))
        (.unreadable .invalidDigit)) := by
  have read : readNumber .baudRate maxBaud baud = .ok ⟨speed, within.positive⟩ :=
    readNumber_eq_ok.2 within
  exact ofTexts_of_block read
    (readBlockSize_refused.2 (.inl (readNumber_negative only .blockSize maxReadable)))

end ForwardConfig

namespace CommandLine

/-! ### The value -/

theorem looksNumeric_of_digitsOnly {digits : List Char} (only : Numeral.DigitsOnly digits) :
    looksNumeric digits = true := by
  have scanned : ∀ passed, looksNumeric.scan passed false false digits = true := by
    induction digits with
    | nil => exact fun _ => rfl
    | cons digit rest inductionHypothesis =>
      obtain ⟨isDigit, others⟩ := Numeral.digitsOnly_cons.1 only
      intro passed
      rw [looksNumeric.scan, if_pos isDigit]
      exact inductionHypothesis others (passed + 1)
  exact scanned 0

/-- A negative number is admitted where numbers are asked for. -/
theorem Positional.admits_negative {position : Positional}
    (isNumber : position.takesNegative = true) {digits : List Char} (nonempty : digits ≠ [])
    (only : Numeral.DigitsOnly digits) : position.Admits (String.ofList ('-' :: digits)) :=
  .inr ⟨isNumber, digits, nonempty, String.toList_ofList, looksNumeric_of_digitsOnly only⟩

/-! ### The report -/

/-- Whether a run does nothing but report, in one line, that a number has an invalid digit. -/
structure Outcome.RefusesDigit (outcome : Outcome) (input : Source) (name number : String) :
    Prop where
  printed : outcome.conclusion.printed =
    "An error occurred: invalid " ++ name ++ " '" ++ number ++ "': invalid digit found in string\n"
  oneLine : outcome.conclusion.printed.toList.count '\n' = 1
  exitCode : outcome.conclusion.exitCode = 0
  source : outcome.source = input
  history : outcome.history = []

/-- The message and the text around it make one line. -/
theorem Conclusion.printed_invalidDigit (name : NumberName) (number : String) :
    Conclusion.printed
        (.failed (.forward (.invalidNumber name number (.unreadable .invalidDigit)))) =
      "An error occurred: invalid " ++ name.text ++ " '" ++ number ++
        "': invalid digit found in string\n" := by
  let failure : Failure := .forward (.invalidNumber name number (.unreadable .invalidDigit))
  have printed : Conclusion.printed (.failed failure) =
      "An error occurred: " ++ failure.line ++ "\n" := rfl
  have line : failure.line =
      "invalid " ++ name.text ++ " '" ++ number ++ "': " ++ "invalid digit found in string" := rfl
  rw [printed, line]
  simp only [← String.toList_inj, String.toList_append, List.append_assoc]
  simp

theorem Outcome.refusesDigit (name : NumberName) {digits : List Char}
    (only : Numeral.DigitsOnly digits) (input : Source) :
    let number := String.ofList ('-' :: digits)
    Outcome.RefusesDigit
      ⟨.failed (.forward (.invalidNumber name number (.unreadable .invalidDigit))), input, []⟩
      input name.text number := by
  intro number
  have printed := Conclusion.printed_invalidDigit name number
  refine ⟨printed, ?_, rfl, rfl, rfl⟩
  have inNumber : number.toList.count '\n' = 0 := by
    rw [String.toList_ofList, List.count_eq_zero, List.mem_cons]
    rintro (impossible | member)
    · exact absurd impossible (by decide)
    · exact absurd (only _ member) (by decide)
  have inName : name.text.toList.count '\n' = 0 := by
    cases name <;> decide
  rw [printed]
  simp only [String.toList_append, List.count_append, inNumber, inName]
  decide

/-- A run whose numbers are refused reports that, and nothing else happens. -/
theorem run_of_refused {texts : List String} {arguments : Arguments} {port baud block : String}
    {error : ForwardError} (understood : Arguments.ofTexts texts = .ok arguments)
    (plain : arguments.list = false) (given : arguments.positional? = some (port, baud, block))
    (refused : ForwardConfig.ofTexts port baud block = .error error)
    (environment : Option Verbosity) (host : Host) (ports : List PortInfo) (input : Source) :
    run environment host ports input texts = ⟨.failed (.forward error), input, []⟩ := by
  unfold run
  rw [understood]
  simp only [plain, Bool.false_eq_true, if_false]
  exact forward_of_wrong _ input given refused

/-- Where a number has an invalid digit, its text is understood as the positional value that it is,
and that is all that a run reports. -/
theorem refusesDigit_of_interleaves {pieces : List Piece} {port baud block : String}
    {name : NumberName} {digits : List Char} (only : Numeral.DigitsOnly digits)
    (interleaved : Interleaves pieces [port, baud, block])
    (admissible : Admissible [port, baud, block])
    (refused : ForwardConfig.ofTexts port baud block =
      .error (.invalidNumber name (String.ofList ('-' :: digits)) (.unreadable .invalidDigit))) :
    Arguments.ofTexts (pieces.flatMap Piece.texts) = .ok (argumentsOf pieces) ∧
      (argumentsOf pieces).positional? = some (port, baud, block) ∧
      ∀ environment host ports input,
        (run environment host ports input (pieces.flatMap Piece.texts)).RefusesDigit input name.text
          (String.ofList ('-' :: digits)) := by
  have understood := ofTexts_of_interleaves interleaved admissible
  refine ⟨understood, interleaved.positional?, fun environment host ports input => ?_⟩
  rw [run_of_refused understood rfl interleaved.positional? refused]
  exact Outcome.refusesDigit name only input

/-- A negative number reaches the error report. Take a port that does not begin with a hyphen, a
hyphen with any digits behind it, and options anywhere among the positional values. The number may
stand for the speed, with any text that can stand for a block size behind it, or for the block size,
behind any speed that is accepted. In both cases the texts are understood, and the number is the
positional value and no cluster of flags. Then every run, on every machine and with every input,
prints one line that names the number and repeats its text, exits with code 0, and does nothing
else: it looks for no settings, asks for no port, logs nothing and reads nothing of the input. -/
theorem negatives_reported {digits : List Char} (nonempty : digits ≠ [])
    (only : ∀ character ∈ digits, character.isDigit = true) {port : String} (word : IsWord port) :
    let number := String.ofList ('-' :: digits)
    (∀ block pieces, Positional.blockSize.Admits block →
      Interleaves pieces [port, number, block] →
      Arguments.ofTexts (pieces.flatMap Piece.texts) = .ok (argumentsOf pieces) ∧
        (argumentsOf pieces).positional? = some (port, number, block) ∧
        ∀ environment host ports input,
          (run environment host ports input (pieces.flatMap Piece.texts)).RefusesDigit input
            "baud rate" number) ∧
    ∀ baud speed pieces, Numeral.Within (2 ^ 32 - 1) baud speed →
      Interleaves pieces [port, baud, number] →
      Arguments.ofTexts (pieces.flatMap Piece.texts) = .ok (argumentsOf pieces) ∧
        (argumentsOf pieces).positional? = some (port, baud, number) ∧
        ∀ environment host ports input,
          (run environment host ports input (pieces.flatMap Piece.texts)).RefusesDigit input
            "block size" number := by
  intro number
  refine ⟨fun block pieces admits interleaved => ?_, fun baud speed pieces within interleaved => ?_⟩
  · have admissible : Admissible [port, number, block] :=
      admissible_of_admits (.inl word) (Positional.admits_negative rfl nonempty only) admits
    exact refusesDigit_of_interleaves only interleaved admissible
      (ForwardConfig.ofTexts_negative_baud only port block)
  · -- A speed that is accepted begins with a blank, a plus sign or a digit.
    have baudWord : IsWord baud := .of_head?_ne within.decimal.head?_ne
    have admissible : Admissible [port, baud, number] :=
      admissible_of_admits (.inl word) (.inl baudWord)
        (Positional.admits_negative rfl nonempty only)
    exact refusesDigit_of_interleaves only interleaved admissible
      (ForwardConfig.ofTexts_negative_block only port within)

/-- A speed and a block size that are both negative, with options around them, of which the speed is
reported; and a negative block size behind a speed with blanks around it. -/
theorem negatives_reported_bareMachine :
    let input : Source := { pending := [97, 98, 99] }
    let both := run none bareMachine [] input
      ["-v", "ttyUSB0", "--config", "none.json", "-9600", "--settle-ms=5", "-1.5e3"]
    let second := run none bareMachine [] input ["ttyUSB0", " 9600\n", "-01", "--verbose"]
    both.conclusion.printed =
        "An error occurred: invalid baud rate '-9600': invalid digit found in string\n" ∧
      both.source = input ∧ both.history = [] ∧
      second.conclusion.printed =
        "An error occurred: invalid block size '-01': invalid digit found in string\n" ∧
      second.conclusion.exitCode = 0 := by
  intro input both second
  let pieces : List Piece :=
    [.letters 0, .value "ttyUSB0", .config .apart "none.json", .value "-9600",
      .settle .joined "5" 5, .value "-1.5e3"]
  let others : List Piece := [.value "ttyUSB0", .value " 9600\n", .value "-01", .verbose]
  have five : Numeral.Denotes "5".toList 5 :=
    ⟨"5".toList, .inl rfl, by decide, List.all_eq_true.1 rfl, by decide⟩
  have interleaved : Interleaves pieces ["ttyUSB0", "-9600", "-1.5e3"] := by
    refine ⟨?_, rfl, Nat.le_refl 1, Nat.le_refl 1⟩
    simp only [pieces, List.forall_mem_cons]
    exact ⟨trivial, trivial, ⟨by decide, fun _ => by decide⟩, trivial, five, trivial, nofun⟩
  have interleavedOthers : Interleaves others ["ttyUSB0", " 9600\n", "-01"] := by
    refine ⟨?_, rfl, Nat.zero_le 1, Nat.zero_le 1⟩
    simp only [others, List.forall_mem_cons]
    exact ⟨trivial, trivial, trivial, trivial, nofun⟩
  have admits : Positional.blockSize.Admits "-1.5e3" := by decide
  have read : ForwardConfig.readNumber .baudRate ForwardConfig.maxBaud " 9600\n" =
      .ok ⟨9600, by decide⟩ := rfl
  have word : IsWord "ttyUSB0" := by decide
  obtain ⟨_, _, reports⟩ :=
    (negatives_reported (by decide : "9600".toList ≠ []) (List.all_eq_true.1 rfl) word).1 "-1.5e3"
      pieces admits interleaved
  obtain ⟨_, _, reportsSecond⟩ :=
    (negatives_reported (by decide : "01".toList ≠ []) (List.all_eq_true.1 rfl) word).2 " 9600\n"
      9600 others (ForwardConfig.readNumber_eq_ok.1 read) interleavedOthers
  have here := reports none bareMachine [] input
  have there := reportsSecond none bareMachine [] input
  exact ⟨here.printed, here.source, here.history, there.printed, there.exitCode⟩

end CommandLine

end SerialFeed
