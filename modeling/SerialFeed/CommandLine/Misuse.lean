/-
This file holds what can be wrong with a command line, and the words for it. The text of a misuse
has up to four paragraphs: what is wrong, a tip, the usage and a hint at the help. Where it repeats
a text of the command line, it does so without control sequences.
-/

import SerialFeed.CommandLine.Argument
import SerialFeed.Numeral
import SerialFeed.Text.ControlSequence

namespace SerialFeed.CommandLine

/-- Advice on an argument that is not known. -/
inductive Tip where
  | none
  /-- An option of nearly this name exists. -/
  | similar (argument : Argument)
  /-- The argument can be given as a value behind two hyphens. -/
  | asValue
  deriving DecidableEq, Repr

/-- What is wrong with a command line. Where a usage line depends on it, `used` holds the arguments
that are used so far. -/
inductive Misuse where
  | missing (positionals : List Positional) (used : List Argument)
  | unknown (text : String) (tip : Tip) (used : List Argument)
  | conflict (argument : Argument) (others : List Argument) (used : List Argument)
  | repeated (argument : Argument)
  | unexpectedValue (value : String) (flag : Flag) (used : List Argument)
  | valueMissing (setting : Setting)
  | invalidValue (value : String) (setting : Setting) (trouble : Numeral.Trouble)
  deriving DecidableEq, Repr

namespace Misuse

/-- Some labels, each on a line of its own. -/
def indented (labels : List String) : String :=
  String.join (labels.map fun label => s!"\n  {label}")

/-- A text of the command line as a message repeats it. -/
def repeatedText (text : String) : String :=
  String.ofList (Text.shown text.toList)

/-- What is wrong. -/
def message : Misuse → String
  | missing positionals _ =>
    let labels := indented (positionals.map Positional.requiredLabel)
    s!"error: the following required arguments were not provided:{labels}"
  | unknown text _ _ => s!"error: unexpected argument '{repeatedText text}' found"
  | conflict argument [other] _ =>
    s!"error: the argument '{argument.label}' cannot be used with '{other.label}'"
  | conflict argument others _ =>
    let labels := indented (others.map Argument.label)
    s!"error: the argument '{argument.label}' cannot be used with:{labels}"
  | repeated argument => s!"error: the argument '{argument.label}' cannot be used multiple times"
  | unexpectedValue value flag _ =>
    let value := repeatedText value
    s!"error: unexpected value '{value}' for '{flag.label}' found; no more were expected"
  | valueMissing setting =>
    s!"error: a value is required for '{setting.label}' but none was supplied"
  | invalidValue value setting trouble =>
    let value := repeatedText value
    s!"error: invalid value '{value}' for '{setting.label}': {trouble.message}"

/-- The advice that is given, if there is any. -/
def advice? : Misuse → Option String
  | unknown _ (.similar argument) _ =>
    argument.longName?.map fun name => s!"  tip: a similar argument exists: '--{name}'"
  | unknown text .asValue _ =>
    let text := repeatedText text
    some s!"  tip: to pass '{text}' as a value, use '-- {text}'"
  | _ => none

/-- The usage line that is shown, if one is. -/
def usage? : Misuse → Option String
  | missing positionals used => some (usage (used ++ positionals.map .positional))
  | unknown _ _ used => some (usage used)
  | conflict _ _ used => some (usage used)
  | repeated _ => some (usage [])
  | unexpectedValue _ flag used => some (usageOfFlag flag used)
  | valueMissing _ => none
  | invalidValue .. => none

/-- The whole text. -/
def text (misuse : Misuse) : String :=
  String.intercalate "\n\n"
    ([misuse.message] ++ misuse.advice?.toList ++ misuse.usage?.toList ++
      ["For more information, try '--help'.\n"])

end Misuse

end SerialFeed.CommandLine
