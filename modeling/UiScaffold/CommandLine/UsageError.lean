import UiScaffold.CommandLine.Switch
import UiScaffold.Console
import UiScaffold.Text.Similarity

/-!
Why a command line is refused.

The wording has codes for a terminal. A switch or a value that resembles an unknown one is proposed.
-/

set_option autoImplicit false
set_option relaxedAutoImplicit false

namespace UiScaffold

/-- What a hint shows beside the name of the program. -/
inductive UsageHint where
  /-- That there are switches. -/
  | any
  /-- Some switches. -/
  | switches (used : List Switch)
  /-- Some switches, and the choice among all that say what to do. -/
  | choice (used : List Switch)
deriving DecidableEq, Repr

/-- The reasons to refuse a command line. -/
inductive UsageError where
  /-- An argument that is no switch; `meant` is one that resembles it. -/
  | unexpected (argument : String) (meant : Option Switch) (hint : UsageHint)
  | missingValue (switch : Switch)
  | invalidValue (switch : Switch) (value : String)
  /-- A value behind a switch that takes none. -/
  | excessValue (switch : Switch) (value : String) (hint : UsageHint)
  | repeated (switch : Switch)
  /-- No descriptor is given; `used` are the switches that are. -/
  | missingDescriptor (used : List Switch)
deriving DecidableEq, Repr

namespace Console

/-- What is to be typed as it stands. -/
def literal (text : String) : String := rendered [1] text

def heading (text : String) : String := rendered [1, 4] text

def wrong (text : String) : String := rendered [33] text

def right (text : String) : String := rendered [32] text

end Console

namespace UsageHint

def ofSwitches (used : List Switch) : UsageHint := if used = [] then any else switches used

def typed (switch : Switch) : String := Console.literal ("--" ++ switch.name) ++ switch.suffix

def line (hint : UsageHint) : String :=
  " ".intercalate <| [Console.heading "Usage:", Console.literal "castui"] ++
    match hint with
    | any => ["[OPTIONS]"]
    | switches used => used.map typed
    | choice used =>
      (used.filter fun switch => !Switch.ofWork.contains switch).map typed ++
        ["<" ++ "|".intercalate (Switch.ofWork.map Switch.shown) ++ ">"]

end UsageHint

namespace UsageError

/-- The values that a switch accepts, on a line of their own. -/
def choicesLine (switch : Switch) : String :=
  match switch.choices with
  | [] => ""
  | choices => "\n  [possible values: " ++ ", ".intercalate (choices.map Console.right) ++ "]"

def proposal (kind : String) (meant : Option String) : List String :=
  match meant with
  | some text =>
    ["  " ++ Console.right "tip:" ++ " a similar " ++ kind ++ " exists: '" ++ Console.right text ++
      "'"]
  | none => []

def paragraphs : UsageError → List String
  | unexpected argument meant hint =>
    ["unexpected argument '" ++ Console.wrong argument ++ "' found"] ++
      proposal "argument" (meant.map fun switch => "--" ++ switch.name) ++ [hint.line]
  | missingValue switch =>
    ["a value is required for '" ++ Console.wrong switch.shown ++ "' but none was supplied" ++
      choicesLine switch]
  | invalidValue switch value =>
    ["invalid value '" ++ Console.wrong value ++ "' for '" ++ Console.literal switch.shown ++ "'" ++
      choicesLine switch] ++ proposal "value" (Text.meant? value switch.choices)
  | excessValue switch value hint =>
    ["unexpected value '" ++ Console.wrong value ++ "' for '" ++ Console.literal switch.shown ++
      "' found; no more were expected", hint.line]
  | repeated switch =>
    ["the argument '" ++ Console.wrong switch.shown ++ "' cannot be used multiple times",
      UsageHint.any.line]
  | missingDescriptor used =>
    ["the following required arguments were not provided:\n  " ++
        Console.right Switch.descriptor.shown,
      (UsageHint.switches (used ++ [.descriptor])).line]

def message (error : UsageError) : String :=
  Console.rendered [1, 31] "error:" ++ " " ++ "\n\n".intercalate (error.paragraphs ++
    ["For more information, try '" ++ Console.literal "--help" ++ "'.\n"])

end UsageError

end UiScaffold
