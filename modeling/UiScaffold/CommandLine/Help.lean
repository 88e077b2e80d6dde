import UiScaffold.CommandLine.UsageError
import UiScaffold.Text.Blank

/-!
The texts that help with the command line, with codes for a terminal.
-/

set_option autoImplicit false
set_option relaxedAutoImplicit false

namespace UiScaffold

namespace Switch

def summary : Switch → String
  | descriptor => "Path to the IDL JSON file"
  | output => "Output directory. Existing files at generated paths are overwritten"
  | template => "Template set to render with"
  | network => "Cluster the generated UI connects to"
  | programId => "Program id to embed. Defaults to the address declared in the IDL"
  | templates => "Directory containing the template sets"
  | skipInstall => "Skip installing dependencies in the generated project"
  | manager => "Package manager used for the install step"
  | listTemplates => "Print the available template sets and exit"
  | verbose => "Increase log verbosity (repeatable)"
  | help => "Print help (see more with '--help')"
  | version => "Print version"

/-- What the help at full length says instead. -/
def description : Switch → String
  | templates =>
    "Directory containing the template sets.\n\n" ++
      "Defaults to `templates/` next to the executable, " ++
      "then `../share/castui/templates`, then `./templates`."
  | help => "Print help (see a summary with '-h')"
  | other => other.summary

def default? : Switch → Option String
  | output => some "./anchor-ui"
  | template => some "shadcn"
  | network => some Network.devnet.name
  | manager => some "yarn"
  | _ => none

def environmentName? : Switch → Option String
  | templates => some "CASTUI_TEMPLATES_DIR"
  | _ => none

end Switch

namespace Help

def notes (environment : List (String × String)) (switch : Switch) : List String :=
  (match switch.environmentName? with
    | some name => ["[env: " ++ name ++ "=" ++ (environment.lookup name).getD "" ++ "]"]
    | none => []) ++
  (match switch.default? with
    | some value => ["[default: " ++ value ++ "]"]
    | none => []) ++
  (match switch.choices with
    | [] => []
    | choices => ["[possible values: " ++ ", ".intercalate choices ++ "]"])

/-- A switch with its letter and its name, as they are typed. -/
def title (switch : Switch) : String :=
  (match switch.letter? with
    | some letter => "  " ++ Console.literal (String.ofList ['-', letter]) ++ ", "
    | none => "      ") ++ UsageHint.typed switch

def indented (text : String) : String :=
  let indent := "          "
  indent ++ ("\n" ++ indent).intercalate (Text.split '\n' text)

def entry (full : Bool) (environment : List (String × String)) (switch : Switch) : String :=
  let body :=
    if full then
      match notes environment switch with
      | [] => switch.description
      | notes => switch.description ++ "\n\n" ++ "\n".intercalate notes
    else " ".intercalate (switch.summary :: notes environment switch)
  title switch ++ "\n" ++ indented body ++ "\n"

def text (full : Bool) (environment : List (String × String)) : String :=
  "Generate a UI scaffold from an Anchor or Codama program IDL\n\n" ++ UsageHint.any.line ++
    "\n\n" ++ Console.heading "Options:" ++ "\n" ++
    (if full then "\n" else "").intercalate (Switch.all.map (entry full environment))

end Help

end UiScaffold
