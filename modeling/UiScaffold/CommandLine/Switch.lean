import UiScaffold.Network

/-!
The switches of the command line.
-/

set_option autoImplicit false
set_option relaxedAutoImplicit false

namespace UiScaffold

inductive Switch where
  | descriptor
  | output
  | template
  | network
  | programId
  | templates
  | skipInstall
  | manager
  | listTemplates
  | verbose
  | help
  | version
deriving DecidableEq, Repr

namespace Switch

def all : List Switch :=
  [descriptor, output, template, network, programId, templates, skipInstall, manager,
    listTemplates, verbose, help, version]

def name : Switch → String
  | descriptor => "idl"
  | output => "out"
  | template => "template"
  | network => "network"
  | programId => "program-id"
  | templates => "templates-dir"
  | skipInstall => "no-install"
  | manager => "package-manager"
  | listTemplates => "list-templates"
  | verbose => "verbose"
  | help => "help"
  | version => "version"

def letter? : Switch → Option Char
  | descriptor => some 'i'
  | output => some 'o'
  | verbose => some 'v'
  | help => some 'h'
  | version => some 'V'
  | _ => none

/-- What the value of a switch is called, if it takes one. -/
def valueName? : Switch → Option String
  | descriptor => some "IDL"
  | output => some "OUT"
  | template => some "TEMPLATE"
  | network => some "NETWORK"
  | programId => some "PROGRAM_ID"
  | templates => some "TEMPLATES_DIR"
  | manager => some "PACKAGE_MANAGER"
  | _ => none

def takesValue (switch : Switch) : Bool := switch.valueName?.isSome

def isRepeatable (switch : Switch) : Bool := switch == verbose

/-- Whether the value of a switch is a path, which cannot be empty. -/
def isPath (switch : Switch) : Bool :=
  switch == descriptor || switch == output || switch == templates

def ofName? (name : String) : Option Switch := all.find? (·.name == name)

def ofLetter? (letter : Char) : Option Switch := all.find? (·.letter? == some letter)

/-- What follows the name of a switch in messages. -/
def suffix (switch : Switch) : String :=
  match switch.valueName? with
  | some value => " <" ++ value ++ ">"
  | none => if switch.isRepeatable then "..." else ""

def shown (switch : Switch) : String := "--" ++ switch.name ++ switch.suffix

/-- The switches that say what to do, other than to show help or the version. -/
def ofWork : List Switch :=
  [descriptor, output, template, network, programId, templates, skipInstall, manager,
    listTemplates, verbose]

/-- The values that a switch accepts, if they are listed. -/
def choices : Switch → List String
  | network => Network.all.map Network.name
  | _ => []

end Switch

end UiScaffold
