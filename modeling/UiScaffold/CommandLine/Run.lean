import UiScaffold.CommandLine.Arguments
import UiScaffold.Console
import UiScaffold.Generate
import UiScaffold.Install.Run
import UiScaffold.Journal.Filter
import UiScaffold.Journal.Line

/-!
What a command line does and says.

The exit status is 0 if all went well, 1 if nothing could be listed or generated, and 2 if only the
installation failed; a command line that is not understood has the status 2, too.
-/

set_option autoImplicit false
set_option relaxedAutoImplicit false

namespace UiScaffold

/-- What a run says, and its exit status. -/
structure Report where
  status : Nat
  output : String
  errors : String
deriving DecidableEq, Repr

/-- What a run finds around it. -/
structure Surroundings where
  environment : List (String × String)
  /-- The directory of the executable. -/
  home : Option Path
  now : Instant
  launch : Launcher

namespace CommandLine

/-- The directory of the templates unless one is chosen: beside the executable or in the shared
files beside its directory, if there is one, and else in the working directory. -/
def defaultTemplates (fs : FileSystem) (home : Option Path) : Path :=
  let near : List Path := match home with
    | some home => [home.append ["templates"], home.append ["..", "share", "castui", "templates"]]
    | none => []
  (near.find? fs.isDirectory).getD (.ofText "templates")

def list (fs : FileSystem) (root : Path) : Report :=
  match TemplateSet.available fs root with
  | [] => ⟨1, "", "No templates found in " ++ root.text ++ "\n"⟩
  | names => ⟨0, String.join (names.map (· ++ "\n")), ""⟩

def labelled (label text : String) : String := "  " ++ label ++ Console.green text ++ "\n"

def banner (invocation : Invocation) : String :=
  Console.bold (Console.cyan "CastUI - IDL to UI generator") ++ "\n" ++
    labelled "IDL file:  " invocation.descriptor.text ++
    labelled "Output:    " invocation.output.text ++
    labelled "Template:  " invocation.template ++
    labelled "Network:   " invocation.network.name

def success (outcome : GenerateOutcome) : String :=
  Console.bold (Console.green "Generated") ++ " " ++ outcome.summary.pages.length.repr ++
    " instruction page(s) for `" ++ outcome.programName ++ "`\n"

def generateFailure (error : GenerateError) : String :=
  Console.bold (Console.red "Error generating UI:") ++ " " ++ error.message ++ "\n" ++
    if error.kind = .templateNotFound then
      "Run `castui --list-templates` to see the available template sets.\n"
    else ""

def installFailure (output : Path) (error : InstallError) : String :=
  Console.bold (Console.red "Dependency install failed:") ++ " " ++ error.message ++ "\n" ++
    "Generated files were kept. See " ++ (Install.logPath output).text ++ " for details.\n"

/-- A command that the user may enter next. -/
def step (command : String) : String := "  " ++ Console.cyan command ++ "\n"

def nextSteps (invocation : Invocation) : String :=
  "\nNext steps:\n" ++ step ("cd " ++ invocation.output.text) ++
    (if invocation.skipInstall then step (invocation.manager ++ " install") else "") ++
    step (invocation.manager ++ " run dev")

def options (invocation : Invocation) (root : Path) : GenerateOptions where
  descriptor := invocation.descriptor
  output := invocation.output
  template := invocation.template
  network := invocation.network
  programId := invocation.programId
  templates := root

/-- Installs what a generated UI needs, unless that is to be left out. -/
def installFor (launch : Launcher) (invocation : Invocation) : Work InstallError Unit :=
  if invocation.skipInstall then pure ()
  else install launch invocation.output invocation.manager

/-- Generates and installs; reports without the events. -/
def generateAndInstall (surroundings : Surroundings) (invocation : Invocation) (root : Path)
    (workspace : Workspace) : Report × Workspace :=
  match generate surroundings.now (options invocation root) workspace with
  | .error error workspace => (⟨1, banner invocation, generateFailure error⟩, workspace)
  | .ok outcome workspace =>
    let said := banner invocation ++ success outcome
    match installFor surroundings.launch invocation workspace with
    | .error error workspace => (⟨2, said, installFailure invocation.output error⟩, workspace)
    | .ok () workspace => (⟨0, said ++ nextSteps invocation, ""⟩, workspace)

def hasColors (environment : List (String × String)) : Bool :=
  (environment.lookup "NO_COLOR").getD "" = ""

def logLines (environment : List (String × String)) (verbosity : Nat) (journal : List Event) :
    String :=
  let filter := Filter.choose (environment.lookup "RUST_LOG") verbosity
  String.join ((journal.filter filter.shows).map (Event.line (hasColors environment)))

/-- A text about the command line, with codes where they are wanted. -/
def shown (environment : List (String × String)) (text : String) : String :=
  if Console.isForced environment then text else Console.stripped text

def answer (surroundings : Surroundings) (request : Request) (fs : FileSystem) :
    Report × FileSystem :=
  match request with
  | .help full =>
    let environment := surroundings.environment
    (⟨0, shown environment (Help.text full environment), ""⟩, fs)
  | .version => (⟨0, "castui " ++ version ++ "\n", ""⟩, fs)
  | .work task templates verbosity =>
    let root := templates.getD (defaultTemplates fs surroundings.home)
    match task with
    | .listTemplates => (list fs root, fs)
    | .generate invocation =>
      let (report, workspace) := generateAndInstall surroundings invocation root ⟨fs, []⟩
      let log := logLines surroundings.environment verbosity workspace.journal
      ({ report with errors := log ++ report.errors }, workspace.files)

def run (surroundings : Surroundings) (arguments : List String) (fs : FileSystem) :
    Report × FileSystem :=
  match Request.read arguments surroundings.environment with
  | .ok request => answer surroundings request fs
  | .error error => (⟨2, "", shown surroundings.environment error.message⟩, fs)

end CommandLine

end UiScaffold
