import UiScaffold.FailureKind
import UiScaffold.Install.Command
import UiScaffold.Render.Record
import UiScaffold.Text.Utf8
import UiScaffold.Workspace

/-!
Installing the dependencies of a generated UI.

A package manager installs them in the output directory. Where `yarn` is asked for and cannot be
found, `npm` is taken. A failure is kept in a log beside the record of the generation.
-/

set_option autoImplicit false
set_option relaxedAutoImplicit false

namespace UiScaffold

inductive InstallError where
  | notStarted (manager : String) (cause : OsError)
  | failed (manager : String) (ending : Ending) (output errors : String)
deriving DecidableEq, Repr

namespace InstallError

def message : InstallError → String
  | notStarted manager cause => "Failed to run `" ++ manager ++ "`: " ++ cause.message
  | failed manager ending _ _ =>
    "`" ++ manager ++ " install` failed with status " ++ ending.status.repr

/-- Every failure blames the installation. -/
def kind : InstallError → FailureKind
  | _ => .installFailed

/-- A section of the log, unless it has nothing to say. -/
def logSection (title text : String) : String :=
  if text = "" then "" else "\n--- " ++ title ++ " ---\n" ++ text ++ "\n"

/-- The log of a failure: the reason, and what the manager has written. -/
def log (error : InstallError) : String :=
  error.message ++ "\n" ++
    match error with
    | notStarted .. => ""
    | failed _ _ output errors => logSection "stdout" output ++ logSection "stderr" errors

end InstallError

namespace Install

/-- The manager that another one is taken for, and that other one. -/
def preferredManager : String := "yarn"
def fallbackManager : String := "npm"

def logPath (output : Path) : Path :=
  (output.child GenerationRecord.directoryName).child "install.log"

def start (launch : Launcher) (directory : Path) (manager : String) :
    Work OsError CommandResult :=
  Work.onFiles (launch ⟨manager, ["install"], directory⟩)

/-- What a manager has written, without white space around it. -/
def decoded (bytes : ByteArray) : String := Text.trim (Text.decodeLossy bytes)

def judge (manager : String) (result : CommandResult) : Except InstallError Unit :=
  if result.ending.isSuccess then .ok ()
  else .error (.failed manager result.ending (decoded result.output) (decoded result.errors))

/-- Lets a manager install, or the fallback if the manager is the preferred one and is missing. -/
def attempt (launch : Launcher) (directory : Path) (manager : String) : Work InstallError Unit :=
  fun workspace =>
    match start launch directory manager workspace with
    | .ok result workspace => Work.query (fun _ => judge manager result) workspace
    | .error cause workspace =>
      -- A manager that started and failed is not tried again under the other name.
      if cause = .notFound ∧ manager = preferredManager then
        (do
          Work.report .fellBack
          let result ← (start launch directory fallbackManager).adaptExcept
            (InstallError.notStarted fallbackManager)
          Work.query fun _ => judge fallbackManager result) workspace
      else .error (.notStarted manager cause) workspace

def writeLog (path : Path) (error : InstallError) : FileAction Unit := do
  match path.parent with
  | some parent => FileAction.makeDirectories parent
  | none => pure ()
  FileAction.writeText path error.log

/-- Keeps the log of a failure, or reports that it could not be kept. -/
def keepLog (path : Path) (error : InstallError) : Work InstallError Unit := fun workspace =>
  match Work.onFiles (writeLog path error) workspace with
  | .ok () workspace => Work.report (.recordedFailure path) workspace
  | .error cause workspace => Work.report (.failedToRecord path cause) workspace

end Install

def install (launch : Launcher) (directory : Path) (manager : String) : Work InstallError Unit :=
  fun workspace =>
    match (do
      Work.report (.installing manager directory)
      Install.attempt launch directory manager) workspace with
    | .ok () workspace => .ok () workspace
    | .error error workspace =>
      (do
        Install.keepLog (Install.logPath directory) error
        throw error) workspace

end UiScaffold
