import UiScaffold.FailureKind
import UiScaffold.FileSystem.Walk
import UiScaffold.Template

/-!
Why rendering fails.
-/

set_option autoImplicit false
set_option relaxedAutoImplicit false

namespace UiScaffold

inductive RenderError where
  | templateNotFound (name : String) (root : Path) (available : List String)
  | missingTemplateFile (template : String) (file : Path)
  | unreadableTemplate (path : Path) (cause : OsError)
  | brokenTree (directory : Path) (cause : WalkError)
  | faultyTemplate (path : Path) (fault : Template.Fault)
  | directoryRefused (path : Path) (cause : OsError)
  | copyRefused (source target : Path) (cause : OsError)
  | writeRefused (path : Path) (cause : OsError)
  | unusableName (name : String)
  | repeatedName (name : String)
deriving DecidableEq, Repr

namespace RenderError

/-- Names with commas in between, or a remark that there are none. -/
def listing (names : List String) : String :=
  if names = [] then "(none)" else ", ".intercalate names

def message : RenderError → String
  | templateNotFound name root available =>
    "Template `" ++ name ++ "` not found in " ++ root.text ++ ". Available templates: " ++
      listing available
  | missingTemplateFile template file =>
    "Template set `" ++ template ++ "` is missing `" ++ file.text ++ "`"
  | unreadableTemplate path cause =>
    "Failed to read template " ++ path.text ++ ": " ++ cause.message
  | brokenTree directory cause =>
    "Failed to walk template directory " ++ directory.text ++ ": " ++ cause.message
  | faultyTemplate path fault =>
    "Invalid template " ++ path.text ++ " (line " ++ fault.line.repr ++ "): " ++
      fault.problem.message
  | directoryRefused path cause =>
    "Failed to create directory " ++ path.text ++ ": " ++ cause.message
  | copyRefused source target cause =>
    "Failed to copy " ++ source.text ++ " to " ++ target.text ++ ": " ++ cause.message
  | writeRefused path cause => "Failed to write " ++ path.text ++ ": " ++ cause.message
  | unusableName name => "Instruction name `" ++ name ++ "` cannot be used as a file name"
  | repeatedName name => "Instruction `" ++ name ++ "` is declared more than once"

def kind : RenderError → FailureKind
  | templateNotFound .. => .templateNotFound
  | missingTemplateFile .. => .templateNotFound
  | unreadableTemplate .. => .invalidTemplate
  | brokenTree .. => .invalidTemplate
  | faultyTemplate .. => .invalidTemplate
  | directoryRefused .. => .writeFailed
  | copyRefused .. => .writeFailed
  | writeRefused .. => .writeFailed
  | unusableName _ => .writeFailed
  | repeatedName _ => .writeFailed

end RenderError

end UiScaffold
