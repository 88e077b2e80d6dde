import UiScaffold.Form.Document
import UiScaffold.Network
import UiScaffold.Render.Error
import UiScaffold.Text.Title

/-!
What the pages are made of: the values for the templates and the names of the page files.

Every value is a complete JSON value, so that it can stand where a script expects an expression.
-/

set_option autoImplicit false
set_option relaxedAutoImplicit false

namespace UiScaffold

namespace Context

/-- The values that the app shell and all pages share. -/
def ofProgram (programId programName : String) (network : Network) : Context :=
  let context : Context := []
  (((context.assign "programId" (Json.quote programId)).assign
    "programName" (Json.quote programName)).assign
    "network" (Json.quote network.name)).assign
    "rpcEndpoint" (Json.quote network.endpoint)

/-- The values of the page of a form, on top of the shared ones. -/
def withForm (context : Context) (form : Form) : Context :=
  ((context.assign "instructionName" (Json.quote form.name)).assign
    "instructionTitle" (Json.quote (Text.title form.name))).assign
    "instruction" form.write

end Context

namespace Page

def extension : String := "tsx"

/-- Whether a name would leave the directory of the pages, or name no file in it. -/
def isUnusable (name : String) : Bool :=
  name == "" || name == "." || name == ".." ||
    name.toList.any fun c => c == '/' || c == '\\' || c == '\x00'

def fileName (name : String) : String := name ++ "." ++ extension

/-- The files of the pages of several forms, none of which may repeat one of the names before. -/
def fileNamesAfter (seen : List String) : List Form → Except RenderError (List String)
  | [] => .ok []
  | form :: rest =>
    if form.name ∈ seen then .error (.repeatedName form.name)
    else if isUnusable form.name then .error (.unusableName form.name)
    else (fileNamesAfter (form.name :: seen) rest).map (fileName form.name :: ·)

/-- The files of the pages of several forms, in order. -/
def fileNames (forms : List Form) : Except RenderError (List String) := fileNamesAfter [] forms

end Page

end UiScaffold
