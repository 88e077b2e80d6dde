import UiScaffold.Descriptor.Reader
import UiScaffold.Form.Lowering
import UiScaffold.Render.Run

/-!
From a descriptor in a file to a UI in a directory.
-/

set_option autoImplicit false
set_option relaxedAutoImplicit false

namespace UiScaffold

/-- Reads the program that a descriptor file describes. -/
def Program.load (fs : FileSystem) (path : Path) : Except DescriptorError Program :=
  match fs.readText path with
  | .ok text => Program.ofText text
  | .error cause => .error (.unreadable path cause)

structure GenerateOptions where
  descriptor : Path
  output : Path
  template : String
  network : Network
  /-- Takes the place of the address in the descriptor. -/
  programId : Option String
  /-- The directory of the template sets. -/
  templates : Path

inductive GenerateError where
  | descriptor (path : Path) (cause : DescriptorError)
  | render (cause : RenderError)
deriving DecidableEq, Repr

namespace GenerateError

def message : GenerateError → String
  | descriptor path cause => "Failed to parse descriptor " ++ path.text ++ ": " ++ cause.message
  | render cause => cause.message

def kind : GenerateError → FailureKind
  | descriptor _ cause => cause.kind
  | render cause => cause.kind

end GenerateError

structure GenerateOutcome where
  programName : String
  summary : RenderSummary
deriving DecidableEq, Repr

/-- The program id where neither the caller nor the descriptor has one. -/
def placeholderId : String := "YourProgramIdHere"

def RenderSource.ofProgram (program : Program) : RenderSource where
  programName := program.name
  programId := program.address.getD placeholderId
  forms := program.forms

def GenerateOptions.forRender (options : GenerateOptions) (now : Instant) : RenderOptions where
  root := options.templates
  template := options.template
  output := options.output
  network := options.network
  programId := options.programId
  descriptorPath := options.descriptor.text
  generatedAt := now

def generate (now : Instant) (options : GenerateOptions) : Work GenerateError GenerateOutcome := do
  let program ← Work.query fun fs =>
    (Program.load fs options.descriptor).mapError (.descriptor options.descriptor)
  let count := program.instructions.length
  Work.report (.parsedDescriptor program.name program.version count)
  Work.report (.mappedDescriptor program.name count)
  let source := RenderSource.ofProgram program
  let summary ← (render source (options.forRender now)).adaptExcept .render
  return { programName := program.name, summary }

end UiScaffold
