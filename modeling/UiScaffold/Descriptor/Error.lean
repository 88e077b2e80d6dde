import UiScaffold.Descriptor.TypeReader
import UiScaffold.FailureKind
import UiScaffold.FileSystem.OsError
import UiScaffold.FileSystem.Path
import UiScaffold.Json.Fault

/-!
Why a descriptor is refused.
-/

set_option autoImplicit false
set_option relaxedAutoImplicit false

namespace UiScaffold

/-- What is wrong with an instruction. -/
inductive InstructionFault where
  | notAnObject
  | unnamed
  | repeated (name : String)
deriving DecidableEq, Repr

def InstructionFault.message : InstructionFault → String
  | notAnObject => "expected an object"
  | unnamed => "missing or empty `name`"
  | repeated name => "duplicate name `" ++ name ++ "`"

/-- The reasons to refuse a descriptor. -/
inductive DescriptorError where
  | unreadable (path : Path) (cause : OsError)
  | malformed (error : Json.ReadError)
  | notAnObject
  | missingInstructions
  | instructionsNotAList
  | invalidInstruction (index : Nat) (fault : InstructionFault)
  | typeTooDeep (context : String)
deriving DecidableEq, Repr

namespace DescriptorError

def message : DescriptorError → String
  | unreadable path cause => "IO error at " ++ path.text ++ ": " ++ cause.message
  | malformed error => "Descriptor is not valid JSON: " ++ error.message
  | notAnObject => "Descriptor root must be a JSON object"
  | missingInstructions => "Invalid IDL: missing instructions array"
  | instructionsNotAList => "Invalid IDL: `instructions` must be an array"
  | invalidInstruction index fault =>
    "Invalid instruction at index " ++ index.repr ++ ": " ++ fault.message
  | typeTooDeep context =>
    "Type of `" ++ context ++ "` is nested deeper than " ++ maxTypeDepth.repr ++ " levels"

/-- Every refused descriptor is an invalid one. -/
def kind : DescriptorError → FailureKind
  | _ => .invalidDescriptor

end DescriptorError

end UiScaffold
