import UiScaffold.Descriptor.TypeReader
import UiScaffold.Form.Basic
import UiScaffold.Text.Ascii

/-!
From instructions to forms.

Options are transparent: they make a control optional and change nothing else. The choices of an
enumeration are looked up through references to defined types, of which a limited number is
followed.
-/

set_option autoImplicit false
set_option relaxedAutoImplicit false

namespace UiScaffold

def Widget.ofType : DataType → Widget
  | .publicKey => address
  | .bool => toggle
  | .integer bits _ => if bits ≤ 32 then number else bigInt
  | .float _ => number
  | .option inner => Widget.ofType inner
  | .list _ => list
  | .bytes => list
  | .enum _ => select
  | .defined _ => select
  | .string => text
  | .struct _ => text
  | .tuple _ => text
  | .unknown _ => text

def TypeDefinition.find? (types : List TypeDefinition) (name : String) : Option TypeDefinition :=
  List.find? (fun definition => definition.name == name) types

/-- The variants of the enumeration that a type is or refers to, over fewer than `hops`
references. -/
def choicesWithin (types : List TypeDefinition) : Nat → DataType → List String
  | 0, _ => []
  | _ + 1, .enum variants => variants
  -- Options around the body of a definition are dropped, as they are around the type itself.
  | hops + 1, .defined name =>
    match TypeDefinition.find? types name with
    | some definition => choicesWithin types hops definition.type.unwrap
    | none => []
  | _ + 1, _ => []

/-- The choices for a value of a type; a cycle of references has none. -/
def choicesOf (types : List TypeDefinition) (type : DataType) : List String :=
  choicesWithin types maxTypeDepth type.unwrap

namespace Control

mutual

def childrenOf (types : List TypeDefinition) : DataType → List Control
  | .option inner => childrenOf types inner
  | .struct fields => ofArguments types fields
  | .tuple items => ofItems types 0 items
  | _ => []

def ofArguments (types : List TypeDefinition) : List Argument → List Control
  | [] => []
  | .mk name docs optional type :: rest =>
    .mk name (Widget.ofType type) (!(optional || type.isOption)) docs (childrenOf types type)
      (choicesOf types type) :: ofArguments types rest

/-- The controls of the items of a tuple, named by their positions. -/
def ofItems (types : List TypeDefinition) (index : Nat) : List DataType → List Control
  | [] => []
  | type :: rest =>
    .mk index.repr (Widget.ofType type) (!type.isOption) [] (childrenOf types type)
      (choicesOf types type) :: ofItems types (index + 1) rest

end

end Control

/-- The argument that only concerns the encoding and is never shown. -/
def discriminator : String := "discriminator"

namespace Form

def ofInstruction (types : List TypeDefinition) (instruction : Instruction) : Form where
  name := instruction.name
  docs := instruction.docs
  controls := Control.ofArguments types
    (instruction.arguments.filter fun argument => !Text.sameFolded argument.name discriminator)
  accounts := instruction.accounts

end Form

def Program.forms (program : Program) : List Form :=
  program.instructions.map (Form.ofInstruction program.types)

end UiScaffold
