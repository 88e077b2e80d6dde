import UiScaffold.Descriptor.Outline

/-!
Reading a type of bounded depth.

Every step into an inner type takes one of the levels; a transparent wrapper takes one too. A type
that needs more levels is refused, with the names of the fields on the way to the place.
-/

set_option autoImplicit false
set_option relaxedAutoImplicit false

namespace UiScaffold

/-- How many steps into inner types are allowed. -/
def maxTypeDepth : Nat := 32

/-- A type that is nested too deep, and where. -/
structure TooDeep where
  context : String
deriving DecidableEq, Repr

namespace DataType

def readFields (read : String → Json → Except TooDeep DataType) (context : String)
    (fields : List Json) : Except TooDeep (List Argument) :=
  fields.zipIdx.mapM fun (value, index) => do
    let field := FieldOutline.ofJson index value
    let type ← read (field.context context) field.type
    return .mk field.name field.docs field.optional type

/-- Reads a type with at most the given number of layers. -/
def readAt : Nat → String → Json → Except TooDeep DataType
  | 0, context, _ => .error ⟨context⟩
  | levels + 1, context, value =>
    match Outline.ofJson value with
    | .leaf type => .ok type
    -- The layer counts although nothing of it is left in the type.
    | .transparent inner => readAt levels context inner
    | .option inner => DataType.option <$> readAt levels context inner
    | .list item => DataType.list <$> readAt levels context item
    | .struct fields => DataType.struct <$> readFields (readAt levels) context fields
    | .tuple items => DataType.tuple <$> items.mapM (readAt levels context)

/-- Reads a type. `context` names the place and is used in errors only. -/
def read (context : String) (value : Json) : Except TooDeep DataType :=
  readAt (maxTypeDepth + 1) context value

end DataType

def Argument.readAll (context : String) (fields : List Json) : Except TooDeep (List Argument) :=
  DataType.readFields (DataType.readAt (maxTypeDepth + 1)) context fields

end UiScaffold
