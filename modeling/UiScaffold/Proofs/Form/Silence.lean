import Mathlib.Tactic.Common
import UiScaffold.Form.Lowering

/-!
What controls do not show of a type.

An unknown type carries a description, which may be made of the whole value that was read. Controls
are made without looking at it: neither the widget, nor the flag, the parts or the choices depend on
it, also where they are found through the types that the program defines.
-/

set_option autoImplicit false
set_option relaxedAutoImplicit false

namespace UiScaffold

namespace DataType

mutual

def silence : DataType → DataType
  | .option inner => .option inner.silence
  | .list item => .list item.silence
  | .struct fields => .struct (silenceFields fields)
  | .tuple items => .tuple (silenceItems items)
  | .unknown _ => .unknown ""
  | other => other

def silenceFields : List Argument → List Argument
  | [] => []
  | .mk name docs optional type :: rest =>
    .mk name docs optional type.silence :: silenceFields rest

def silenceItems : List DataType → List DataType
  | [] => []
  | type :: rest => type.silence :: silenceItems rest

end

end DataType

def Argument.silence : Argument → Argument
  | .mk name docs optional type => .mk name docs optional type.silence

def TypeDefinition.silence (definition : TypeDefinition) : TypeDefinition :=
  { definition with type := definition.type.silence }

theorem DataType.silenceFields_eq_map (fields : List Argument) :
    silenceFields fields = fields.map Argument.silence := by
  induction fields with
  | nil => rfl
  | cons field rest ih =>
    obtain ⟨name, docs, optional, type⟩ := field
    rw [silenceFields, ih, List.map_cons]
    rfl

theorem DataType.silenceItems_eq_map (items : List DataType) :
    silenceItems items = items.map silence := by
  induction items with
  | nil => rfl
  | cons type rest ih => rw [silenceItems, ih, List.map_cons]

section

open DataType (silence silenceFields silenceItems)

private theorem Widget.ofType_silence :
    (type : DataType) → Widget.ofType type.silence = Widget.ofType type
  | .option inner => ofType_silence inner
  | .integer _ _ | .float _ | .bool | .string | .publicKey | .bytes | .list _ | .struct _ | .tuple _
  | .enum _ | .defined _ | .unknown _ => rfl

private theorem DataType.isOption_silence (type : DataType) :
    type.silence.isOption = type.isOption := by
  cases type <;> rfl

private theorem DataType.unwrap_silence :
    (type : DataType) → type.silence.unwrap = type.unwrap.silence
  | .option inner => unwrap_silence inner
  | .integer _ _ | .float _ | .bool | .string | .publicKey | .bytes | .list _ | .struct _ | .tuple _
  | .enum _ | .defined _ | .unknown _ => rfl

variable (types : List TypeDefinition)

private theorem TypeDefinition.find?_silence (name : String) :
    find? (types.map silence) name = (find? types name).map silence := by
  rw [find?, List.find?_map]
  rfl

private theorem choicesWithin_silence (hops : Nat) (type : DataType) :
    choicesWithin (types.map TypeDefinition.silence) hops type.silence =
      choicesWithin types hops type := by
  induction hops generalizing type with
  | zero => rfl
  | succ hops ih =>
    cases type with
    | defined name =>
      change choicesWithin (types.map TypeDefinition.silence) (hops + 1) (.defined name) = _
      rw [choicesWithin, choicesWithin, TypeDefinition.find?_silence]
      cases TypeDefinition.find? types name with
      | none => rfl
      | some definition =>
        simp only [Option.map_some, TypeDefinition.silence, DataType.unwrap_silence, ih]
    | integer _ _ | float _ | bool | string | publicKey | bytes | option _ | list _ | struct _
    | tuple _ | enum _ | unknown _ => rfl

private theorem choicesOf_silence (type : DataType) :
    choicesOf (types.map TypeDefinition.silence) type.silence = choicesOf types type := by
  rw [choicesOf, choicesOf, DataType.unwrap_silence, choicesWithin_silence]

namespace Control

mutual

private theorem childrenOf_silence : (type : DataType) →
    childrenOf (types.map TypeDefinition.silence) type.silence = childrenOf types type
  | .option inner => childrenOf_silence inner
  | .struct fields => ofArguments_silence fields
  | .tuple items => ofItems_silence 0 items
  | .integer _ _ | .float _ | .bool | .string | .publicKey | .bytes | .list _ | .enum _
  | .defined _ | .unknown _ => rfl

private theorem ofArguments_silence : (arguments : List Argument) →
    ofArguments (types.map TypeDefinition.silence) (silenceFields arguments) =
      ofArguments types arguments
  | [] => rfl
  | .mk name docs optional type :: rest => by
    rw [silenceFields, ofArguments, ofArguments, Widget.ofType_silence, DataType.isOption_silence,
      childrenOf_silence type, choicesOf_silence, ofArguments_silence rest]

private theorem ofItems_silence (index : Nat) : (items : List DataType) →
    ofItems (types.map TypeDefinition.silence) index (silenceItems items) =
      ofItems types index items
  | [] => rfl
  | type :: rest => by
    rw [silenceItems, ofItems, ofItems, Widget.ofType_silence, DataType.isOption_silence,
      childrenOf_silence type, choicesOf_silence, ofItems_silence (index + 1) rest]

end

/-- Arguments and types that differ in descriptions only have the same controls. -/
theorem ofArguments_eq_of_silence {types types' : List TypeDefinition}
    {arguments arguments' : List Argument}
    (same_types : types.map TypeDefinition.silence = types'.map TypeDefinition.silence)
    (same : arguments.map Argument.silence = arguments'.map Argument.silence) :
    ofArguments types arguments = ofArguments types' arguments' := by
  rw [← ofArguments_silence types, ← ofArguments_silence types', same_types,
    DataType.silenceFields_eq_map, DataType.silenceFields_eq_map, same]

end Control

end

end UiScaffold
