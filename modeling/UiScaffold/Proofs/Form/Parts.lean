import Mathlib.Tactic.Common
import UiScaffold.Form.Lowering

/-!
The tree of controls of an argument.

A node of the tree is found by an address: the position to take at each step down. The same address
finds a part of the argument, where a struct has its fields as parts, a tuple its items, and any
other type none. The node is the control of that part. So the argument alone tells which nodes there
are, and the types that the program defines have a say in the choices of references only.
-/

set_option autoImplicit false
set_option relaxedAutoImplicit false

namespace UiScaffold

theorem DataType.unwrap_ne_option : (type inner : DataType) → type.unwrap ≠ .option inner
  | .option nested, inner => unwrap_ne_option nested inner
  | .integer _ _, _ | .float _, _ | .bool, _ | .string, _ | .publicKey, _ | .bytes, _ | .list _, _
  | .struct _, _ | .tuple _, _ | .enum _, _ | .defined _, _ | .unknown _, _ => nofun

/-- The fields of a struct, or the items of a tuple, which are named by their positions. -/
def DataType.parts : DataType → List Argument
  | .struct fields => fields
  | .tuple items => items.zipIdx.map fun (item, index) => .mk index.repr [] false item
  | _ => []

namespace Argument

def parts (argument : Argument) : List Argument := argument.type.unwrap.parts

/-- The part of an argument at an address. -/
def at? (argument : Argument) : List Nat → Option Argument
  | [] => some argument
  | index :: address => argument.parts[index]?.bind (at? · address)

/-- Whether the type under the options is a struct or a tuple that is not empty. -/
def IsComposite (argument : Argument) : Prop :=
  (∃ field rest, argument.type.unwrap = .struct (field :: rest)) ∨
    ∃ item rest, argument.type.unwrap = .tuple (item :: rest)

end Argument

namespace Control

/-- The control of a single argument. -/
def ofArgument (types : List TypeDefinition) (argument : Argument) : Control :=
  .mk argument.name (Widget.ofType argument.type) (!(argument.optional || argument.type.isOption))
    argument.docs (childrenOf types argument.type) (choicesOf types argument.type)

/-- The node of a tree of controls at an address. -/
def at? (control : Control) : List Nat → Option Control
  | [] => some control
  | index :: address => control.children[index]?.bind (at? · address)

/-- What the type of a part says about the node that stands for it. -/
structure Mirrors (part : Argument) (control : Control) : Prop where
  name : control.name = part.name
  branches : control.children ≠ [] ↔ part.IsComposite
  ofStruct : ∀ fields, part.type.unwrap = .struct fields →
    control.children.map Control.name = fields.map Argument.name
  ofTuple : ∀ items, part.type.unwrap = .tuple items →
    control.children.map Control.name = (List.range items.length).map Nat.repr
  branch : control.children ≠ [] → control.widget = .text ∧ control.choices = []
  choice : control.choices ≠ [] → control.widget = .select ∧ control.children = []
  closed : (∃ item, part.type.unwrap = .list item) ∨ (∃ name, part.type.unwrap = .defined name) →
    control.children = []

/-- Nodes that stand for the same part and differ at most in the choices of a reference. -/
structure Alike (part : Argument) (control control' : Control) : Prop where
  name : control.name = control'.name
  widget : control.widget = control'.widget
  required : control.required = control'.required
  docs : control.docs = control'.docs
  children : control.children.length = control'.children.length
  choices : control.choices = control'.choices ∨ ∃ name, part.type.unwrap = .defined name

variable {types : List TypeDefinition}

theorem ofArguments_eq_map (arguments : List Argument) :
    ofArguments types arguments = arguments.map (ofArgument types) := by
  induction arguments with
  | nil => rfl
  | cons argument rest ih =>
    obtain ⟨name, docs, optional, type⟩ := argument
    rw [ofArguments, ih, List.map_cons]
    rfl

private theorem ofItems_eq_map (start : Nat) (items : List DataType) :
    ofItems types start items = (items.zipIdx start).map fun (item, index) =>
      ofArgument types (.mk index.repr [] false item) := by
  induction items generalizing start with
  | nil => rfl
  | cons item rest ih =>
    rw [ofItems, ih, List.zipIdx_cons, List.map_cons]
    rfl

private theorem childrenOf_unwrap :
    (type : DataType) → childrenOf types type = childrenOf types type.unwrap
  | .option inner => childrenOf_unwrap inner
  | .integer _ _ | .float _ | .bool | .string | .publicKey | .bytes | .list _ | .struct _ | .tuple _
  | .enum _ | .defined _ | .unknown _ => rfl

theorem ofType_unwrap : (type : DataType) → Widget.ofType type = Widget.ofType type.unwrap
  | .option inner => ofType_unwrap inner
  | .integer _ _ | .float _ | .bool | .string | .publicKey | .bytes | .list _ | .struct _ | .tuple _
  | .enum _ | .defined _ | .unknown _ => rfl

theorem childrenOf_eq (type : DataType) :
    childrenOf types type = type.unwrap.parts.map (ofArgument types) := by
  rw [childrenOf_unwrap]
  cases under : type.unwrap with
  | struct fields => exact ofArguments_eq_map fields
  | tuple items =>
    change ofItems types 0 items = _
    rw [ofItems_eq_map, DataType.parts, List.map_map]
    rfl
  | option inner => exact absurd under (type.unwrap_ne_option inner)
  | integer _ _ | float _ | bool | string | publicKey | bytes | list _ | enum _ | defined _
  | unknown _ => rfl

private theorem children_ofArgument (argument : Argument) :
    (ofArgument types argument).children = argument.parts.map (ofArgument types) :=
  childrenOf_eq argument.type

/-- The node at an address is the control of the part at that address. -/
theorem at?_ofArgument (argument : Argument) (address : List Nat) :
    (ofArgument types argument).at? address = (argument.at? address).map (ofArgument types) := by
  induction address generalizing argument with
  | nil => rfl
  | cons index address ih =>
    rw [at?, Argument.at?, children_ofArgument, List.getElem?_map]
    cases argument.parts[index]? with
    | none => rfl
    | some part => exact ih part

private theorem parts_ne_nil_iff (argument : Argument) :
    argument.parts ≠ [] ↔ argument.IsComposite := by
  unfold Argument.parts Argument.IsComposite
  cases argument.type.unwrap with
  | struct fields => cases fields <;> simp [DataType.parts]
  | tuple items => cases items <;> simp [DataType.parts]
  | integer _ _ | float _ | bool | string | publicKey | bytes | option _ | list _ | enum _
  | defined _ | unknown _ => simp [DataType.parts]

private theorem choices_ofArgument_ne_nil {argument : Argument}
    (h : (ofArgument types argument).choices ≠ []) :
    (∃ variants, argument.type.unwrap = .enum variants) ∨
      ∃ name, argument.type.unwrap = .defined name := by
  change choicesWithin types maxTypeDepth argument.type.unwrap ≠ [] at h
  cases under : argument.type.unwrap with
  | enum variants => exact .inl ⟨variants, rfl⟩
  | defined name => exact .inr ⟨name, rfl⟩
  | integer _ _ | float _ | bool | string | publicKey | bytes | option _ | list _ | struct _
  | tuple _ | unknown _ =>
    rw [under] at h
    exact absurd rfl h

private theorem mirrors_ofArgument (part : Argument) : (ofArgument types part).Mirrors part := by
  have branches : (ofArgument types part).children ≠ [] ↔ part.IsComposite := by
    rw [children_ofArgument, ← parts_ne_nil_iff]
    simp
  have widget : (ofArgument types part).widget = Widget.ofType part.type.unwrap :=
    ofType_unwrap part.type
  have no_choice : part.IsComposite → (ofArgument types part).choices = [] := by
    intro composite
    by_contra some_choice
    rcases composite with ⟨field, rest, under⟩ | ⟨item, rest, under⟩ <;>
      rcases choices_ofArgument_ne_nil some_choice with ⟨variants, other⟩ | ⟨name, other⟩ <;>
      simp [under] at other
  refine ⟨rfl, branches, ?_, ?_, ?_, ?_, ?_⟩
  · intro fields under
    rw [children_ofArgument, Argument.parts, under, List.map_map]
    rfl
  · intro items under
    rw [children_ofArgument, Argument.parts, under, List.range_eq_range', ← List.zipIdx_map_snd]
    simp only [DataType.parts, List.map_map]
    rfl
  · intro some_child
    have composite := branches.mp some_child
    refine ⟨?_, no_choice composite⟩
    rw [widget]
    rcases composite with ⟨field, rest, under⟩ | ⟨item, rest, under⟩ <;> rw [under] <;> rfl
  · intro some_choice
    constructor
    · rw [widget]
      rcases choices_ofArgument_ne_nil some_choice with ⟨variants, under⟩ | ⟨name, under⟩ <;>
        rw [under] <;> rfl
    · by_contra some_child
      exact some_choice (no_choice (branches.mp some_child))
  · intro closed
    by_contra some_child
    rcases branches.mp some_child with ⟨field, rest, under⟩ | ⟨item, rest, under⟩ <;>
      rcases closed with ⟨item, other⟩ | ⟨name, other⟩ <;> simp [under] at other

private theorem alike_ofArgument (types types' : List TypeDefinition) (part : Argument) :
    Alike part (ofArgument types part) (ofArgument types' part) := by
  refine ⟨rfl, rfl, rfl, rfl, ?_, ?_⟩
  · rw [children_ofArgument, children_ofArgument, List.length_map, List.length_map]
  · by_cases reference : ∃ name, part.type.unwrap = .defined name
    · exact .inr reference
    · left
      change choicesWithin types maxTypeDepth part.type.unwrap =
        choicesWithin types' maxTypeDepth part.type.unwrap
      cases under : part.type.unwrap with
      | defined name => exact absurd ⟨name, under⟩ reference
      | integer _ _ | float _ | bool | string | publicKey | bytes | option _ | list _ | struct _
      | tuple _ | enum _ | unknown _ => rfl

/-- Whatever types a program defines, with cycles, repeated or missing names: the nodes of the tree
of an argument stand at the addresses of the parts of its type, whose form they mirror, and only the
choices of a reference depend on the definitions. -/
theorem tree_mirrors_type (types types' : List TypeDefinition) (argument : Argument) :
    ∃ tree tree', ofArguments types [argument] = [tree] ∧ ofArguments types' [argument] = [tree'] ∧
      (∀ address,
        argument.at? address = none ∧ tree.at? address = none ∧ tree'.at? address = none ∨
          ∃ part control control', argument.at? address = some part ∧
            tree.at? address = some control ∧ tree'.at? address = some control' ∧
            control.Mirrors part ∧ control'.Mirrors part ∧ Alike part control control') ∧
      ∀ name docs optional address,
        ((ofArgument types' (.mk name docs optional argument.type)).at? address).isSome =
          (tree.at? address).isSome := by
  refine ⟨ofArgument types argument, ofArgument types' argument, ofArguments_eq_map [argument],
    ofArguments_eq_map [argument], ?_, ?_⟩
  · intro address
    rw [at?_ofArgument, at?_ofArgument]
    cases argument.at? address with
    | none => exact .inl ⟨rfl, rfl, rfl⟩
    | some part =>
      exact .inr ⟨part, _, _, rfl, rfl, rfl, mirrors_ofArgument part, mirrors_ofArgument part,
        alike_ofArgument types types' part⟩
  · intro name docs optional address
    rw [at?_ofArgument, at?_ofArgument, Option.isSome_map, Option.isSome_map]
    cases address with
    | nil => rfl
    | cons index address => rfl

end Control

end UiScaffold
