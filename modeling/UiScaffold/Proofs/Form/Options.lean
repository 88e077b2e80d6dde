import UiScaffold.Proofs.Form.Parts

/-!
More options around types.

A type may be put under more options, as may every type inside it. The controls stay the same,
except that a control is not required when options were put around the type of its own part. More
options in the definitions of a program are not seen at all.
-/

set_option autoImplicit false
set_option relaxedAutoImplicit false

namespace UiScaffold

/-- How many options are put around the type at each address. -/
abbrev Layers := List Nat → Nat

/-- The layers at the addresses that start with a position, as seen from there. -/
def Layers.below (layers : Layers) (index : Nat) : Layers := fun address =>
  layers (index :: address)

namespace DataType

def layered : Nat → DataType → DataType
  | 0, type => type
  | count + 1, type => .option (layered count type)

mutual

/-- A type with more options around the types inside it, lists included, but none around itself. -/
def pad (layers : Layers) : DataType → DataType
  | .option inner => .option (pad layers inner)
  | .list item => .list (layered (layers [0]) (pad (layers.below 0) item))
  | .struct fields => .struct (padFields layers 0 fields)
  | .tuple items => .tuple (padItems layers 0 items)
  | other => other

def padFields (layers : Layers) (index : Nat) : List Argument → List Argument
  | [] => []
  | .mk name docs optional type :: rest =>
    .mk name docs optional (layered (layers [index]) (pad (layers.below index) type)) ::
      padFields layers (index + 1) rest

def padItems (layers : Layers) (index : Nat) : List DataType → List DataType
  | [] => []
  | type :: rest =>
    layered (layers [index]) (pad (layers.below index) type) :: padItems layers (index + 1) rest

end

/-- A type with more options around it and around the types inside it. -/
def wrap (layers : Layers) (type : DataType) : DataType := layered (layers []) (pad layers type)

end DataType

def Argument.wrap (layers : Layers) (argument : Argument) : Argument :=
  .mk argument.name argument.docs argument.optional (argument.type.wrap layers)

/-- Definitions whose types have more options, each with layers of its own. -/
def TypeDefinition.wrapAll (plan : Nat → Layers) (types : List TypeDefinition) :
    List TypeDefinition :=
  types.zipIdx.map fun (definition, index) =>
    { definition with type := definition.type.wrap (plan index) }

namespace Control

mutual

/-- A control that is not required at certain addresses. -/
def relax (freed : List Nat → Bool) : Control → Control
  | .mk name widget required docs children choices =>
    .mk name widget (required && !freed []) docs (relaxAll freed 0 children) choices

def relaxAll (freed : List Nat → Bool) (index : Nat) : List Control → List Control
  | [] => []
  | control :: rest =>
    relax (fun address => freed (index :: address)) control :: relaxAll freed (index + 1) rest

end

/-- Controls that differ at most in that the second is not required. -/
structure Frees (freed : Bool) (control control' : Control) : Prop where
  name : control'.name = control.name
  widget : control'.widget = control.widget
  docs : control'.docs = control.docs
  children : control'.children.length = control.children.length
  choices : control'.choices = control.choices
  required : control'.required = if freed then false else control.required

end Control

/-- The addresses at which options are put around a type. -/
def Layers.wrapped (layers : Layers) (address : List Nat) : Bool := 0 < layers address

namespace DataType

private theorem unwrap_layered (count : Nat) (type : DataType) :
    (layered count type).unwrap = type.unwrap := by
  induction count with
  | zero => rfl
  | succ count ih => exact ih

private theorem isOption_layered (count : Nat) (type : DataType) :
    (layered count type).isOption = (decide (0 < count) || type.isOption) := by
  cases count with
  | zero => rfl
  | succ count => simp [layered, isOption]

private theorem isOption_pad (layers : Layers) (type : DataType) :
    (pad layers type).isOption = type.isOption := by
  cases type <;> rfl

private theorem unwrap_pad (layers : Layers) : (type : DataType) →
    (pad layers type).unwrap = pad layers type.unwrap
  | .option inner => unwrap_pad layers inner
  | .integer _ _ | .float _ | .bool | .string | .publicKey | .bytes | .list _ | .struct _ | .tuple _
  | .enum _ | .defined _ | .unknown _ => rfl

private theorem unwrap_wrap (layers : Layers) (type : DataType) :
    (type.wrap layers).unwrap = pad layers type.unwrap := by
  rw [wrap, unwrap_layered, unwrap_pad]

private theorem isOption_wrap (layers : Layers) (type : DataType) :
    (type.wrap layers).isOption = (layers.wrapped [] || type.isOption) := by
  rw [wrap, isOption_layered, isOption_pad]
  rfl

end DataType

section

open DataType (layered pad padFields padItems)

private theorem Widget.ofType_pad (layers : Layers) (type : DataType) (plain : type.unwrap = type) :
    Widget.ofType (pad layers type) = Widget.ofType type := by
  cases type with
  | option inner => exact absurd plain (inner.unwrap_ne_option inner)
  | integer _ _ | float _ | bool | string | publicKey | bytes | list _ | struct _ | tuple _ | enum _
  | defined _ | unknown _ => rfl

private theorem DataType.unwrap_unwrap : (type : DataType) → type.unwrap.unwrap = type.unwrap
  | .option inner => unwrap_unwrap inner
  | .integer _ _ | .float _ | .bool | .string | .publicKey | .bytes | .list _ | .struct _ | .tuple _
  | .enum _ | .defined _ | .unknown _ => rfl

private theorem Widget.ofType_wrap (layers : Layers) (type : DataType) :
    Widget.ofType (type.wrap layers) = Widget.ofType type := by
  have under : Widget.ofType (pad layers type.unwrap) = Widget.ofType type.unwrap :=
    ofType_pad layers type.unwrap type.unwrap_unwrap
  rw [Control.ofType_unwrap, DataType.unwrap_wrap, under, ← Control.ofType_unwrap]

variable (plan : Nat → Layers) (types : List TypeDefinition)

private theorem TypeDefinition.find?_wrapAll (name : String) :
    ∃ found : Option (TypeDefinition × Nat),
      find? types name = found.map Prod.fst ∧
        find? (wrapAll plan types) name = found.map fun (definition, index) =>
          { definition with type := definition.type.wrap (plan index) } := by
  refine ⟨types.zipIdx.find? fun entry => entry.1.name == name, ?_, ?_⟩
  · have listed : types = types.zipIdx.map Prod.fst := (List.zipIdx_map_fst 0 types).symm
    conv => lhs; rw [listed]
    exact List.find?_map
  · exact List.find?_map

private theorem choicesWithin_pad (layers : Layers) (hops : Nat) (type : DataType) :
    choicesWithin types hops (pad layers type) = choicesWithin types hops type := by
  cases hops with
  | zero => rfl
  | succ hops => cases type <;> rfl

private theorem choicesOf_wrap (layers : Layers) (type : DataType) :
    choicesOf types (type.wrap layers) = choicesOf types type := by
  rw [choicesOf, choicesOf, DataType.unwrap_wrap, choicesWithin_pad]

private theorem choicesWithin_wrapAll (hops : Nat) (type : DataType) :
    choicesWithin (TypeDefinition.wrapAll plan types) hops type =
      choicesWithin types hops type := by
  induction hops generalizing type with
  | zero => rfl
  | succ hops ih =>
    cases type with
    | defined name =>
      obtain ⟨found, before, after⟩ := TypeDefinition.find?_wrapAll plan types name
      rw [choicesWithin, choicesWithin, before, after]
      cases found with
      | none => rfl
      | some entry =>
        show choicesWithin _ hops (entry.1.type.wrap (plan entry.2)).unwrap = _
        rw [DataType.unwrap_wrap, ih, choicesWithin_pad]
        rfl
    | integer _ _ | float _ | bool | string | publicKey | bytes | option _ | list _ | struct _
    | tuple _ | enum _ | unknown _ => rfl

end

namespace Control

section

variable {types types' : List TypeDefinition}

mutual

private theorem childrenOf_congr (same : choicesOf types = choicesOf types') : (type : DataType) →
    childrenOf types type = childrenOf types' type
  | .option inner => childrenOf_congr same inner
  | .struct fields => ofArguments_congr same fields
  | .tuple items => ofItems_congr same 0 items
  | .integer _ _ | .float _ | .bool | .string | .publicKey | .bytes | .list _ | .enum _
  | .defined _ | .unknown _ => rfl

private theorem ofArguments_congr (same : choicesOf types = choicesOf types') :
    (arguments : List Argument) → ofArguments types arguments = ofArguments types' arguments
  | [] => rfl
  | .mk name docs optional type :: rest => by
    rw [ofArguments, ofArguments, childrenOf_congr same type, same, ofArguments_congr same rest]

private theorem ofItems_congr (same : choicesOf types = choicesOf types') (index : Nat) :
    (items : List DataType) → ofItems types index items = ofItems types' index items
  | [] => rfl
  | type :: rest => by
    rw [ofItems, ofItems, childrenOf_congr same type, same, ofItems_congr same (index + 1) rest]

end

end

private theorem ofArguments_wrapAll (plan : Nat → Layers) (types : List TypeDefinition)
    (arguments : List Argument) :
    ofArguments (TypeDefinition.wrapAll plan types) arguments = ofArguments types arguments := by
  have same : choicesOf (TypeDefinition.wrapAll plan types) = choicesOf types := by
    funext type
    exact choicesWithin_wrapAll plan types maxTypeDepth type.unwrap
  exact ofArguments_congr same arguments

section

open DataType (layered pad padFields padItems)

variable (types : List TypeDefinition)

private theorem childrenOf_layered (count : Nat) (type : DataType) :
    childrenOf types (layered count type) = childrenOf types type := by
  induction count with
  | zero => rfl
  | succ count ih => exact ih

private theorem required_layered (layers : Layers) (optional : Bool) (type : DataType) :
    (!(optional || (type.wrap layers).isOption)) =
      (!(optional || type.isOption) && !layers.wrapped []) := by
  rw [DataType.isOption_wrap]
  cases optional <;> cases type.isOption <;> cases layers.wrapped [] <;> rfl

private theorem relax_of_children (layers : Layers) (name : String) (docs : List String)
    (optional : Bool) (type : DataType) (children : childrenOf types (pad layers type) =
      relaxAll layers.wrapped 0 (childrenOf types type)) :
    ofArgument types (.mk name docs optional (type.wrap layers)) =
      (ofArgument types (.mk name docs optional type)).relax layers.wrapped := by
  have widget := Widget.ofType_wrap layers type
  have required := required_layered layers optional type
  have choices := choicesOf_wrap types layers type
  have parts : childrenOf types (type.wrap layers) =
      relaxAll layers.wrapped 0 (childrenOf types type) := by
    rw [DataType.wrap, childrenOf_layered, children]
  show Control.mk name (Widget.ofType (type.wrap layers))
      (!(optional || (type.wrap layers).isOption))
    docs (childrenOf types (type.wrap layers)) (choicesOf types (type.wrap layers)) = _
  rw [widget, required, choices, parts]
  rfl

-- Options on the way down are stripped by the lowering itself, so that the induction is on the type
-- as it was, and the layers follow it down.
mutual

private theorem childrenOf_pad (layers : Layers) : (type : DataType) →
    childrenOf types (pad layers type) = relaxAll layers.wrapped 0 (childrenOf types type)
  | .option inner => childrenOf_pad layers inner
  | .struct fields => ofArguments_padFields layers 0 fields
  | .tuple items => ofItems_padItems layers 0 items
  | .integer _ _ | .float _ | .bool | .string | .publicKey | .bytes | .list _ | .enum _
  | .defined _ | .unknown _ => rfl

private theorem ofArguments_padFields (layers : Layers) (index : Nat) : (fields : List Argument) →
    ofArguments types (padFields layers index fields) =
      relaxAll layers.wrapped index (ofArguments types fields)
  | [] => rfl
  | .mk name docs optional type :: rest => by
    have first := relax_of_children types (layers.below index) name docs optional type
      (childrenOf_pad (layers.below index) type)
    have others := ofArguments_padFields layers (index + 1) rest
    show ofArgument types (.mk name docs optional (type.wrap (layers.below index))) ::
      ofArguments types (padFields layers (index + 1) rest) = _
    rw [first, others]
    rfl

private theorem ofItems_padItems (layers : Layers) (index : Nat) : (items : List DataType) →
    ofItems types index (padItems layers index items) =
      relaxAll layers.wrapped index (ofItems types index items)
  | [] => rfl
  | type :: rest => by
    have first := relax_of_children types (layers.below index) index.repr [] false type
      (childrenOf_pad (layers.below index) type)
    have others := ofItems_padItems layers (index + 1) rest
    show ofArgument types (.mk index.repr [] false (type.wrap (layers.below index))) ::
      ofItems types (index + 1) (padItems layers (index + 1) rest) = _
    rw [first, others]
    rfl

end

private theorem ofArgument_wrap (layers : Layers) (argument : Argument) :
    ofArgument types (argument.wrap layers) = (ofArgument types argument).relax layers.wrapped := by
  obtain ⟨name, docs, optional, type⟩ := argument
  exact relax_of_children types layers name docs optional type (childrenOf_pad types layers type)

end

private theorem getElem?_relaxAll (freed : List Nat → Bool) (start position : Nat)
    (controls : List Control) : (relaxAll freed start controls)[position]? =
      controls[position]?.map (relax fun address => freed ((start + position) :: address)) := by
  induction controls generalizing start position with
  | nil => rfl
  | cons control rest ih =>
    cases position with
    | zero => rfl
    | succ position =>
      have later : start + 1 + position = start + (position + 1) := by omega
      show (relaxAll freed (start + 1) rest)[position]? = rest[position]?.map _
      rw [ih, later]

private theorem length_relaxAll (freed : List Nat → Bool) (start : Nat) (controls : List Control) :
    (relaxAll freed start controls).length = controls.length := by
  induction controls generalizing start with
  | nil => rfl
  | cons control rest ih =>
    show (relaxAll freed (start + 1) rest).length + 1 = rest.length + 1
    rw [ih]

private theorem children_relax (freed : List Nat → Bool) (control : Control) :
    (control.relax freed).children = relaxAll freed 0 control.children := by
  cases control
  rfl

private theorem at?_relax (freed : List Nat → Bool) (control : Control) (address : List Nat) :
    (control.relax freed).at? address =
      (control.at? address).map (relax fun further => freed (address ++ further)) := by
  induction address generalizing freed control with
  | nil => rfl
  | cons index address ih =>
    rw [at?, at?, children_relax, getElem?_relaxAll, Nat.zero_add]
    cases control.children[index]? with
    | none => rfl
    | some child => exact ih (fun further => freed (index :: further)) child

private theorem frees_relax (freed : List Nat → Bool) (control : Control) :
    Frees (freed []) control (control.relax freed) := by
  obtain ⟨name, widget, required, docs, children, choices⟩ := control
  refine ⟨rfl, rfl, rfl, length_relaxAll freed 0 children, rfl, ?_⟩
  show (required && !freed []) = if freed [] then false else required
  cases freed [] <;> simp

/-- More options, around the type of an argument, the types inside it and the types that the program
defines: the tree of the argument has the same nodes, of which those are not required whose own type
was put under options. Options in the definitions alone change nothing. -/
theorem options_only_free_controls (types : List TypeDefinition) (argument : Argument)
    (layers : Layers) (plan : Nat → Layers) :
    ∃ tree tree', ofArguments types [argument] = [tree] ∧
      ofArguments (TypeDefinition.wrapAll plan types) [argument.wrap layers] = [tree'] ∧
      tree' = tree.relax layers.wrapped ∧
      (∀ address, tree.at? address = none ∧ tree'.at? address = none ∨
        ∃ control control', tree.at? address = some control ∧ tree'.at? address = some control' ∧
          Frees (layers.wrapped address) control control') ∧
      ∀ arguments,
        ofArguments (TypeDefinition.wrapAll plan types) arguments =
          ofArguments types arguments := by
  have same := ofArguments_wrapAll plan types
  have lowered : ofArguments (TypeDefinition.wrapAll plan types) [argument.wrap layers] =
      [(ofArgument types argument).relax layers.wrapped] := by
    rw [same, ofArguments_eq_map, List.map_singleton, ofArgument_wrap]
  refine ⟨_, _, ofArguments_eq_map [argument], lowered, rfl, ?_, same⟩
  intro address
  have node := at?_relax layers.wrapped (ofArgument types argument) address
  cases found : (ofArgument types argument).at? address with
  | none =>
    rw [found] at node
    exact .inl ⟨rfl, node⟩
  | some control =>
    rw [found] at node
    have freed := frees_relax (fun further => layers.wrapped (address ++ further)) control
    rw [List.append_nil] at freed
    exact .inr ⟨control, _, rfl, node, freed⟩

-- Two more options around a field free its own control, not that of the struct.
example :
    ofArguments [] [Argument.wrap (fun address => if address = [0] then 2 else 0)
      (.mk "limits" [] false (.struct [.mk "strict" [] false .bool]))] =
      [.mk "limits" .text true [] [.mk "strict" .toggle false [] [] []] []] := by
  rfl

end Control

end UiScaffold
