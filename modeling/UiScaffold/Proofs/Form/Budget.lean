import UiScaffold.Proofs.Form.Parts

/-!
How many nested calls it takes to make the control of an argument.

Options are stripped one by one, a widget is found under them, and the parts of a composite type are
lowered in their turn. Each of these calls itself on an inner type only. So a type with nothing
below a level is done with as many nested calls as it has levels.
-/

set_option autoImplicit false
set_option relaxedAutoImplicit false

namespace UiScaffold

namespace DataType

def inner : DataType → List DataType
  | .option inner => [inner]
  | .list item => [item]
  | .struct fields => fields.map Argument.type
  | .tuple items => items
  | _ => []

/-- A node of a type, so many levels below its root. -/
inductive LiesAt : Nat → DataType → DataType → Prop
  | root {type : DataType} : LiesAt 0 type type
  | inside {level : Nat} {type part node : DataType} :
      part ∈ type.inner → LiesAt level part node → LiesAt (level + 1) type node

def Within (levels : Nat) (type : DataType) : Prop :=
  ∀ level node, LiesAt level type node → level ≤ levels

def unwrapWithin : Nat → DataType → Option DataType
  | 0, _ => none
  | calls + 1, .option inner => unwrapWithin calls inner
  | _ + 1, other => some other

end DataType

def Widget.within : Nat → DataType → Option Widget
  | 0, _ => none
  | calls + 1, .option inner => Widget.within calls inner
  | _ + 1, type => some (Widget.ofType type)

/-- The control of an argument, with so many nested calls for itself and on the way to its parts. -/
def Control.within (types : List TypeDefinition) : Nat → Argument → Option Control
  | 0, _ => none
  | calls + 1, argument => do
    let widget ← Widget.within (calls + 1) argument.type
    let under ← argument.type.unwrapWithin (calls + 1)
    let children ← under.parts.mapM (Control.within types calls)
    return .mk argument.name widget (!(argument.optional || argument.type.isOption)) argument.docs
      children (choicesWithin types maxTypeDepth under)

namespace DataType

variable {levels : Nat} {type part : DataType}

private theorem Within.inner (h : Within (levels + 1) type) (member : part ∈ type.inner) :
    Within levels part := by
  intro level node lies
  exact Nat.le_of_succ_le_succ (h _ _ (.inside member lies))

private theorem Within.positive (h : Within levels type) (member : part ∈ type.inner) :
    0 < levels :=
  h 1 part (.inside member .root)

private theorem Within.under_options {P : Nat → DataType → Prop} (h : Within levels type)
    (plain : ∀ levels type, Within levels type → (∀ inner, type ≠ .option inner) → P levels type)
    (option : ∀ levels inner, P levels inner → P (levels + 1) (.option inner)) : P levels type := by
  induction levels generalizing type with
  | zero =>
    refine plain 0 type h ?_
    rintro inner rfl
    exact absurd (h.positive List.mem_cons_self) (Nat.lt_irrefl 0)
  | succ levels ih =>
    by_cases wrapped : ∃ inner, type = .option inner
    · obtain ⟨inner, rfl⟩ := wrapped
      exact option levels inner (ih (h.inner List.mem_cons_self))
    · exact plain _ type h (not_exists.mp wrapped)

theorem unwrap_eq_self (h : ∀ inner, type ≠ .option inner) : type.unwrap = type := by
  cases type with
  | option inner => exact absurd rfl (h inner)
  | _ => rfl

private theorem Within.unwrap (h : Within levels type) : Within levels type.unwrap := by
  refine h.under_options (P := fun levels type => Within levels type.unwrap) ?_ ?_
  · intro levels type h plain
    rwa [unwrap_eq_self plain]
  · intro levels inner h level node lies
    exact Nat.le_succ_of_le (h level node lies)

theorem unwrapWithin_eq (h : Within levels type) :
    type.unwrapWithin (levels + 1) = some type.unwrap := by
  refine h.under_options (P := fun levels type => type.unwrapWithin (levels + 1) = some type.unwrap)
    ?_ fun _ _ h => h
  intro levels type _ plain
  cases type with
  | option inner => exact absurd rfl (plain inner)
  | _ => rfl

end DataType

theorem Widget.within_eq {levels : Nat} {type : DataType} (h : type.Within levels) :
    Widget.within (levels + 1) type = some (Widget.ofType type) := by
  refine h.under_options
    (P := fun levels type => Widget.within (levels + 1) type = some (Widget.ofType type))
    ?_ fun _ _ h => h
  intro levels type _ plain
  cases type with
  | option inner => exact absurd rfl (plain inner)
  | _ => rfl

private theorem mapM_eq_some {α β : Type} {f : α → Option β} {g : α → β} {items : List α}
    (h : ∀ a ∈ items, f a = some (g a)) : items.mapM f = some (items.map g) := by
  induction items with
  | nil => rfl
  | cons a rest ih =>
    have first := h a List.mem_cons_self
    have more := ih fun b member => h b (List.mem_cons_of_mem a member)
    simp [List.mapM_cons, first, more]

theorem DataType.mem_inner_of_mem_parts {type : DataType} {part : Argument}
    (member : part ∈ type.parts) : part.type ∈ type.inner := by
  cases type with
  | struct fields => exact List.mem_map_of_mem member
  | tuple items =>
    obtain ⟨⟨item, index⟩, there, rfl⟩ := List.mem_map.mp member
    exact (List.mem_zipIdx' there).2 ▸ List.getElem_mem _
  | _ => cases member

namespace Control

variable {types : List TypeDefinition} {levels : Nat} {argument : Argument}

private theorem within_of_parts (h : argument.type.Within levels)
    (parts : argument.type.unwrap.parts.mapM (Control.within types levels) =
      some (argument.type.unwrap.parts.map (ofArgument types))) :
    Control.within types (levels + 1) argument = some (ofArgument types argument) := by
  rw [Control.within, Widget.within_eq h, DataType.unwrapWithin_eq h]
  simp only [Option.bind_eq_bind, Option.bind_some, parts]
  rw [ofArgument, childrenOf_eq]
  rfl

/-- An argument whose type has so many levels below its root needs so many nested calls at most. -/
theorem within_eq (h : argument.type.Within levels) :
    Control.within types (levels + 1) argument = some (ofArgument types argument) := by
  induction levels generalizing argument with
  | zero =>
    have none : argument.type.unwrap.parts = [] := by
      rw [List.eq_nil_iff_forall_not_mem]
      intro part member
      exact absurd (h.unwrap.positive (DataType.mem_inner_of_mem_parts member)) (Nat.lt_irrefl 0)
    apply within_of_parts h
    rw [none]
    rfl
  | succ levels ih =>
    apply within_of_parts h
    apply mapM_eq_some
    intro part member
    exact ih (h.unwrap.inner (DataType.mem_inner_of_mem_parts member))

end Control

end UiScaffold
