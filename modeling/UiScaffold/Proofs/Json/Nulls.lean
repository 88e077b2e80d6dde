import UiScaffold.Proofs.Json.Members

/-!
Objects without the keys that have the value null.

The values of an object are changed, each as its key says, and then the keys with the value null are
dropped, but for some that are spared. A question that null does not answer is answered by the value
that is left under the key as it would be by the changed value.
-/

set_option autoImplicit false
set_option relaxedAutoImplicit false

namespace UiScaffold.Json

def isNull : Json → Bool
  | .null => true
  | _ => false

def mapItems (change : List Json → List Json) : Json → Json
  | .list items => .list (change items)
  | other => other

def mapMembers (change : Members → Members) : Json → Json
  | .object members => .object (change members)
  | other => other

namespace Members

/-- The members with their values changed, each as its key says. -/
def mapValues (change : String → Json → Json) (members : Members) : Members :=
  members.map fun member => (member.1, change member.1 member.2)

def isNullAt (members : Members) (key : String) : Bool := (members.get? key).any isNull

/-- The members without the keys that have the value null, but for those that are spared. -/
def dropNulls (spared : List String) (members : Members) : Members :=
  members.filter fun member => spared.contains member.1 || !members.isNullAt member.1

/-- The members with their values changed, and then without the keys that have the value null. -/
def clear (spared : List String) (change : String → Json → Json) (members : Members) : Members :=
  (members.mapValues change).dropNulls spared

variable {members : Members} {key : String} {spared : List String} {change : String → Json → Json}

theorem dropNulls_eq_clear (spared : List String) (members : Members) :
    members.dropNulls spared = members.clear spared fun _ => id := by
  have unchanged : members.mapValues (fun _ => id) = members := List.map_id members
  rw [clear, unchanged]

theorem get?_mapValues :
    (members.mapValues change).get? key = (members.get? key).map (change key) := by
  induction members with
  | nil => rfl
  | cons member rest ih =>
    obtain ⟨other, value⟩ := member
    have head : mapValues change ((other, value) :: rest) =
        (other, change other value) :: mapValues change rest := rfl
    rw [head, get?_cons, get?_cons]
    by_cases same : key = other
    · rw [if_pos same, if_pos same, same]
      rfl
    · rw [if_neg same, if_neg same, ih]

theorem get?_mapValues_of_id (same : change key = id) :
    (members.mapValues change).get? key = members.get? key := by
  rw [get?_mapValues, same, Option.map_id_fun, id]

private theorem get?_filter (keep : String → Bool) :
    get? (members.filter fun member => keep member.1) key =
      if keep key = true then members.get? key else none := by
  induction members with
  | nil => simp
  | cons member rest ih =>
    obtain ⟨other, value⟩ := member
    rw [List.filter_cons, get?_cons]
    by_cases same : key = other
    · subst same
      cases kept : keep key with
      | true => rw [if_pos rfl, if_pos rfl, get?_cons, if_pos rfl, if_pos rfl]
      | false => rw [if_neg nofun, ih, kept, if_neg nofun, if_neg nofun]
    · cases kept : keep other with
      | true => rw [if_pos rfl, get?_cons, if_neg same, if_neg same, ih]
      | false => rw [if_neg nofun, if_neg same, ih]

theorem get?_dropNulls : (members.dropNulls spared).get? key =
    if key ∈ spared then members.get? key
    else (members.get? key).filter fun value => !value.isNull := by
  rw [dropNulls, get?_filter fun key => spared.contains key || !members.isNullAt key]
  by_cases safe : key ∈ spared
  · simp [safe]
  · cases found : members.get? key with
    | none => simp
    | some value => cases null : value.isNull <;>
        simp [safe, isNullAt, found, null, Option.filter_some]

/-- A question that null does not answer is answered by the changed value. -/
theorem bind_clear {α : Type} {read : Json → Option α} (silent : read .null = none) :
    ((members.clear spared change).get? key).bind read =
      (members.get? key).bind fun value => read (change key value) := by
  rw [clear, get?_dropNulls, get?_mapValues]
  by_cases safe : key ∈ spared
  · rw [if_pos safe, Option.bind_map]
    rfl
  · rw [if_neg safe]
    cases found : members.get? key with
    | none => rfl
    | some value =>
      cases left : change key value with
      | null => simp [left, isNull, silent, Option.filter_some]
      | _ => simp [left, isNull, Option.filter_some]

theorem text?_clear (same : change key = id) :
    (members.clear spared change).text? key = members.text? key := by
  rw [text?, bind_clear rfl, same]
  rfl

private theorem isTrue_clear (same : change key = id) :
    (members.clear spared change).isTrue key = members.isTrue key := by
  rw [isTrue, isTrue, bind_clear rfl, same]
  rfl

theorem anyTrue_clear {keys : List String} (same : ∀ key ∈ keys, change key = id) :
    (members.clear spared change).anyTrue keys = members.anyTrue keys := by
  induction keys with
  | nil => rfl
  | cons key rest ih =>
    rw [List.forall_mem_cons] at same
    have first : (members.clear spared change).isTrue key = members.isTrue key :=
      isTrue_clear same.1
    have others := ih same.2
    rw [anyTrue] at others ⊢
    rw [List.any_cons, first, others]
    rfl

theorem object?_clear (same : change key = id) :
    ((members.clear spared change).get? key).bind asObject? =
      (members.get? key).bind asObject? := by
  rw [bind_clear rfl, same]
  rfl

theorem list?_clear {step : List Json → List Json} (listed : change key = mapItems step) :
    (members.clear spared change).list? key = (members.list? key).map step := by
  rw [list?, bind_clear rfl, listed, list?]
  cases members.get? key with
  | none => rfl
  | some value => cases value <;> rfl

theorem items_clear {step : List Json → List Json} (listed : change key = mapItems step)
    (empty : step [] = []) :
    (members.clear spared change).items key = step (members.items key) := by
  rw [items, items, list?_clear listed]
  cases members.list? key with
  | none => exact empty.symm
  | some items => rfl

theorem get?_clear_of_spared (safe : key ∈ spared) (same : change key = id) :
    (members.clear spared change).get? key = members.get? key := by
  rw [clear, get?_dropNulls, if_pos safe, get?_mapValues_of_id same]

theorem get?_clear (free : key ∉ spared) (same : change key = id) :
    (members.clear spared change).get? key =
      (members.get? key).filter fun value => !value.isNull := by
  rw [clear, get?_dropNulls, if_neg free, get?_mapValues_of_id same]

end Members

end UiScaffold.Json
