import Mathlib.Data.List.Forall2
import Mathlib.Data.List.Nodup
import Mathlib.Data.Option.Basic
import UiScaffold.Proofs.Json.Members

/-!
Values that are equal up to the order of keys.

Two objects are equal up to order when they have the same keys, each of them once, and values under
each key that are equal up to order; the items of a list keep their order. Every question about the
value of a key then has the same answer for both, up to the order of keys inside the answer.
-/

set_option autoImplicit false
set_option relaxedAutoImplicit false

namespace UiScaffold.Json

/-- Two values are equal up to the order of the keys of their objects, at any depth. -/
inductive Reorders : Json → Json → Prop
  | null : Reorders .null .null
  | bool (flag : Bool) : Reorders (.bool flag) (.bool flag)
  | number (value : Number) : Reorders (.number value) (.number value)
  | text (content : String) : Reorders (.text content) (.text content)
  | list {items items' : List Json} : items.length = items'.length →
      (∀ pair ∈ items.zip items', Reorders pair.1 pair.2) → Reorders (.list items) (.list items')
  | object {members members' : Members} : (members.map (·.1)).Nodup →
      (members.map (·.1)).Perm (members'.map (·.1)) →
      (∀ key value value', (key, value) ∈ members → (key, value') ∈ members' →
        Reorders value value') → Reorders (.object members) (.object members')

/-- Two objects have the same keys, each once, with values that are equal up to order. -/
structure Members.Reorders (members members' : Members) : Prop where
  nodup : (members.map (·.1)).Nodup
  keys : (members.map (·.1)).Perm (members'.map (·.1))
  values : ∀ key value value', (key, value) ∈ members → (key, value') ∈ members' →
    Json.Reorders value value'

section Related

variable {α α' β β' : Type} {R : α → α' → Prop} {S : β → β' → Prop} {x : Option α} {x' : Option α'}
  {items : List α} {items' : List α'}

theorem rel_cases (h : Option.Rel R x x') :
    (∃ a a', x = some a ∧ x' = some a' ∧ R a a') ∨ x = none ∧ x' = none := by
  cases h with
  | none => exact .inr ⟨rfl, rfl⟩
  | some related => exact .inl ⟨_, _, rfl, rfl, related⟩

theorem rel_bind {f : α → Option β} {g : α' → Option β'} (h : Option.Rel R x x')
    (step : ∀ a a', R a a' → Option.Rel S (f a) (g a')) : Option.Rel S (x.bind f) (x'.bind g) := by
  cases h with
  | none => exact .none
  | some related => exact step _ _ related

theorem bind_eq_of_rel {f : α → Option β} {g : α' → Option β} (h : Option.Rel R x x')
    (same : ∀ a a', R a a' → f a = g a') : x.bind f = x'.bind g := by
  cases h with
  | none => rfl
  | some related => exact same _ _ related

theorem map_eq_of_rel {f : α → β} {g : α' → β} (h : Option.Rel R x x')
    (same : ∀ a a', R a a' → f a = g a') : x.map f = x'.map g := by
  cases h with
  | none => rfl
  | some related => exact congrArg some (same _ _ related)

theorem rel_orElse {y : Unit → Option α} {y' : Unit → Option α'} (h : Option.Rel R x x')
    (otherwise : Option.Rel R (y ()) (y' ())) : Option.Rel R (x.orElse y) (x'.orElse y') := by
  cases h with
  | none => exact otherwise
  | some related => exact .some related

theorem rel_getD {a : α} {a' : α'} (h : Option.Rel R x x') (otherwise : R a a') :
    R (x.getD a) (x'.getD a') := by
  cases h with
  | none => exact otherwise
  | some related => exact related

theorem isSome_eq_of_rel (h : Option.Rel R x x') : x.isSome = x'.isSome := by
  cases h <;> rfl

theorem isEmpty_eq_of_forall₂ (h : List.Forall₂ R items items') :
    items.isEmpty = items'.isEmpty := by
  cases h <;> rfl

theorem rel_toList (h : Option.Rel R x x') : List.Forall₂ R x.toList x'.toList := by
  cases h with
  | none => exact .nil
  | some related => exact .cons related .nil

theorem rel_head? (h : List.Forall₂ R items items') : Option.Rel R items.head? items'.head? := by
  cases h with
  | nil => exact .none
  | cons first _ => exact .some first

theorem rel_find? {p : α → Bool} {q : α' → Bool} (h : List.Forall₂ R items items')
    (same : ∀ a a', R a a' → p a = q a') : Option.Rel R (items.find? p) (items'.find? q) := by
  induction h with
  | nil => exact .none
  | @cons a a' _ _ first _ ih =>
    rw [List.find?_cons, List.find?_cons, ← same a a' first]
    cases p a with
    | true => exact .some first
    | false => exact ih

theorem map_eq_of_forall₂ {f : α → β} {g : α' → β} (h : List.Forall₂ R items items')
    (same : ∀ a a', R a a' → f a = g a') : items.map f = items'.map g := by
  induction h with
  | nil => rfl
  | cons first _ ih => rw [List.map_cons, List.map_cons, same _ _ first, ih]

theorem filterMap_eq_of_forall₂ {f : α → Option β} {g : α' → Option β}
    (h : List.Forall₂ R items items') (same : ∀ a a', R a a' → f a = g a') :
    items.filterMap f = items'.filterMap g := by
  induction h with
  | nil => rfl
  | cons first _ ih => rw [List.filterMap_cons, List.filterMap_cons, same _ _ first, ih]

end Related

theorem Reorders.of_items {items items' : List Json} (h : List.Forall₂ Reorders items items') :
    Reorders (.list items) (.list items') := by
  obtain ⟨long, each⟩ := List.forall₂_iff_zip.mp h
  exact .list long fun pair member => each member

theorem Reorders.swap {first second : String} {a a' b b' : Json} (apart : first ≠ second)
    (ha : Reorders a a') (hb : Reorders b b') :
    Reorders (.object [(first, a), (second, b)]) (.object [(second, b'), (first, a')]) := by
  refine .object (by simpa using apart) (.swap second first []) ?_
  intro key value value' member member'
  simp only [List.mem_cons, Prod.mk.injEq, List.not_mem_nil, or_false] at member member'
  rcases member with ⟨rfl, rfl⟩ | ⟨rfl, rfl⟩ <;> rcases member' with ⟨same, rfl⟩ | ⟨same, rfl⟩
  · exact absurd same apart
  · exact ha
  · exact hb
  · exact absurd same.symm apart

namespace Members

variable {members members' : Members} {key : String}

private theorem get?_eq_none : members.get? key = none ↔ key ∉ members.map (·.1) := by
  rw [get?, List.lookup_eq_none_iff, List.mem_map]
  constructor
  · rintro apart ⟨member, there, rfl⟩
    simpa using apart member there
  · intro absent member there
    simpa using fun same => absent ⟨member, there, same.symm⟩

private theorem mem_of_get? {value : Json} (h : members.get? key = some value) :
    (key, value) ∈ members := by
  obtain ⟨front, back, rfl, -⟩ := List.lookup_eq_some_iff.mp h
  simp

end Members

namespace Reorders

variable {value value' : Json}

theorem asText? (h : value.Reorders value') : value.asText? = value'.asText? := by
  cases h <;> rfl

private theorem asBool? (h : value.Reorders value') : value.asBool? = value'.asBool? := by
  cases h <;> rfl

theorem asNat? (h : value.Reorders value') : value.asNat? = value'.asNat? := by
  cases h <;> rfl

theorem asList? (h : value.Reorders value') :
    Option.Rel (List.Forall₂ Reorders) value.asList? value'.asList? := by
  cases h with
  | list long each => exact .some (List.forall₂_iff_zip.mpr ⟨long, fun member => each _ member⟩)
  | null | bool _ | number _ | text _ | object _ _ _ => exact .none

theorem asObject? (h : value.Reorders value') :
    Option.Rel Members.Reorders value.asObject? value'.asObject? := by
  cases h with
  | object nodup keys values => exact .some ⟨nodup, keys, values⟩
  | null | bool _ | number _ | text _ | list _ _ => exact .none

end Reorders

/-- Objects with the same keys have related values under each key, if all values are related that
share a key. -/
theorem Members.rel_get? {R : Json → Json → Prop} {members members' : Members}
    (keys : (members.map (·.1)).Perm (members'.map (·.1)))
    (values : ∀ key value value', (key, value) ∈ members → (key, value') ∈ members' →
      R value value') (key : String) : Option.Rel R (members.get? key) (members'.get? key) := by
  cases found : members.get? key with
  | none =>
    have absent := get?_eq_none.mp found
    rw [keys.mem_iff] at absent
    rw [get?_eq_none.mpr absent]
    exact .none
  | some value =>
    have member := mem_of_get? found
    have there : key ∈ members'.map (·.1) := keys.mem_iff.mp (List.mem_map_of_mem member)
    cases found' : members'.get? key with
    | none => exact absurd there (get?_eq_none.mp found')
    | some value' => exact .some (values key value value' member (mem_of_get? found'))

theorem Members.Reorders.nil : Members.Reorders [] [] :=
  ⟨List.nodup_nil, .nil, fun _ _ _ member => absurd member List.not_mem_nil⟩

namespace Members.Reorders

variable {members members' : Members} (h : members.Reorders members') (key : String)
include h

theorem get? : Option.Rel Json.Reorders (members.get? key) (members'.get? key) :=
  rel_get? h.keys h.values key

theorem text? : members.text? key = members'.text? key :=
  bind_eq_of_rel (h.get? key) fun _ _ same => same.asText?

theorem list? : Option.Rel (List.Forall₂ Json.Reorders) (members.list? key) (members'.list? key) :=
  rel_bind (h.get? key) fun _ _ same => same.asList?

theorem items : List.Forall₂ Json.Reorders (members.items key) (members'.items key) :=
  rel_getD (h.list? key) .nil

private theorem isTrue : members.isTrue key = members'.isTrue key := by
  rw [Members.isTrue, bind_eq_of_rel (h.get? key) fun _ _ same => same.asBool?]
  rfl

theorem anyTrue (keys : List String) : members.anyTrue keys = members'.anyTrue keys := by
  have each : members.isTrue = members'.isTrue := funext h.isTrue
  rw [Members.anyTrue, each]
  rfl

end Members.Reorders

namespace Reorders

variable {value value' : Json} (h : value.Reorders value') (key : String)
include h

theorem get? : Option.Rel Reorders (value.get? key) (value'.get? key) :=
  rel_bind h.asObject? fun _ _ same => same.get? key

theorem textAt? : value.textAt? key = value'.textAt? key :=
  bind_eq_of_rel (h.get? key) fun _ _ same => same.asText?

theorem itemsAt : List.Forall₂ Reorders (value.itemsAt key) (value'.itemsAt key) :=
  rel_getD (rel_bind (h.get? key) fun _ _ same => same.asList?) .nil

end Reorders

end UiScaffold.Json
