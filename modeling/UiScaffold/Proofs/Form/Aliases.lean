import Mathlib.Data.List.Perm.Subperm
import UiScaffold.Form.Lowering

/-!
Choices that are found through references.

A reference leads to the first definition of its name, and the type under the options of that
definition may be a reference again. There is one way to go on, so what is reached without going on
is unique, and a way that comes back to a name goes round for ever. A way to an enumeration thus
passes each name once, and is never longer than there are definitions.
-/

set_option autoImplicit false
set_option relaxedAutoImplicit false

namespace UiScaffold

/-- The first of the definitions of a name has a type. -/
inductive TypeDefinition.Defines (types : List TypeDefinition) (name : String) (type : DataType) :
    Prop
  | first {before after : List TypeDefinition} {definition : TypeDefinition} :
      types = before ++ definition :: after → definition.name = name → definition.type = type →
      (∀ other ∈ before, other.name ≠ name) → Defines types name type

/-- A way through references, with the names that it passes. -/
inductive Resolves (types : List TypeDefinition) : List String → DataType → DataType → Prop
  | here {type : DataType} : Resolves types [] type type
  | hop {name : String} {names : List String} {type last : DataType} :
      TypeDefinition.Defines types name type → Resolves types names type.unwrap last →
      Resolves types (name :: names) (.defined name) last

/-- A type from which no way goes on: no reference, or one to a name without a definition. -/
def DataType.Ends (types : List TypeDefinition) (type : DataType) : Prop :=
  ∀ name, type = .defined name → ∀ definition ∈ types, definition.name ≠ name

namespace TypeDefinition

variable {types : List TypeDefinition} {name : String} {type type' : DataType}

def unseen (types : List TypeDefinition) (seen : List String) : List TypeDefinition :=
  types.filter fun definition => definition.name ∉ seen

private theorem length_unseen_lt {seen : List String} {definition : TypeDefinition}
    (fresh : name ∉ seen) (found : find? types name = some definition) :
    (unseen types (name :: seen)).length < (unseen types seen).length := by
  have named : definition.name = name := by
    simpa using List.find?_some found
  have fewer : unseen types (name :: seen) =
      (unseen types seen).filter fun definition => definition.name ≠ name := by
    rw [unseen, unseen, List.filter_filter]
    simp [List.mem_cons, not_or]
  rw [fewer, List.length_filter_lt_length_iff_exists]
  refine ⟨definition, List.mem_filter.mpr ⟨List.mem_of_find?_eq_some found, ?_⟩, ?_⟩
  · simpa [named] using fresh
  · simpa using named

private theorem defines_iff :
    Defines types name type ↔ (find? types name).map (·.type) = some type := by
  rw [Option.map_eq_some_iff, find?]
  constructor
  · rintro ⟨split, named, typed, others⟩
    refine ⟨_, List.find?_eq_some_iff_append.mpr ⟨by simpa using named, _, _, split, ?_⟩, typed⟩
    simpa using others
  · rintro ⟨definition, found, typed⟩
    obtain ⟨named, before, after, split, others⟩ := List.find?_eq_some_iff_append.mp found
    exact .first split (by simpa using named) typed (by simpa using others)

private theorem Defines.unique (h : Defines types name type) (h' : Defines types name type') :
    type = type' :=
  Option.some.inj ((defines_iff.mp h).symm.trans (defines_iff.mp h'))

private theorem Defines.declared (h : Defines types name type) :
    ∃ definition ∈ types, definition.name = name := by
  obtain ⟨split, named, -, -⟩ := h
  exact ⟨_, split ▸ by simp, named⟩

end TypeDefinition

open TypeDefinition (Defines defines_iff find? unseen length_unseen_lt)

/-- The choices for a type with no limit to the references that are followed, except that none is
followed to a name that was seen before. -/
def choicesUnlimited (types : List TypeDefinition) (seen : List String) : DataType → List String
  | .enum variants => variants
  | .defined name =>
    if _fresh : name ∈ seen then []
    else match _found : find? types name with
      | some definition => choicesUnlimited types (name :: seen) definition.type.unwrap
      | none => []
  | _ => []
termination_by (unseen types seen).length
decreasing_by exact length_unseen_lt _fresh _found

namespace Resolves

variable {types : List TypeDefinition} {names names' : List String} {name : String}
  {type middle last last' : DataType} {variants : List String}

private theorem ends_enum : (DataType.enum variants).Ends types := nofun

private theorem of_ends (ends : type.Ends types) (h : Resolves types names type last) :
    names = [] ∧ last = type := by
  cases h with
  | here => exact ⟨rfl, rfl⟩
  | hop defined _ =>
    obtain ⟨definition, member, named⟩ := defined.declared
    exact absurd named (ends _ rfl definition member)

private theorem suffix (h : Resolves types names type middle) (h' : Resolves types names' type last)
    (ends : last.Ends types) : ∃ rest, names' = names ++ rest ∧
      Resolves types rest middle last := by
  induction h generalizing names' with
  | here => exact ⟨names', rfl, h'⟩
  | hop defined _ ih =>
    cases h' with
    | here =>
      obtain ⟨definition, member, named⟩ := defined.declared
      exact absurd named (ends _ rfl definition member)
    | hop defined' more =>
      obtain rfl := defined.unique defined'
      obtain ⟨rest, rfl, left⟩ := ih more
      exact ⟨rest, rfl, left⟩

private theorem unique (h : Resolves types names type last) (h' : Resolves types names' type last')
    (ends : last.Ends types) (ends' : last'.Ends types) : names = names' ∧ last = last' := by
  obtain ⟨rest, rfl, left⟩ := h.suffix h' ends'
  obtain ⟨rfl, rfl⟩ := of_ends ends left
  exact ⟨(List.append_nil names).symm, rfl⟩

private theorem not_of_loop {loop : List String} (h : Resolves types (name :: loop) type type)
    (ends : last.Ends types) : ¬ Resolves types names type last := by
  intro away
  obtain ⟨rest, split, left⟩ := h.suffix away ends
  obtain ⟨same, -⟩ := away.unique left ends ends
  have lengths := congrArg List.length (same.symm.trans split)
  simp only [List.cons_append, List.length_cons, List.length_append] at lengths
  omega

private theorem of_mem (h : Resolves types names type last) (member : name ∈ names) :
    ∃ before, Resolves types before type (.defined name) := by
  induction h with
  | here => cases member
  | @hop other names type last defined _ ih =>
    rcases List.mem_cons.mp member with rfl | member
    · exact ⟨[], .here⟩
    · obtain ⟨before, way⟩ := ih member
      exact ⟨other :: before, .hop defined way⟩

private theorem nodup (h : Resolves types names type last) (ends : last.Ends types) :
    names.Nodup := by
  induction h with
  | here => exact .nil
  | @hop name names type last defined more ih =>
    refine List.nodup_cons.mpr ⟨fun again => ?_, ih ends⟩
    obtain ⟨before, back⟩ := more.of_mem again
    exact not_of_loop (.hop defined back) ends (.hop defined more)

private theorem length_le (h : Resolves types names type last) (ends : last.Ends types) :
    names.length ≤ types.length := by
  have declared : names ⊆ types.map (·.name) := by
    intro name member
    clear ends
    induction h with
    | here => cases member
    | hop defined _ ih =>
      rcases List.mem_cons.mp member with rfl | member
      · obtain ⟨definition, there, named⟩ := defined.declared
        exact List.mem_map.mpr ⟨definition, there, named⟩
      · exact ih member
  simpa using (List.subperm_of_subset (h.nodup ends) declared).length_le

private theorem choicesWithin_eq {hops : Nat} (h : Resolves types names type (.enum variants))
    (room : names.length < hops) : choicesWithin types hops type = variants := by
  generalize reached : DataType.enum variants = last at h
  induction h generalizing hops with
  | here =>
    subst reached
    cases hops with
    | zero => cases room
    | succ hops => rfl
  | hop defined _ ih =>
    cases hops with
    | zero => cases room
    | succ hops =>
      obtain ⟨definition, found, rfl⟩ := Option.map_eq_some_iff.mp (defines_iff.mp defined)
      rw [choicesWithin, found]
      exact ih (Nat.lt_of_succ_lt_succ room) reached

private theorem choicesUnlimited_eq {seen : List String}
    (h : Resolves types names type (.enum variants))
    (distinct : names.Nodup) (fresh : ∀ name ∈ names, name ∉ seen) :
    choicesUnlimited types seen type = variants := by
  generalize reached : DataType.enum variants = last at h
  induction h generalizing seen with
  | here =>
    subst reached
    rw [choicesUnlimited]
  | @hop name names type last defined _ ih =>
    obtain ⟨definition, found, rfl⟩ := Option.map_eq_some_iff.mp (defines_iff.mp defined)
    obtain ⟨once, distinct⟩ := List.nodup_cons.mp distinct
    have later : ∀ other ∈ names, other ∉ name :: seen := by
      intro other member known
      rcases List.mem_cons.mp known with rfl | known
      · exact once member
      · exact fresh other (List.mem_cons_of_mem name member) known
    rw [choicesUnlimited, dif_neg (fresh name List.mem_cons_self)]
    split
    · next definition' found' =>
      cases found.symm.trans found'
      exact ih distinct later reached
    · next absent =>
      cases found.symm.trans absent

end Resolves

variable (types : List TypeDefinition) (type : DataType)

private theorem choicesWithin_cases (hops : Nat) : choicesWithin types hops type = [] ∨
    ∃ names, Resolves types names type (.enum (choicesWithin types hops type)) ∧
      names.length < hops := by
  fun_induction choicesWithin types hops type with
  | case1 => exact .inl rfl
  | case2 hops variants => exact .inr ⟨[], .here, Nat.succ_pos hops⟩
  | case3 hops name definition found ih =>
    refine ih.imp_right ?_
    rintro ⟨names, way, room⟩
    have defined : Defines types name definition.type := defines_iff.mpr (by rw [found]; rfl)
    exact ⟨name :: names, .hop defined way, Nat.succ_lt_succ room⟩
  | case4 => exact .inl rfl
  | case5 => exact .inl rfl

private theorem choicesUnlimited_cases (seen : List String) :
    choicesUnlimited types seen type = [] ∨
    ∃ names, Resolves types names type (.enum (choicesUnlimited types seen type)) := by
  fun_induction choicesUnlimited types seen type with
  | case1 seen variants => exact .inr ⟨[], .here⟩
  | case2 => exact .inl rfl
  | case3 seen name fresh definition found ih =>
    refine ih.imp_right ?_
    rintro ⟨names, way⟩
    have defined : Defines types name definition.type := defines_iff.mpr (by rw [found]; rfl)
    exact ⟨name :: names, .hop defined way⟩
  | case4 => exact .inl rfl
  | case5 => exact .inl rfl

/-- Which choices there are: those of the enumeration that is reached over fewer references than the
limit, and none if there is no such way, as when it ends elsewhere, comes back to a name, or is too
long. With fewer definitions than the limit, to follow references with no limit gives the same. -/
theorem choices_follow_references :
    (∀ names variants, Resolves types names type.unwrap (.enum variants) →
      names.length < maxTypeDepth → choicesOf types type = variants) ∧
    ((∀ names variants, Resolves types names type.unwrap (.enum variants) →
      maxTypeDepth ≤ names.length) → choicesOf types type = []) ∧
    (∀ names last, Resolves types names type.unwrap last → last.Ends types →
      (∀ variants, last ≠ .enum variants) → choicesOf types type = []) ∧
    (∀ names name loop, Resolves types names type.unwrap (.defined name) →
      Resolves types (name :: loop) (.defined name) (.defined name) → choicesOf types type = []) ∧
    (∀ names variants, Resolves types names type.unwrap (.enum variants) →
      maxTypeDepth ≤ names.length → choicesOf types type = []) ∧
    (types.length < maxTypeDepth →
      choicesOf types type = choicesUnlimited types [] type.unwrap) := by
  have none_of : (∀ names, Resolves types names type.unwrap (.enum (choicesOf types type)) →
      ¬ names.length < maxTypeDepth) → choicesOf types type = [] := by
    intro far
    refine (choicesWithin_cases types type.unwrap maxTypeDepth).resolve_right ?_
    rintro ⟨names, way, room⟩
    exact far names way room
  refine ⟨?_, ?_, ?_, ?_, ?_, ?_⟩
  · intro names variants way room
    exact way.choicesWithin_eq room
  · intro far
    apply none_of
    intro names way room
    have long := far names _ way
    omega
  · intro names last way ends other
    apply none_of
    intro names' way' _
    exact other _ (way.unique way' ends Resolves.ends_enum).2
  · intro names name loop way back
    apply none_of
    intro names' way' _
    obtain ⟨rest, -, left⟩ := way.suffix way' Resolves.ends_enum
    exact back.not_of_loop Resolves.ends_enum left
  · intro names variants way long
    apply none_of
    intro names' way' room
    obtain ⟨rfl, -⟩ := way.unique way' Resolves.ends_enum Resolves.ends_enum
    omega
  · intro few
    by_cases reached : ∃ names variants, Resolves types names type.unwrap (.enum variants)
    · obtain ⟨names, variants, way⟩ := reached
      have room : names.length < maxTypeDepth :=
        Nat.lt_of_le_of_lt (way.length_le Resolves.ends_enum) few
      calc
        choicesOf types type = variants := way.choicesWithin_eq room
        _ = choicesUnlimited types [] type.unwrap :=
          (way.choicesUnlimited_eq (way.nodup Resolves.ends_enum) (by simp)).symm
    · have within : choicesOf types type = [] :=
        none_of fun names way _ => reached ⟨names, _, way⟩
      have unlimited : choicesUnlimited types [] type.unwrap = [] :=
        (choicesUnlimited_cases types type.unwrap []).resolve_right
          fun ⟨names, way⟩ => reached ⟨names, _, way⟩
      rw [within, unlimited]

def sides : List TypeDefinition :=
  [⟨"order", [], .option (.defined "side")⟩, ⟨"side", [], .enum ["bid", "ask"]⟩,
    ⟨"side", [], .bool⟩, ⟨"left", [], .defined "right"⟩, ⟨"right", [], .option (.defined "left")⟩,
    ⟨"lost", [], .defined "nothing"⟩]

def ladder : List TypeDefinition :=
  ((List.range maxTypeDepth).map fun rung => ⟨rung.repr, [], .defined (rung + 1).repr⟩) ++
    [⟨maxTypeDepth.repr, [], .enum ["top"]⟩]

theorem choices_follow_references_of_sides :
    (Resolves sides ["order", "side"] (.defined "order") (.enum ["bid", "ask"]) ∧
      choicesOf sides (.option (.defined "order")) = ["bid", "ask"]) ∧
    (Resolves sides ["left"] (.defined "left") (.defined "right") ∧
      Resolves sides ["right", "left"] (.defined "right") (.defined "right") ∧
      choicesOf sides (.defined "left") = []) ∧
    (Resolves sides ["lost"] (.defined "lost") (.defined "nothing") ∧
      (DataType.defined "nothing").Ends sides ∧ choicesOf sides (.defined "lost") = []) ∧
    (sides.length < maxTypeDepth ∧
      choicesOf sides (.defined "order") = choicesUnlimited sides [] (.defined "order")) ∧
    ∃ names, names.length = maxTypeDepth ∧ Resolves ladder names (.defined "1") (.enum ["top"]) ∧
      choicesOf ladder (.defined "1") = [] := by
  have order : Resolves sides ["order", "side"] (.defined "order") (.enum ["bid", "ask"]) :=
    .hop (defines_iff.mpr rfl) (.hop (defines_iff.mpr rfl) .here)
  have left : Resolves sides ["left"] (.defined "left") (.defined "right") :=
    .hop (defines_iff.mpr rfl) .here
  have back : Resolves sides ["right", "left"] (.defined "right") (.defined "right") :=
    .hop (defines_iff.mpr rfl) (.hop (defines_iff.mpr rfl) .here)
  have lost : Resolves sides ["lost"] (.defined "lost") (.defined "nothing") :=
    .hop (defines_iff.mpr rfl) .here
  have nothing : (DataType.defined "nothing").Ends sides := by
    rintro name ⟨⟩
    decide
  obtain ⟨reached, -⟩ := choices_follow_references sides (.option (.defined "order"))
  obtain ⟨-, -, -, circle, -⟩ := choices_follow_references sides (.defined "left")
  obtain ⟨-, -, elsewhere, -⟩ := choices_follow_references sides (.defined "lost")
  obtain ⟨-, -, -, -, -, unlimited⟩ := choices_follow_references sides (.defined "order")
  obtain ⟨-, -, -, -, long, -⟩ := choices_follow_references ladder (.defined "1")
  have climb : Resolves ladder ((List.range' 1 maxTypeDepth).map Nat.repr) (.defined "1")
      (.enum ["top"]) := by
    repeat refine .hop (defines_iff.mpr rfl) ?_
    exact .here
  have high : ((List.range' 1 maxTypeDepth).map Nat.repr).length = maxTypeDepth := by decide
  exact ⟨⟨order, reached _ _ order (by decide)⟩, ⟨left, back, circle _ _ _ left back⟩,
    ⟨lost, nothing, elsewhere _ _ lost nothing nofun⟩, ⟨by decide, unlimited (by decide)⟩,
    _, high, climb, long _ _ climb (Nat.le_of_eq high.symm)⟩

end UiScaffold
