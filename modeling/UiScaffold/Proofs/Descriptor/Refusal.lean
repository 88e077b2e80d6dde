import Mathlib.Data.List.Nodup
import UiScaffold.Proofs.Descriptor.Depth
import UiScaffold.Proofs.Descriptor.Provenance

/-!
Why a descriptor is refused.

The checks of a descriptor stand in a list, each with the errors that it gives on its own. A
document is refused exactly when one of them fails, with the error of the first that does: nothing
else that stands in a document, or is missing from it, has a say.
-/

set_option autoImplicit false
set_option relaxedAutoImplicit false

namespace UiScaffold

open DataType (Nests trailOf)

/-- The list under the first of two keys that has one; no items if neither has. -/
inductive Json.Members.Lists (members : Json.Members) (first second : String) : List Json → Prop
  | first {items : List Json} :
      members.get? first = some (.list items) → Lists members first second items
  | second {items : List Json} :
      (∀ others, members.get? first ≠ some (.list others)) →
      members.get? second = some (.list items) → Lists members first second items
  | neither :
      (∀ others, members.get? first ≠ some (.list others)) →
      (∀ others, members.get? second ≠ some (.list others)) → Lists members first second []

/-- The type of a value is nested too deep; the place starts with what the value is called. -/
def DeepType (called : String) (value : Json) (place : String) : Prop :=
  ∃ type names, value.get? "type" = some type ∧ Nests (maxTypeDepth + 1) type names ∧
    place = called ++ trailOf names

/-- What is wrong with an element of the list of instructions. -/
inductive Instruction.Fault (index : Nat) : Json → DescriptorError → Prop
  | notAnObject {value : Json} : (∀ members, value ≠ .object members) →
      Fault index value (.invalidInstruction index .notAnObject)
  | unnamed {members : Json.Members} :
      (∀ name, members.get? "name" = some (.text name) → ∀ c ∈ name.toList, Text.isBlank c = true) →
      Fault index (.object members) (.invalidInstruction index .unnamed)
  | tooDeep {members : Json.Members} {name place : String} {arguments : List Json} :
      members.get? "name" = some (.text name) → (∃ c ∈ name.toList, Text.isBlank c = false) →
      members.Lists "args" "arguments" arguments →
      Earliest (fun argument =>
        DeepType (name ++ "." ++ (argument.textAt? "name").getD "unknown") argument)
        arguments place →
      Fault index (.object members) (.typeTooDeep place)

/-- What is wrong with an entry of the list of types: it has a name and its type is too deep. -/
inductive TypeDefinition.Fault : Json → DescriptorError → Prop
  | tooDeep {entry : Json} {name place : String} :
      entry.textAt? "name" = some name → DeepType name entry place →
      Fault entry (.typeTooDeep place)

namespace Program

/-- The candidate that describes the program, with its instructions: the first with a list that is
not empty, or else the first with a list. -/
inductive Selects (document : Json.Members) : Json.Members → List Json → Prop
  | filled {before after : List Json.Members} {program : Json.Members} {values : List Json} :
      candidates document = before ++ program :: after →
      program.get? "instructions" = some (.list values) → values ≠ [] →
      (∀ other ∈ before, ∀ items, other.get? "instructions" = some (.list items) → items = []) →
      Selects document program values
  | empty {before after : List Json.Members} {program : Json.Members} :
      candidates document = before ++ program :: after →
      program.get? "instructions" = some (.list []) →
      (∀ other ∈ before, ∀ items, other.get? "instructions" ≠ some (.list items)) →
      (∀ other ∈ after, ∀ items, other.get? "instructions" = some (.list items) → items = []) →
      Selects document program []

inductive RootFault (document : Json) : DescriptorError → Prop
  | notAnObject : (∀ members, document ≠ .object members) → RootFault document .notAnObject

inductive ListFault (document : Json) : DescriptorError → Prop
  | notAList {value : Json} : document.get? "instructions" = some value →
      (∀ items, value ≠ .list items) → ListFault document .instructionsNotAList

inductive CandidateFault (document : Json) : DescriptorError → Prop
  | missing {members : Json.Members} : document = .object members →
      (∀ program ∈ candidates members, ∀ items, program.get? "instructions" ≠ some (.list items)) →
      CandidateFault document .missingInstructions

inductive InstructionsFault (document : Json) : DescriptorError → Prop
  | first {members program : Json.Members} {values : List Json} {e : DescriptorError} :
      document = .object members → Selects members program values →
      Earliest (fun item => Instruction.Fault item.2 item.1) values.zipIdx e →
      InstructionsFault document e

inductive NamesFault (document : Json) : DescriptorError → Prop
  | repeated {members program : Json.Members} {before after : List Json} {value : Json}
      {name : String} :
      document = .object members → Selects members program (before ++ value :: after) →
      value.textAt? "name" = some name → (∃ other ∈ before, other.textAt? "name" = some name) →
      before.Pairwise (fun a b => a.textAt? "name" ≠ b.textAt? "name") →
      NamesFault document (.invalidInstruction before.length (.repeated name))

inductive TypesFault (document : Json) : DescriptorError → Prop
  | first {members program : Json.Members} {values entries : List Json} {e : DescriptorError} :
      document = .object members → Selects members program values →
      program.Lists "types" "definedTypes" entries → Earliest TypeDefinition.Fault entries e →
      TypesFault document e

/-- An error of the first check that fails. -/
def FirstFailure (checks : List (DescriptorError → Prop)) (e : DescriptorError) : Prop :=
  Earliest (fun check => check) checks e

/-- The checks of a document in their order, each by the errors that it gives. -/
def checks (document : Json) : List (DescriptorError → Prop) :=
  [RootFault document, ListFault document, CandidateFault document, InstructionsFault document,
    NamesFault document, TypesFault document]

end Program

namespace Json.Members

variable {members : Members} {first second : String}

theorem lists_iff {items : List Json} :
    members.Lists first second items ↔
      items = (members.list? first).getD (members.items second) := by
  constructor
  · intro lists
    cases lists with
    | first found => simp [list?_eq_some.mpr found]
    | second absent found => simp [list?_eq_none.mpr absent, Members.items, list?_eq_some.mpr found]
    | neither absent none =>
      simp [list?_eq_none.mpr absent, Members.items, list?_eq_none.mpr none]
  · rintro rfl
    cases found : members.list? first with
    | some items => exact .first (list?_eq_some.mp found)
    | none =>
      have absent := list?_eq_none.mp found
      cases found' : members.list? second with
      | some items => simpa [Members.items, found'] using .second absent (list?_eq_some.mp found')
      | none => simpa [Members.items, found'] using .neither absent (list?_eq_none.mp found')

end Json.Members

namespace DataType

private theorem ofMembers_eq_error_iff {context : String} {members : Json.Members}
    {e : DescriptorError} : DataType.ofMembers context members = .error e ↔
      ∃ place, DeepType context (.object members) place ∧ e = .typeTooDeep place := by
  unfold DataType.ofMembers
  have type_of : Json.get? (.object members) "type" = members.get? "type" := rfl
  cases found : members.get? "type" with
  | none => simp [DeepType, type_of, found]
  | some type =>
    have refused : TooDeep.orRefuse (DataType.read context type) = .error e ↔
        ∃ t, DataType.read context type = .error t ∧ e = .typeTooDeep t.context := by
      cases DataType.read context type <;> simp [TooDeep.orRefuse, eq_comm]
    refine refused.trans ?_
    simp only [DataType.read, readAt_eq_error_iff, DeepType, type_of, found]
    constructor
    · rintro ⟨_, ⟨names, deep, rfl⟩, rfl⟩
      exact ⟨_, ⟨type, names, rfl, deep, rfl⟩, rfl⟩
    · rintro ⟨_, ⟨_, names, same, deep, rfl⟩, rfl⟩
      cases same
      exact ⟨_, ⟨names, deep, rfl⟩, rfl⟩

end DataType

namespace Argument

private theorem ofJson_eq_error_iff {instruction : String} {value : Json} {e : DescriptorError} :
    ofJson instruction value = .error e ↔
      ∃ place, DeepType (instruction ++ "." ++ (value.textAt? "name").getD "unknown") value place ∧
        e = .typeTooDeep place := by
  have name : nameOf value = (value.textAt? "name").getD "unknown" := by
    cases value <;> rfl
  have members : ∀ called place, DeepType called (.object (membersOf value)) place ↔
      DeepType called value place := by
    intro called place
    cases value <;> simp [DeepType, membersOf, Json.get?, Json.asObject?]
  unfold ofJson
  rw [except_bind_eq_error, DataType.ofMembers_eq_error_iff, name]
  simp [members, pure, Except.pure]

end Argument

namespace Instruction

theorem nameOf?_eq_some {members : Json.Members} {name : String} :
    nameOf? members = some name ↔
      members.get? "name" = some (.text name) ∧ ∃ c ∈ name.toList, Text.isBlank c = false := by
  rw [nameOf?, Option.filter_eq_some_iff, Json.Members.text?_eq_some]
  simp [Text.isBlankText]

private theorem nameOf?_eq_none {members : Json.Members} :
    nameOf? members = none ↔
      ∀ name, members.get? "name" = some (.text name) →
        ∀ c ∈ name.toList, Text.isBlank c = true := by
  rw [Option.eq_none_iff_forall_ne_some]
  refine forall_congr' fun name => ?_
  rw [ne_eq, nameOf?_eq_some]
  simp

private theorem ofJson_eq_error_iff {index : Nat} {value : Json} {e : DescriptorError} :
    ofJson index value = .error e ↔ Fault index value e := by
  cases object : value.asObject? with
  | none =>
    have not_object : ∀ members, value ≠ .object members := by
      rintro members rfl
      cases object
    have refused : ofJson index value = .error (.invalidInstruction index .notAnObject) := by
      simp [ofJson, object]
    rw [refused]
    constructor
    · rintro ⟨⟩
      exact .notAnObject not_object
    · intro fault
      cases fault with
      | notAnObject _ => rfl
      | unnamed _ => exact absurd rfl (not_object _)
      | tooDeep _ _ _ _ => exact absurd rfl (not_object _)
  | some members =>
    obtain rfl := Json.asObject?_eq_some.mp object
    cases named : nameOf? members with
    | none =>
      have refused :
          ofJson index (.object members) = .error (.invalidInstruction index .unnamed) := by
        simp [ofJson, object, named]
      have blank := nameOf?_eq_none.mp named
      rw [refused]
      constructor
      · rintro ⟨⟩
        exact .unnamed blank
      · intro fault
        cases fault with
        | notAnObject not_object => exact absurd rfl (not_object _)
        | unnamed _ => rfl
        | tooDeep found visible _ _ =>
          obtain ⟨c, member, shown⟩ := visible
          rw [blank _ found c member] at shown
          cases shown
    | some name =>
      obtain ⟨found, visible⟩ := nameOf?_eq_some.mp named
      have refused : ofJson index (.object members) = .error e ↔
          (argumentsOf members).mapM (Argument.ofJson name) = .error e := by
        simp only [ofJson, object, named]
        rw [except_bind_eq_error]
        simp [pure, Except.pure]
      have tell : Earliest (fun argument e => Argument.ofJson name argument = .error e)
          (argumentsOf members) e ↔ ∃ place, Earliest (fun argument =>
            DeepType (name ++ "." ++ (argument.textAt? "name").getD "unknown") argument)
              (argumentsOf members) place ∧ e = .typeTooDeep place :=
        Earliest.tell_iff DescriptorError.typeTooDeep fun argument _ _ =>
          Argument.ofJson_eq_error_iff
      rw [refused, mapM_eq_error_iff, tell]
      constructor
      · rintro ⟨place, deep, rfl⟩
        exact .tooDeep found visible (Json.Members.lists_iff.mpr rfl) deep
      · intro fault
        cases fault with
        | notAnObject not_object => exact absurd rfl (not_object _)
        | unnamed blank =>
          obtain ⟨c, member, shown⟩ := visible
          rw [blank _ found c member] at shown
          cases shown
        | tooDeep found' _ lists deep =>
          obtain rfl := Json.Members.lists_iff.mp lists
          cases found.symm.trans found'
          exact ⟨_, deep, rfl⟩

private theorem firstRepeat_eq_some {seen names : List String} {start index : Nat} {name : String} :
    firstRepeat seen start names = some (index, name) ↔
      ∃ before after, names = before ++ name :: after ∧ index = start + before.length ∧
        (name ∈ seen ∨ name ∈ before) ∧ before.Nodup ∧ ∀ other ∈ before, other ∉ seen := by
  induction names generalizing seen start with
  | nil => simp [firstRepeat]
  | cons first rest ih =>
    rw [firstRepeat]
    split
    · next again =>
      constructor
      · rintro ⟨⟩
        exact ⟨[], rest, rfl, rfl, .inl again, .nil, by simp⟩
      · rintro ⟨before, after, split, rfl, -, -, new⟩
        cases before with
        | nil =>
          obtain ⟨rfl, -⟩ := List.cons.inj split
          rfl
        | cons other before =>
          obtain ⟨rfl, -⟩ := List.cons.inj split
          exact absurd again (new _ List.mem_cons_self)
    · next fresh =>
      rw [ih]
      constructor
      · rintro ⟨before, after, rfl, rfl, known, nodup, new⟩
        refine ⟨first :: before, after, rfl, ?_, ?_, ?_, ?_⟩
        · rw [List.length_cons]
          omega
        · rcases known with known | known
          · rcases List.mem_cons.mp known with rfl | known
            · exact .inr List.mem_cons_self
            · exact .inl known
          · exact .inr (List.mem_cons_of_mem _ known)
        · refine List.nodup_cons.mpr ⟨fun again => ?_, nodup⟩
          exact new first again List.mem_cons_self
        · intro other member
          rcases List.mem_cons.mp member with rfl | member
          · exact fresh
          · exact fun known => new other member (List.mem_cons_of_mem _ known)
      · rintro ⟨before, after, split, rfl, known, nodup, new⟩
        cases before with
        | nil =>
          obtain ⟨rfl, -⟩ := List.cons.inj split
          exact absurd (known.resolve_right (by simp)) fresh
        | cons other before =>
          obtain ⟨rfl, rfl⟩ := List.cons.inj split
          obtain ⟨absent, nodup⟩ := List.nodup_cons.mp nodup
          refine ⟨before, after, rfl, ?_, ?_, nodup, ?_⟩
          · rw [List.length_cons]
            omega
          · rcases known with known | known
            · exact .inl (List.mem_cons_of_mem _ known)
            · rcases List.mem_cons.mp known with rfl | known
              · exact .inl List.mem_cons_self
              · exact .inr known
          · intro later member known
            rcases List.mem_cons.mp known with rfl | known
            · exact absent member
            · exact new later (List.mem_cons_of_mem _ member) known

private theorem checkNames_eq_error_iff {instructions : List Instruction} {e : DescriptorError} :
    checkNames instructions = .error e ↔
      ∃ before name after, instructions.map (·.name) = before ++ name :: after ∧ name ∈ before ∧
        before.Nodup ∧ e = .invalidInstruction before.length (.repeated name) := by
  unfold checkNames
  cases found : firstRepeat [] 0 (instructions.map (·.name)) with
  | none =>
    have distinct : ∀ index name,
        firstRepeat [] 0 (instructions.map (·.name)) ≠ some (index, name) := by
      intro index name
      rw [found]
      simp
    simp only [ne_eq, firstRepeat_eq_some] at distinct
    constructor
    · rintro ⟨⟩
    · rintro ⟨before, name, after, split, again, nodup, -⟩
      exact absurd ⟨before, after, split, rfl, .inr again, nodup, by simp⟩ (distinct _ name)
  | some place =>
    obtain ⟨index, name⟩ := place
    constructor
    · rintro ⟨⟩
      obtain ⟨before, after, split, rfl, known, nodup, -⟩ := firstRepeat_eq_some.mp found
      refine ⟨before, name, after, split, known.resolve_left (by simp), nodup, ?_⟩
      rw [Nat.zero_add]
    · rintro ⟨before, name', after, split, again, nodup, rfl⟩
      have same : firstRepeat [] 0 (instructions.map (·.name)) = some (before.length, name') :=
        firstRepeat_eq_some.mpr
          ⟨before, after, split, (Nat.zero_add _).symm, .inr again, nodup, by simp⟩
      cases found.symm.trans same
      rfl

private theorem names_of_mapM {values : List Json} {instructions : List Instruction}
    (read : values.zipIdx.mapM (fun item => ofJson item.2 item.1) = .ok instructions) :
    values.map (·.textAt? "name") = (instructions.map (·.name)).map some := by
  have each := forall₂_of_zipIdx (R := fun index value instruction =>
    ofJson index value = .ok instruction) (mapM_eq_ok_iff.mp read)
  clear read
  induction each with
  | nil => rfl
  | cons first _ ih =>
    obtain ⟨index, first⟩ := first
    obtain ⟨members, rfl, named, -⟩ := ofJson_eq_ok first
    have name : members.text? "name" = some _ := (Option.filter_eq_some_iff.mp named).1
    rw [List.map_cons, List.map_cons, List.map_cons, ih, ← name]
    rfl

end Instruction

namespace TypeDefinition

private theorem mapM_named_eq_error_iff {values : List Json} {e : DescriptorError} :
    (named values).mapM (fun item => ofMembers item.1 item.2) = .error e ↔
      Earliest Fault values e := by
  have refused : ∀ name members e, ofMembers name members = .error e ↔
      ∃ place, DeepType name (.object members) place ∧ e = .typeTooDeep place := by
    intro name members e
    rw [ofMembers, except_bind_eq_error, DataType.ofMembers_eq_error_iff]
    simp [pure, Except.pure]
  have fault_iff : ∀ members name, Json.Members.text? members "name" = some name →
      ∀ e, Fault (.object members) e ↔ ofMembers name members = .error e := by
    intro members name named e
    rw [refused]
    constructor
    · rintro ⟨named', deep⟩
      cases named.symm.trans named'
      exact ⟨_, deep, rfl⟩
    · rintro ⟨place, deep, rfl⟩
      exact .tooDeep named deep
  rw [mapM_eq_error_iff, named, List.filterMap_filterMap]
  refine (Earliest.filterMap_iff ?_ ?_).symm
  · rintro value dropped e ⟨named, -⟩
    cases value with
    | object members =>
      have named : Json.Members.text? members "name" = _ := named
      simp [Json.asObject?, named] at dropped
    | _ => cases named
  · rintro value ⟨name, members⟩ kept e
    cases value with
    | object members' =>
      simp only [Json.asObject?, Option.bind_some, Option.map_eq_some_iff, Prod.mk.injEq] at kept
      obtain ⟨_, named, rfl, rfl⟩ := kept
      exact fault_iff _ _ named e
    | _ => cases kept

end TypeDefinition

namespace Program

variable {document program : Json.Members} {values : List Json}

private theorem firstFailure_of_fails {check : DescriptorError → Prop}
    {rest : List (DescriptorError → Prop)}
    {e' : DescriptorError} (fails : check e') (e : DescriptorError) :
    FirstFailure (check :: rest) e ↔ check e :=
  Earliest.here_iff ⟨e', fails⟩

private theorem firstFailure_of_passes {check : DescriptorError → Prop}
    {rest : List (DescriptorError → Prop)} (passes : ∀ e, ¬ check e) (e : DescriptorError) :
    FirstFailure (check :: rest) e ↔ FirstFailure rest e :=
  Earliest.later_iff passes

theorem locate_of_notAList {value : Json} (found : document.get? "instructions" = some value)
    (not_list : ∀ items, value ≠ .list items) : locate document = .error .instructionsNotAList := by
  have no_list : document.list? "instructions" = none := by
    rw [Json.Members.list?_eq_none]
    intro items there
    rw [found] at there
    cases there
    exact not_list items rfl
  simp [locate, found, no_list]

theorem locate_of_list (sound : ∀ value, document.get? "instructions" = some value →
      ∃ items, value = .list items) :
    locate document =
      match ((candidates document).filter fun c => (c.list? "instructions").isSome).find?
          fun c => !(c.items "instructions").isEmpty with
      | some program => .ok program
      | none =>
        match (candidates document).filter fun c => (c.list? "instructions").isSome with
        | program :: _ => .ok program
        | [] => .error .missingInstructions := by
  have passed : ¬ ((document.get? "instructions").isSome ∧
      (document.list? "instructions").isNone) := by
    rintro ⟨there, no_list⟩
    obtain ⟨value, found⟩ := Option.isSome_iff_exists.mp there
    obtain ⟨items, rfl⟩ := sound value found
    rw [Json.Members.list?_eq_some.mpr found] at no_list
    cases no_list
  exact if_neg passed

private theorem listed_iff : (program.list? "instructions").isSome = true ↔
    ∃ items, program.get? "instructions" = some (.list items) := by
  simp [Option.isSome_iff_exists, Json.Members.list?_eq_some]

private theorem items_of_list {items : List Json}
    (found : program.get? "instructions" = some (.list items)) :
    program.items "instructions" = items := by
  simp [Json.Members.items, Json.Members.list?_eq_some.mpr found]

/-- A document whose own instructions are no other value has a selected candidate, or else no
candidate has a list. -/
theorem locate_eq (sound : ∀ value, document.get? "instructions" = some value →
      ∃ items, value = .list items) :
    (∃ program values, locate document = .ok program ∧ Selects document program values) ∨
      locate document = .error .missingInstructions ∧
        ∀ program ∈ candidates document, ∀ items,
          program.get? "instructions" ≠ some (.list items) := by
  rw [locate_of_list sound]
  cases filled : ((candidates document).filter fun c => (c.list? "instructions").isSome).find?
      fun c => !(c.items "instructions").isEmpty with
  | some program =>
    refine .inl ?_
    rw [List.find?_filter, List.find?_eq_some_iff_append] at filled
    obtain ⟨chosen, before, after, split, others⟩ := filled
    simp only [Bool.decide_and, Bool.and_eq_true, decide_eq_true_eq, listed_iff] at chosen
    obtain ⟨⟨values, found⟩, filled⟩ := chosen
    rw [items_of_list found] at filled
    refine ⟨program, values, rfl, .filled split found ?_ ?_⟩
    · rintro rfl
      simp at filled
    · intro other member items there
      have empty := others other member
      simpa [listed_iff, there, items_of_list there] using empty
  | none =>
    have empty : ∀ other ∈ candidates document, ∀ items,
        other.get? "instructions" = some (.list items) → items = [] := by
      intro other member items there
      have passed := List.find?_eq_none.mp filled other
        (List.mem_filter.mpr ⟨member, listed_iff.mpr ⟨items, there⟩⟩)
      simpa [items_of_list there] using passed
    cases listed : (candidates document).filter fun c => (c.list? "instructions").isSome with
    | nil =>
      refine .inr ⟨rfl, ?_⟩
      intro program member items there
      have chosen : program ∈ (candidates document).filter fun c =>
          (c.list? "instructions").isSome :=
        List.mem_filter.mpr ⟨member, listed_iff.mpr ⟨items, there⟩⟩
      rw [listed] at chosen
      cases chosen
    | cons program rest =>
      obtain ⟨before, after, split, others, chosen, -⟩ := List.filter_eq_cons_iff.mp listed
      obtain ⟨items, found⟩ := listed_iff.mp chosen
      obtain rfl := empty program (split ▸ by simp) items found
      refine .inl ⟨program, [], rfl, .empty split found ?_ ?_⟩
      · intro other member items there
        exact others other member (listed_iff.mpr ⟨items, there⟩)
      · intro other member items there
        exact empty other (split ▸ by simp [member]) items there

theorem Selects.found (h : Selects document program values) :
    program ∈ candidates document ∧ program.get? "instructions" = some (.list values) := by
  cases h with
  | filled split found _ _ => exact ⟨split ▸ by simp, found⟩
  | empty split found _ _ => exact ⟨split ▸ by simp, found⟩

private theorem first_unique {α : Type} {P : α → Prop} {items before after before' after' : List α}
    {a a' : α} (split : items = before ++ a :: after) (split' : items = before' ++ a' :: after')
    (holds : P a) (holds' : P a') (none : ∀ b ∈ before, ¬ P b) (none' : ∀ b ∈ before', ¬ P b) :
    a = a' := by
  classical
  have found : items.find? (fun b => P b) = some a :=
    List.find?_eq_some_iff_append.mpr ⟨by simpa, before, after, split, by simpa⟩
  have found' : items.find? (fun b => P b) = some a' :=
    List.find?_eq_some_iff_append.mpr ⟨by simpa, before', after', split', by simpa⟩
  exact Option.some.inj (found.symm.trans found')

private theorem filled_or_empty {before after : List Json.Members} {other : Json.Members}
    (split : candidates document = before ++ program :: after)
    (found : program.get? "instructions" = some (.list []))
    (before_none : ∀ other ∈ before, ∀ items, other.get? "instructions" ≠ some (.list items))
    (after_empty : ∀ other ∈ after, ∀ items,
      other.get? "instructions" = some (.list items) → items = [])
    (member : other ∈ candidates document)
    (there : other.get? "instructions" = some (.list values)) : values = [] := by
  rw [split, List.mem_append, List.mem_cons] at member
  rcases member with member | rfl | member
  · exact absurd there (before_none other member values)
  · cases found.symm.trans there
    rfl
  · exact after_empty other member values there

theorem Selects.unique {program' : Json.Members} {values' : List Json}
    (h : Selects document program values) (h' : Selects document program' values') :
    program = program' ∧ values = values' := by
  have same : program = program' := by
    cases h with
    | filled split found filled others =>
      cases h' with
      | filled split' found' filled' others' =>
        refine first_unique (P := fun c => ∃ items, c.get? "instructions" = some (.list items) ∧
          items ≠ []) split split' ⟨_, found, filled⟩ ⟨_, found', filled'⟩ ?_ ?_
        · rintro other member ⟨items, there, some_item⟩
          exact some_item (others other member items there)
        · rintro other member ⟨items, there, some_item⟩
          exact some_item (others' other member items there)
      | empty split' found' before_none after_empty =>
        have member : program ∈ candidates document := split ▸ by simp
        exact absurd (filled_or_empty split' found' before_none after_empty member found) filled
    | empty split found before_none after_empty =>
      cases h' with
      | filled split' found' filled' _ =>
        have member : program' ∈ candidates document := split' ▸ by simp
        exact absurd (filled_or_empty split found before_none after_empty member found') filled'
      | empty split' found' before_none' _ =>
        refine first_unique (P := fun c => ∃ items, c.get? "instructions" = some (.list items))
          split split' ⟨_, found⟩ ⟨_, found'⟩ ?_ ?_
        · rintro other member ⟨items, there⟩
          exact before_none other member items there
        · rintro other member ⟨items, there⟩
          exact before_none' other member items there
  subst same
  have found := h.found.2.symm.trans h'.found.2
  cases found
  exact ⟨rfl, rfl⟩

/-- Once every instruction is read, a repeated name in the document is one among the
instructions. -/
private theorem namesFault_iff {instructions : List Instruction} {e : DescriptorError}
    (selected : Selects document program values)
    (read : values.zipIdx.mapM (fun item => Instruction.ofJson item.2 item.1) = .ok instructions) :
    NamesFault (.object document) e ↔ Instruction.checkNames instructions = .error e := by
  have named := Instruction.names_of_mapM read
  have distinct_iff : ∀ {front : List Json} {names : List String},
      front.map (·.textAt? "name") = names.map some →
      (front.Pairwise (fun a b => a.textAt? "name" ≠ b.textAt? "name") ↔ names.Nodup) := by
    intro front names same
    have injective : Function.Injective (some : String → Option String) :=
      fun _ _ => Option.some.inj
    rw [← List.nodup_map_iff injective, ← same]
    exact List.pairwise_map.symm
  have member_iff : ∀ {front : List Json} {names : List String} {name : String},
      front.map (·.textAt? "name") = names.map some →
      ((∃ other ∈ front, other.textAt? "name" = some name) ↔ name ∈ names) := by
    intro front names name same
    rw [← List.mem_map, same]
    simp
  rw [Instruction.checkNames_eq_error_iff]
  constructor
  · rintro ⟨same, selected', called, again, distinct⟩
    cases same
    obtain ⟨-, rfl⟩ := selected.unique selected'
    rw [List.map_append, List.map_cons] at named
    obtain ⟨front, back, split, front_named, back_named⟩ := List.map_eq_append_iff.mp named.symm
    obtain ⟨name, rest, rfl, here, -⟩ := List.map_eq_cons_iff.mp back_named
    obtain rfl := Option.some.inj (here.trans called)
    refine ⟨front, name, rest, split, (member_iff front_named.symm).mp again,
      (distinct_iff front_named.symm).mp distinct, ?_⟩
    have lengths := congrArg List.length front_named
    simp only [List.length_map] at lengths
    rw [lengths]
  · rintro ⟨front, name, rest, split, again, distinct, rfl⟩
    rw [split, List.map_append, List.map_cons] at named
    obtain ⟨before, back, rfl, front_named, back_named⟩ := List.map_eq_append_iff.mp named
    obtain ⟨value, after, rfl, called, -⟩ := List.map_eq_cons_iff.mp back_named
    have lengths := congrArg List.length front_named
    simp only [List.length_map] at lengths
    rw [← lengths]
    exact .repeated rfl selected called ((member_iff front_named).mpr again)
      ((distinct_iff front_named).mpr distinct)

private theorem ofMembers_steps (document program : Json.Members) :
    ∃ made : List Instruction → List TypeDefinition → Program, ofMembers document program =
      (program.items "instructions").zipIdx.mapM (fun item => Instruction.ofJson item.2 item.1) >>=
        fun instructions => Instruction.checkNames instructions >>= fun _ =>
          (TypeDefinition.named (typesOf program)).mapM
            (fun item => TypeDefinition.ofMembers item.1 item.2) >>= fun types =>
              .ok (made instructions types) :=
  ⟨_, rfl⟩

/-- Reading the selected candidate fails at its first instruction with a fault, then at the first
repeated name, then at the first definition with a fault. -/
theorem ofMembers_eq_error_iff {e : DescriptorError}
    (selected : Selects document program values) :
    ofMembers document program = .error e ↔
      FirstFailure [InstructionsFault (.object document), NamesFault (.object document),
        TypesFault (.object document)] e := by
  have instructions_iff : ∀ e, InstructionsFault (.object document) e ↔
      values.zipIdx.mapM (fun item => Instruction.ofJson item.2 item.1) = .error e := by
    intro e
    rw [mapM_eq_error_iff]
    simp only [Instruction.ofJson_eq_error_iff]
    constructor
    · rintro ⟨same, selected', first⟩
      cases same
      obtain ⟨-, rfl⟩ := selected.unique selected'
      exact first
    · intro first
      exact .first rfl selected first
  have types_iff : ∀ e, TypesFault (.object document) e ↔
      (TypeDefinition.named (typesOf program)).mapM
        (fun item => TypeDefinition.ofMembers item.1 item.2) = .error e := by
    intro e
    rw [TypeDefinition.mapM_named_eq_error_iff]
    constructor
    · rintro ⟨same, selected', lists, first⟩
      cases same
      obtain ⟨rfl, -⟩ := selected.unique selected'
      obtain rfl := Json.Members.lists_iff.mp lists
      exact first
    · intro first
      exact .first rfl selected (Json.Members.lists_iff.mpr rfl) first
  obtain ⟨made, steps⟩ := ofMembers_steps document program
  rw [steps, items_of_list selected.found.2, except_bind_eq_error]
  cases read : values.zipIdx.mapM fun item => Instruction.ofJson item.2 item.1 with
  | error refused =>
    rw [firstFailure_of_fails ((instructions_iff refused).mpr read), instructions_iff, read]
    simp
  | ok instructions =>
    have sound : ∀ e, ¬ InstructionsFault (.object document) e := by
      intro e
      rw [instructions_iff, read]
      simp
    rw [firstFailure_of_passes sound]
    simp only [reduceCtorEq, Except.ok.injEq, exists_eq_left', false_or, except_bind_eq_error]
    cases checked : Instruction.checkNames instructions with
    | error refused =>
      rw [firstFailure_of_fails ((namesFault_iff selected read).mpr checked),
        namesFault_iff selected read, checked]
      simp
    | ok _ =>
      have distinct : ∀ e, ¬ NamesFault (.object document) e := by
        intro e
        rw [namesFault_iff selected read, checked]
        simp
      rw [firstFailure_of_passes distinct, FirstFailure, Earliest.singleton_iff, types_iff]
      simp

private theorem ofJson_eq_error_iff {document : Json} {e : DescriptorError} :
    ofJson document = .error e ↔ FirstFailure (checks document) e := by
  unfold checks
  cases object : document.asObject? with
  | none =>
    have not_object : ∀ members, document ≠ .object members := by
      rintro members rfl
      cases object
    have refused : ofJson document = .error .notAnObject := by
      simp [ofJson, object]
    rw [firstFailure_of_fails (.notAnObject not_object), refused]
    constructor
    · rintro ⟨⟩
      exact .notAnObject not_object
    · rintro ⟨⟩
      rfl
  | some members =>
    obtain rfl := Json.asObject?_eq_some.mp object
    have is_object : ∀ e, ¬ RootFault (.object members) e := by
      rintro e ⟨not_object⟩
      exact not_object members rfl
    have located : ofJson (.object members) = locate members >>= ofMembers members := rfl
    have own : Json.get? (.object members) "instructions" = members.get? "instructions" := rfl
    rw [firstFailure_of_passes is_object, located]
    by_cases sound : ∀ value, members.get? "instructions" = some value →
        ∃ items, value = .list items
    · have own_list : ∀ e, ¬ ListFault (.object members) e := by
        rintro e ⟨found, not_list⟩
        obtain ⟨items, rfl⟩ := sound _ (own ▸ found)
        exact not_list items rfl
      rw [firstFailure_of_passes own_list]
      rcases locate_eq sound with ⟨program, values, chosen, selected⟩ | ⟨refused, none⟩
      · have some_list : ∀ e, ¬ CandidateFault (.object members) e := by
          rintro e ⟨same, none⟩
          cases same
          exact none program selected.found.1 values selected.found.2
        rw [firstFailure_of_passes some_list, chosen, ← ofMembers_eq_error_iff selected]
        rfl
      · rw [firstFailure_of_fails (.missing rfl none), refused]
        constructor
        · rintro ⟨⟩
          exact .missing rfl none
        · rintro ⟨⟩
          rfl
    · simp only [not_forall, not_exists] at sound
      obtain ⟨value, found, not_list⟩ := sound
      rw [firstFailure_of_fails (.notAList (own ▸ found) not_list),
        locate_of_notAList found not_list]
      constructor
      · rintro ⟨⟩
        exact .notAList (own ▸ found) not_list
      · rintro ⟨⟩
        rfl

/-- A descriptor is refused exactly when a check fails, with the error of the first check that does,
and read when all pass. So a fault of a late instruction comes before an early repetition, a
repetition before a type that is too deep, and nothing else in a document makes it fail. -/
theorem refuses_first_fault (document : Json) :
    (∀ e, ofJson document = .error e ↔ FirstFailure (checks document) e) ∧
      ((∃ program, ofJson document = .ok program) ↔ ∀ check ∈ checks document, ∀ e, ¬ check e) := by
  refine ⟨fun e => ofJson_eq_error_iff, ?_⟩
  have fails_iff : (∃ e, ofJson document = .error e) ↔ ∃ check ∈ checks document, ∃ e, check e := by
    simp only [ofJson_eq_error_iff]
    exact Earliest.exists_iff
  have reads_iff : (∃ program, ofJson document = .ok program) ↔
      ¬ ∃ e, ofJson document = .error e := by
    cases ofJson document <;> simp
  rw [reads_iff, fails_iff]
  simp only [not_exists, not_and]

example :
    ofJson (.object [("instructions", .list [.object [("name", .text "a")],
      .object [("name", .text "a")], .object [("name", .text " ")]])]) =
        .error (.invalidInstruction 2 .unnamed) := by
  rfl

end Program

end UiScaffold
