import UiScaffold.Proofs.Descriptor.Traversal
import UiScaffold.Proofs.Form.Silence
import UiScaffold.Proofs.Json.Reordering

/-!
Reading documents that are equal up to the order of keys.

Each part of a descriptor is read by questions about single keys, so that it comes out the same for
both documents. The order of keys is seen in two places only: in the seeds of an account, which are
kept as they stand, and in the description of a type that is not understood, which no form shows.
-/

set_option autoImplicit false
set_option relaxedAutoImplicit false

namespace UiScaffold

open Json

/-- The same slot, up to the order of keys in its seeds. -/
structure AccountSlot.Reorders (slot slot' : AccountSlot) : Prop where
  name : slot.name = slot'.name
  docs : slot.docs = slot'.docs
  signer : slot.signer = slot'.signer
  writable : slot.writable = slot'.writable
  optional : slot.optional = slot'.optional
  role : slot.role = slot'.role
  seeds : Option.Rel (List.Forall₂ Json.Reorders) slot.seeds slot'.seeds

structure Form.Reorders (form form' : Form) : Prop where
  name : form.name = form'.name
  docs : form.docs = form'.docs
  controls : form.controls = form'.controls
  accounts : List.Forall₂ AccountSlot.Reorders form.accounts form'.accounts

/-- Two programs with the same name, version, address, account types and errors, and with the same
forms up to the order of keys in seeds. -/
structure Program.Reorders (program program' : Program) : Prop where
  name : program.name = program'.name
  version : program.version = program'.version
  address : program.address = program'.address
  accountTypes : program.accountTypes = program'.accountTypes
  errors : program.errors = program'.errors
  forms : List.Forall₂ Form.Reorders program.forms program'.forms

inductive Outline.Reorders : Outline → Outline → Prop
  | leaf {type type' : DataType} : type.silence = type'.silence →
      Reorders (.leaf type) (.leaf type')
  | transparent {inner inner' : Json} : inner.Reorders inner' →
      Reorders (.transparent inner) (.transparent inner')
  | option {inner inner' : Json} : inner.Reorders inner' → Reorders (.option inner) (.option inner')
  | list {item item' : Json} : item.Reorders item' → Reorders (.list item) (.list item')
  | struct {fields fields' : List Json} : List.Forall₂ Json.Reorders fields fields' →
      Reorders (.struct fields) (.struct fields')
  | tuple {items items' : List Json} : List.Forall₂ Json.Reorders items items' →
      Reorders (.tuple items) (.tuple items')

structure FieldOutline.Reorders (field field' : FieldOutline) : Prop where
  name : field.name = field'.name
  docs : field.docs = field'.docs
  optional : field.optional = field'.optional
  type : field.type.Reorders field'.type
  isNamed : field.isNamed = field'.isNamed

structure Instruction.Reorders (instruction instruction' : Instruction) : Prop where
  name : instruction.name = instruction'.name
  docs : instruction.docs = instruction'.docs
  accounts : List.Forall₂ AccountSlot.Reorders instruction.accounts instruction'.accounts
  arguments : instruction.arguments.map Argument.silence =
    instruction'.arguments.map Argument.silence

/-! ### Types -/

private theorem Docs.ofMembers_congr {members members' : Members} (h : members.Reorders members') :
    Docs.ofMembers members = Docs.ofMembers members' := by
  have line (value value' : Json) (same : value.Reorders value') :
      ofJson value = ofJson value' := by
    cases same with
    | list long each =>
      have items := List.forall₂_iff_zip.mpr ⟨long, fun member => each _ member⟩
      rw [ofJson, ofJson, filterMap_eq_of_forall₂ items fun _ _ item => item.asText?]
    | null | bool _ | number _ | text _ | object _ _ _ => rfl
  rw [ofMembers, ofMembers, map_eq_of_rel (h.get? "docs") line]

namespace Outline

variable {value value' : Json} {members members' : Members}

private theorem reference_eq (h : value.Reorders value') : reference value = reference value' := by
  have name := h.textAt? "name"
  cases h with
  | text content => rfl
  | null | bool _ | number _ | list _ _ | object _ _ _ =>
    simp only [reference, name]

private theorem variantName_eq (index : Nat) (h : value.Reorders value') :
    variantName index value = variantName index value' := by
  have name := h.textAt? "name"
  cases h with
  | text content => rfl
  | null | bool _ | number _ | list _ _ | object _ _ _ =>
    simp only [variantName, name]

private theorem variantNames_eq {items items' : List Json}
    (h : List.Forall₂ Json.Reorders items items') : variantNames items = variantNames items' := by
  refine map_eq_of_forall₂ (forall₂_zipIdx h 0) ?_
  rintro ⟨variant, index⟩ ⟨variant', _⟩ ⟨same, rfl⟩
  exact variantName_eq index same

private theorem wrap_reorders (h : members.Reorders members') (key : String)
    {wrapper : Json → Outline} {otherwise : DataType → DataType}
    (wraps : ∀ inner inner', inner.Reorders inner' → Reorders (wrapper inner) (wrapper inner')) :
    Reorders (wrap members key wrapper otherwise) (wrap members' key wrapper otherwise) := by
  rcases rel_cases (h.get? key) with ⟨inner, inner', found, found', same⟩ | ⟨absent, absent'⟩
  · simp only [wrap, found, found']
    exact wraps inner inner' same
  · simp only [wrap, absent, absent']
    exact .leaf rfl

private theorem ofArray_reorders (h : value.Reorders value') :
    Reorders (ofArray value) (ofArray value') := by
  cases h with
  | @list items items' long each =>
    have related := List.forall₂_iff_zip.mpr ⟨long, fun member => each _ member⟩
    cases related with
    | nil => exact .leaf rfl
    | cons first _ => exact .list first
  | null => exact .list .null
  | bool flag => exact .list (.bool flag)
  | number value => exact .list (.number value)
  | text content => exact .list (.text content)
  | object nodup keys values => exact .list (.object nodup keys values)

private theorem firstOf_rel (h : members.Reorders members') (keys : List String) :
    Option.Rel Json.Reorders (firstOf members keys) (firstOf members' keys) := by
  induction keys with
  | nil => exact .none
  | cons key rest ih =>
    simp only [firstOf, List.findSome?_cons] at ih ⊢
    rcases rel_cases (h.get? key) with ⟨_, _, found, found', same⟩ | ⟨absent, absent'⟩
    · simp only [found, found']
      exact .some same
    · simp only [absent, absent']
      exact ih

private theorem ofForm_reorders (h : members.Reorders members') :
    Reorders (ofForm members) (ofForm members') := by
  unfold ofForm
  rcases rel_cases (firstOf_rel h ["option", "coption"]) with
    ⟨_, _, found, found', same⟩ | ⟨absent, absent'⟩
  · simp only [found, found']
    exact .option same
  simp only [absent, absent']
  rcases rel_cases (firstOf_rel h ["vec", "hashSet", "bTreeSet"]) with
    ⟨_, _, found, found', same⟩ | ⟨absent, absent'⟩
  · simp only [found, found']
    exact .list same
  simp only [absent, absent']
  rcases rel_cases (h.get? "array") with ⟨_, _, found, found', same⟩ | ⟨absent, absent'⟩
  · simp only [found, found']
    exact ofArray_reorders same
  simp only [absent, absent']
  rcases rel_cases (h.get? "defined") with ⟨_, _, found, found', same⟩ | ⟨absent, absent'⟩
  · simp only [found, found', reference_eq same]
    exact .leaf rfl
  simp only [absent, absent']
  rcases rel_cases (h.get? "struct") with ⟨_, _, found, found', same⟩ | ⟨absent, absent'⟩
  · simp only [found, found']
    exact .struct (same.itemsAt "fields")
  simp only [absent, absent']
  rcases rel_cases (h.list? "tuple") with ⟨_, _, found, found', same⟩ | ⟨absent, absent'⟩
  · simp only [found, found']
    exact .tuple same
  simp only [absent, absent', h.text? "name"]
  split
  · exact .leaf rfl
  · -- The description lists the keys in their order.
    exact .leaf rfl

private theorem ofKind_reorders (kind : String) (h : members.Reorders members') :
    Reorders (ofKind kind members) (ofKind kind members') := by
  have name : reference ((members.get? "name").getD .null) =
      reference ((members'.get? "name").getD .null) :=
    reference_eq (rel_getD (h.get? "name") .null)
  have variants := variantNames_eq (h.items "variants")
  unfold ofKind
  rw [h.text? "format", variants, name]
  split
  -- A kind asks for one member: for what it wraps, for parts, or for nothing that has keys.
  all_goals first
    | exact .leaf rfl
    | exact wrap_reorders h _ fun _ _ => .option
    | exact wrap_reorders h _ fun _ _ => .list
    | exact wrap_reorders h _ fun _ _ => .transparent
    | exact .struct (h.items _)
    | exact .tuple (h.items _)

private theorem ofJson_reorders (h : value.Reorders value') :
    Reorders (ofJson value) (ofJson value') := by
  cases h with
  | @object members members' nodup keys values =>
    have related : members.Reorders members' := ⟨nodup, keys, values⟩
    have kind := related.text? "kind"
    rw [ofJson, ofJson, kind]
    split
    · exact ofKind_reorders _ related
    · exact ofForm_reorders related
  | null | bool _ | number _ | text _ | list _ _ => exact .leaf rfl

end Outline

private theorem isOptional_eq {members members' : Members} (h : members.Reorders members') :
    isOptional members = isOptional members' := h.anyTrue _

private theorem FieldOutline.ofJson_reorders (index : Nat) {field field' : Json}
    (h : field.Reorders field') : Reorders (ofJson index field) (ofJson index field') := by
  have members : (field.asObject?.getD []).Reorders (field'.asObject?.getD []) :=
    rel_getD h.asObject? .nil
  have bare : Reorders ⟨index.repr, [], false, field, false⟩
      ⟨index.repr, [], false, field', false⟩ :=
    ⟨rfl, rfl, rfl, h, rfl⟩
  have name := h.textAt? "name"
  cases named : field.textAt? "name" with
  | none =>
    rw [named] at name
    simp only [ofJson, named, ← name]
    exact bare
  | some text =>
    rw [named] at name
    rcases rel_cases (h.get? "type") with ⟨_, _, found, found', same⟩ | ⟨absent, absent'⟩
    · simp only [ofJson, named, ← name, found, found']
      exact ⟨rfl, Docs.ofMembers_congr members, isOptional_eq members, same, rfl⟩
    · simp only [ofJson, named, ← name, absent, absent']
      exact bare

namespace DataType

private theorem readFields_matches {read : String → Json → Except TooDeep DataType}
    (reads : ∀ context value value', value.Reorders value' →
      Matches (fun type type' => type.silence = type'.silence) (read context value)
        (read context value')) (context : String) {fields fields' : List Json}
    (h : List.Forall₂ Json.Reorders fields fields') :
    Matches (fun items items' => items.map Argument.silence = items'.map Argument.silence)
      (readFields read context fields) (readFields read context fields') := by
  have each : Matches (List.Forall₂ fun a a' : Argument => a.silence = a'.silence)
      (readFields read context fields) (readFields read context fields') := by
    refine .mapM (forall₂_zipIdx h 0) ?_
    rintro ⟨field, index⟩ ⟨field', _⟩ ⟨same, rfl⟩
    have outline := FieldOutline.ofJson_reorders index same
    have place : (FieldOutline.ofJson index field).context context =
        (FieldOutline.ofJson index field').context context := by
      rw [FieldOutline.context, FieldOutline.context, outline.isNamed, outline.name]
    simp only [place, outline.name, outline.docs, outline.optional]
    refine (reads _ _ _ outline.type).bind fun type type' alike => .ok ?_
    rw [Argument.silence, Argument.silence, alike]
  exact each.imp fun _ _ alike => map_eq_of_forall₂ alike fun _ _ => id

private theorem readAt_matches (levels : Nat) (context : String) {value value' : Json}
    (h : value.Reorders value') :
    Matches (fun type type' => type.silence = type'.silence) (readAt levels context value)
      (readAt levels context value') := by
  induction levels generalizing context value value' with
  | zero => exact .error _
  | succ levels ih =>
    have outlined := Outline.ofJson_reorders h
    rw [readAt, readAt]
    generalize Outline.ofJson value = outline at outlined ⊢
    generalize Outline.ofJson value' = outline' at outlined ⊢
    cases outlined with
    | leaf alike => exact .ok alike
    | transparent inner => exact ih context inner
    | option inner =>
      refine (ih context inner).map fun _ _ alike => ?_
      rw [silence, silence, alike]
    | list item =>
      refine (ih context item).map fun _ _ alike => ?_
      rw [silence, silence, alike]
    | struct fields =>
      refine (readFields_matches (fun context _ _ => ih context) context fields).map
        fun _ _ alike => ?_
      rw [silence, silence, silenceFields_eq_map, silenceFields_eq_map, alike]
    | tuple items =>
      refine (Matches.mapM items fun _ _ => ih context).map fun _ _ alike => ?_
      rw [silence, silence, silenceItems_eq_map, silenceItems_eq_map,
        map_eq_of_forall₂ alike fun _ _ => id]

private theorem orRefuse_matches {α : Type} {R : α → α → Prop} {x y : Except TooDeep α}
    (h : Matches R x y) : Matches R (TooDeep.orRefuse x) (TooDeep.orRefuse y) := by
  cases h with
  | error e => exact .error _
  | ok related => exact .ok related

private theorem ofMembers_matches (context : String) {members members' : Members}
    (h : members.Reorders members') :
    Matches (fun type type' => type.silence = type'.silence) (ofMembers context members)
      (ofMembers context members') := by
  rcases rel_cases (h.get? "type") with ⟨_, _, found, found', same⟩ | ⟨absent, absent'⟩
  · simp only [ofMembers, found, found', read]
    exact orRefuse_matches (readAt_matches (maxTypeDepth + 1) context same)
  · simp only [ofMembers, absent, absent']
    exact .ok rfl

end DataType

/-! ### Instructions -/

namespace AccountSlot

private theorem ofMembers_reorders {members members' : Members} (h : members.Reorders members') :
    Reorders (ofMembers members) (ofMembers members') where
  name := congrArg (·.getD unnamed) (h.text? "name")
  docs := Docs.ofMembers_congr h
  signer := by
    have flag (value value' : Json) (same : value.Reorders value') :
        isSigner value = isSigner value' := by
      cases same <;> rfl
    have found := map_eq_of_rel (Outline.firstOf_rel h ["isSigner", "signer"]) flag
    exact congrArg (·.getD false) found
  writable := h.anyTrue _
  optional := h.anyTrue _
  role := h.text? "role"
  seeds := by
    have derived := rel_bind (h.get? "pda") fun _ _ same => same.get? "seeds"
    exact rel_bind (rel_orElse (h.get? "seeds") derived) fun _ _ same => same.asList?

private theorem flattenAll_reorders {entries entries' : List Json}
    (h : List.Forall₂ (fun entry entry' => List.Forall₂ Reorders (flatten entry) (flatten entry'))
      entries entries') : List.Forall₂ Reorders (flattenAll entries) (flattenAll entries') := by
  induction h with
  | nil => exact .nil
  | cons first _ ih => exact List.rel_append first ih

private theorem flatten_reorders {value value' : Json} (h : value.Reorders value') :
    List.Forall₂ Reorders (flatten value) (flatten value') ∧
      List.Forall₂ Reorders (flattenAll (value.asList?.getD []))
        (flattenAll (value'.asList?.getD [])) := by
  induction h with
  | null | bool _ | number _ | text _ => exact ⟨.nil, .nil⟩
  | list long _ ih =>
    exact ⟨.nil, flattenAll_reorders
      (List.forall₂_iff_zip.mpr ⟨long, fun member => (ih _ member).1⟩)⟩
  | @object members members' nodup keys values ih =>
    refine ⟨?_, .nil⟩
    have related : members.Reorders members' := ⟨nodup, keys, values⟩
    rw [flatten, flatten, groupIn_eq, groupIn_eq]
    rcases rel_cases (related.list? "accounts") with
      ⟨items, items', found, found', -⟩ | ⟨absent, absent'⟩
    · have group := Members.rel_get? keys ih "accounts"
      rw [Members.list?_eq_some.mp found, Members.list?_eq_some.mp found'] at group
      simp only [found, found', Option.map_some]
      cases group with
      | some both => exact both.2
    · simp only [absent, absent', Option.map_none]
      exact .cons (ofMembers_reorders related) .nil

end AccountSlot

namespace Argument

private theorem ofJson_matches (instruction : String) {value value' : Json}
    (h : value.Reorders value') :
    Matches (fun a a' => a.silence = a'.silence) (ofJson instruction value)
      (ofJson instruction value') := by
  have members : (membersOf value).Reorders (membersOf value') := rel_getD h.asObject? .nil
  have name : nameOf value = nameOf value' := congrArg (·.getD unnamed) (members.text? "name")
  simp only [ofJson, name, Docs.ofMembers_congr members, isOptional_eq members]
  refine (DataType.ofMembers_matches _ members).bind fun type type' alike => .ok ?_
  rw [silence, silence, alike]

end Argument

namespace Instruction

private theorem ofJson_matches (index : Nat) {value value' : Json} (h : value.Reorders value') :
    Matches Reorders (ofJson index value) (ofJson index value') := by
  unfold ofJson
  rcases rel_cases h.asObject? with ⟨members, members', object, object', same⟩ | ⟨none, none'⟩
  swap
  · simp only [none, none']
    exact .error _
  have name : nameOf? members = nameOf? members' := by
    rw [nameOf?, nameOf?, same.text? "name"]
  simp only [object, object', name]
  cases nameOf? members' with
  | none => exact .error _
  | some name =>
    have arguments : List.Forall₂ Json.Reorders (argumentsOf members) (argumentsOf members') :=
      rel_getD (same.list? "args") (same.items "arguments")
    have accounts := AccountSlot.flattenAll_reorders
      ((same.items "accounts").imp fun _ _ entry => (AccountSlot.flatten_reorders entry).1)
    refine (Matches.mapM arguments fun _ _ => Argument.ofJson_matches name).bind
      fun read read' alike => .ok ?_
    exact ⟨rfl, Docs.ofMembers_congr same, accounts, map_eq_of_forall₂ alike fun _ _ => id⟩

private theorem checkNames_eq {instructions instructions' : List Instruction}
    (h : List.Forall₂ Reorders instructions instructions') :
    checkNames instructions = checkNames instructions' := by
  rw [checkNames, checkNames, map_eq_of_forall₂ h fun _ _ same => same.name]

private theorem form_reorders {types types' : List TypeDefinition}
    {instruction instruction' : Instruction}
    (same_types : types.map TypeDefinition.silence = types'.map TypeDefinition.silence)
    (h : instruction.Reorders instruction') :
    Form.Reorders (.ofInstruction types instruction) (.ofInstruction types' instruction') where
  name := h.name
  docs := h.docs
  controls := by
    refine Control.ofArguments_eq_of_silence same_types ?_
    have shown (arguments : List Argument) :
        (arguments.filter fun a => !Text.sameFolded a.name discriminator).map Argument.silence =
          (arguments.map Argument.silence).filter fun a =>
            !Text.sameFolded a.name discriminator := by
      have blind : (fun a : Argument => !Text.sameFolded a.name discriminator) ∘ Argument.silence =
          fun a => !Text.sameFolded a.name discriminator := by
        funext a
        cases a
        rfl
      rw [List.filter_map, blind]
    rw [shown, shown, h.arguments]
  accounts := h.accounts

end Instruction

/-! ### Programs -/

private theorem TypeDefinition.named_rel {values values' : List Json}
    (h : List.Forall₂ Json.Reorders values values') :
    List.Forall₂ (fun item item' => item.1 = item'.1 ∧ Members.Reorders item.2 item'.2)
      (named values) (named values') := by
  have objects := List.rel_filterMap (fun _ _ same => same.asObject?) h
  refine List.rel_filterMap (fun members members' same => ?_) objects
  simp only [same.text? "name"]
  cases members'.text? "name" with
  | none => exact .none
  | some name => exact .some ⟨rfl, same⟩

private theorem TypeDefinition.ofMembers_matches (name : String) {members members' : Members}
    (h : members.Reorders members') :
    Matches (fun definition definition' => definition.silence = definition'.silence)
      (ofMembers name members) (ofMembers name members') := by
  rw [ofMembers, ofMembers, Docs.ofMembers_congr h]
  refine (DataType.ofMembers_matches name h).bind fun type type' alike => .ok ?_
  rw [silence, silence, alike]

private theorem ErrorCode.ofMembers?_congr {members members' : Members}
    (h : members.Reorders members') : ofMembers? members = ofMembers? members' := by
  have code := bind_eq_of_rel (h.get? "code") fun _ _ same => same.asNat?
  simp only [ofMembers?, code, h.text? "name", h.text? "msg", h.text? "message"]

namespace Program

variable {document document' program program' : Members}

private theorem candidates_rel (h : document.Reorders document') :
    List.Forall₂ Members.Reorders (candidates document) (candidates document') := by
  have inner := rel_bind (h.get? "program") fun _ _ same => same.asObject?
  have first := rel_bind (rel_head? (h.items "programs")) fun _ _ same => same.asObject?
  exact .cons h (List.rel_append (rel_toList inner) (rel_toList first))

private theorem locate_matches (h : document.Reorders document') :
    Matches Members.Reorders (locate document) (locate document') := by
  have list (c c' : Members) (same : c.Reorders c') := same.list? "instructions"
  have listed := List.rel_filter (p := fun c => (c.list? "instructions").isSome)
    (q := fun c => (c.list? "instructions").isSome)
    (fun c c' same => Bool.eq_iff_iff.mp (isSome_eq_of_rel (list c c' same))) (candidates_rel h)
  have filled := rel_find? listed fun c c' (same : Members.Reorders c c') =>
    congrArg not (isEmpty_eq_of_forall₂ (same.items "instructions"))
  have present := isSome_eq_of_rel (h.get? "instructions")
  have absent : (document.list? "instructions").isNone =
      (document'.list? "instructions").isNone := by
    rw [← Option.not_isSome, ← Option.not_isSome, isSome_eq_of_rel (list _ _ h)]
  simp only [locate, present, absent]
  split
  · exact .error _
  rcases rel_cases filled with ⟨_, _, found, found', same⟩ | ⟨none, none'⟩
  · simp only [found, found']
    exact .ok same
  · simp only [none, none']
    generalize (candidates document).filter _ = cs at listed ⊢
    generalize (candidates document').filter _ = cs' at listed ⊢
    cases listed with
    | nil => exact .error _
    | cons first _ => exact .ok first

private theorem typesOf_rel (h : program.Reorders program') :
    List.Forall₂ Json.Reorders (typesOf program) (typesOf program') :=
  rel_getD (h.list? "types") (h.items "definedTypes")

private theorem metadata_rel (h : program.Reorders program') :
    Members.Reorders (((program.get? "metadata").bind Json.asObject?).getD [])
      (((program'.get? "metadata").bind Json.asObject?).getD []) :=
  rel_getD (rel_bind (h.get? "metadata") fun _ _ same => same.asObject?) .nil

private theorem ofMembers_matches (outer : document.Reorders document')
    (h : program.Reorders program') :
    Matches Reorders (ofMembers document program) (ofMembers document' program') := by
  have metadata := metadata_rel h
  unfold ofMembers
  refine (Matches.mapM (R := Instruction.Reorders)
    (forall₂_zipIdx (h.items "instructions") 0) ?_).bind fun instructions instructions' same => ?_
  · rintro ⟨value, index⟩ ⟨value', _⟩ ⟨same, rfl⟩
    exact Instruction.ofJson_matches index same
  rw [Instruction.checkNames_eq same]
  cases Instruction.checkNames instructions' with
  | error e => exact .error e
  | ok _ =>
    refine (Matches.mapM
      (R := fun definition definition' => definition.silence = definition'.silence)
      (TypeDefinition.named_rel (typesOf_rel h)) ?_).bind fun types types' alike => .ok ?_
    · rintro ⟨name, members⟩ ⟨_, members'⟩ ⟨rfl, same⟩
      exact TypeDefinition.ofMembers_matches name same
    have same_types : types.map TypeDefinition.silence = types'.map TypeDefinition.silence :=
      map_eq_of_forall₂ alike fun _ _ => id
    have errors := List.rel_filterMap (fun _ _ same => same.asObject?) (h.items "errors")
    exact
      { name := by simp only [firstText, List.findSome?, h.text?, metadata.text?, outer.text?]
        version := by simp only [firstText, List.findSome?, h.text?, metadata.text?]
        address := by simp only [firstText, List.findSome?, h.text?, metadata.text?]
        accountTypes := filterMap_eq_of_forall₂ (h.items "accounts") fun _ _ same =>
          same.textAt? "name"
        errors := filterMap_eq_of_forall₂ errors fun _ _ same => ErrorCode.ofMembers?_congr same
        forms := by
          rw [forms, forms, List.forall₂_map_left_iff, List.forall₂_map_right_iff]
          exact same.imp fun _ _ => Instruction.form_reorders same_types }

private theorem ofJson_matches {document document' : Json} (h : document.Reorders document') :
    Matches Reorders (ofJson document) (ofJson document') := by
  unfold ofJson
  rcases rel_cases h.asObject? with ⟨members, members', object, object', same⟩ | ⟨none, none'⟩
  · simp only [object, object']
    exact (locate_matches same).bind fun _ _ => ofMembers_matches same
  · simp only [none, none']
    exact .error _

/-- Documents that are equal up to the order of keys are refused with the same error, or both
accepted, with the same name, version, address, account types and errors, and with the same forms up
to the order of keys in seeds. -/
theorem key_order_does_not_matter {document document' : Json} (h : document.Reorders document') :
    (∃ e, ofJson document = .error e ∧ ofJson document' = .error e) ∨
      ∃ program program', ofJson document = .ok program ∧ ofJson document' = .ok program' ∧
        Reorders program program' := by
  have matched := ofJson_matches h
  generalize ofJson document = read at matched ⊢
  generalize ofJson document' = read' at matched ⊢
  cases matched with
  | error e => exact .inl ⟨e, rfl, rfl⟩
  | ok same => exact .inr ⟨_, _, rfl, rfl, same⟩

/-- A descriptor with seeds and with a type that is not understood, and the same with the members of
each object the other way round. -/
theorem key_order_does_not_matter_of_swapped :
    let account : Json := .object [("name", .text "vault"),
      ("seeds", .list [.object [("kind", .text "const"), ("value", .text "v")]])]
    let account' : Json := .object [("seeds", .list [.object [("value", .text "v"),
      ("kind", .text "const")]]), ("name", .text "vault")]
    let argument : Json := .object [("name", .text "how"),
      ("type", .object [("map", .text "u8"), ("to", .text "u64")])]
    let argument' : Json := .object [("type", .object [("to", .text "u64"), ("map", .text "u8")]),
      ("name", .text "how")]
    let document : Json := .object [("name", .text "bank"), ("instructions", .list
      [.object [("name", .text "open"), ("accounts", .list [account])],
        .object [("name", .text "close"), ("args", .list [argument])]])]
    let document' : Json := .object [("instructions", .list
      [.object [("accounts", .list [account']), ("name", .text "open")],
        .object [("args", .list [argument']), ("name", .text "close")]]), ("name", .text "bank")]
    document.Reorders document' ∧ ∃ program program', ofJson document = .ok program ∧
      ofJson document' = .ok program' ∧ Reorders program program' := by
  intro account account' argument argument' document document'
  have accounts : account.Reorders account' :=
    .swap (by decide) (.text _) (.of_items (.cons (.swap (by decide) (.text _) (.text _)) .nil))
  have arguments : argument.Reorders argument' :=
    .swap (by decide) (.text _) (.swap (by decide) (.text _) (.text _))
  have swapped : document.Reorders document' :=
    .swap (by decide) (.text _) (.of_items (.cons
      (.swap (by decide) (.text _) (.of_items (.cons accounts .nil))) (.cons
      (.swap (by decide) (.text _) (.of_items (.cons arguments .nil))) .nil)))
  have accepted : (ofJson document).toOption.isSome = true := by decide +kernel
  refine ⟨swapped, ?_⟩
  rcases key_order_does_not_matter swapped with ⟨e, refused, -⟩ | both
  · rw [refused] at accepted
    cases accepted
  · exact both

end Program

end UiScaffold
