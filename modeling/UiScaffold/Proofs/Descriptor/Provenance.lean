import UiScaffold.Form.Lowering
import UiScaffold.Proofs.Descriptor.Traversal
import UiScaffold.Proofs.Json.Members

/-!
Where the parts of a form come from.

Every instruction of the object that describes a program has its form, in the order of declaration.
The controls of the form stand for the arguments of that instruction, but for the discriminator, and
its accounts for the account objects in the instruction's groups, depth first. Nothing is lost,
doubled or moved on the way from the document.
-/

set_option autoImplicit false
set_option relaxedAutoImplicit false

namespace UiScaffold

/-- The arguments that an instruction declares: the list under `args`, or else the one under
`arguments`. -/
inductive Instruction.DeclaresArguments (members : Json.Members) : List Json → Prop
  | args {values : List Json} :
      members.get? "args" = some (.list values) → DeclaresArguments members values
  | arguments {values : List Json} :
      (∀ others, members.get? "args" ≠ some (.list others)) →
      members.get? "arguments" = some (.list values) → DeclaresArguments members values
  | neither :
      (∀ others, members.get? "args" ≠ some (.list others)) →
      (∀ others, members.get? "arguments" ≠ some (.list others)) → DeclaresArguments members []

namespace AccountSlot

/-- The account objects that a list of entries declares, depth first: a group stands for what it
holds, and an entry that is no object for nothing. -/
inductive Declares : List Json → List Json.Members → Prop
  | none : Declares [] []
  | other {entry : Json} {entries : List Json} {objects : List Json.Members} :
      (∀ members, entry ≠ .object members) → Declares entries objects →
      Declares (entry :: entries) objects
  | group {members : Json.Members} {items entries : List Json}
      {inner objects : List Json.Members} :
      members.get? "accounts" = some (.list items) → Declares items inner →
      Declares entries objects → Declares (.object members :: entries) (inner ++ objects)
  | account {members : Json.Members} {entries : List Json} {objects : List Json.Members} :
      (∀ items, members.get? "accounts" ≠ some (.list items)) → Declares entries objects →
      Declares (.object members :: entries) (members :: objects)

/-- A slot with the name, flags, role, seeds and documentation of an account object. -/
structure Carries (members : Json.Members) (slot : AccountSlot) : Prop where
  name : members.text? "name" = some slot.name ∨
    members.text? "name" = none ∧ slot.name = "unknown"
  signer : slot.signer = true ↔ ∃ value, (value = .bool true ∨ value = .text "either") ∧
    (members.get? "isSigner" = some value ∨
      members.get? "isSigner" = none ∧ members.get? "signer" = some value)
  writable : slot.writable = true ↔
    ∃ key ∈ ["isMut", "isWritable", "writable"], members.get? key = some (.bool true)
  optional : slot.optional = true ↔
    ∃ key ∈ ["optional", "isOptional"], members.get? key = some (.bool true)
  role : ∀ text, slot.role = some text ↔ members.get? "role" = some (.text text)
  seeds : ∀ items, slot.seeds = some items ↔
    members.get? "seeds" = some (.list items) ∨
      members.get? "seeds" = none ∧
        ∃ pda, members.get? "pda" = some pda ∧ pda.get? "seeds" = some (.list items)
  docs : slot.docs = Docs.ofMembers members

end AccountSlot

/-- Whether an argument is the discriminator, up to the case of ASCII letters. -/
def Argument.isDiscriminator (value : Json) : Bool :=
  Text.sameFolded (Argument.nameOf value) discriminator

/-- A control with the name, the documentation, the flag and the type of an argument. -/
structure Control.Shows (types : List TypeDefinition) (value : Json) (control : Control) :
    Prop where
  name : control.name = Argument.nameOf value
  docs : control.docs = Docs.ofMembers (Argument.membersOf value)
  typed : ∃ context type,
    DataType.ofMembers context (Argument.membersOf value) = .ok type ∧
    control.required = !(isOptional (Argument.membersOf value) || type.isOption) ∧
    control.widget = Widget.ofType type ∧
    control.children = Control.childrenOf types type ∧
    control.choices = choicesOf types type

/-- A form with the name, the arguments and the accounts of an instruction object. -/
structure Form.Shows (types : List TypeDefinition) (members : Json.Members) (form : Form) :
    Prop where
  name : members.text? "name" = some form.name
  docs : form.docs = Docs.ofMembers members
  controls : ∃ values, Instruction.DeclaresArguments members values ∧
    List.Forall₂ (Control.Shows types) (values.filter fun value => !Argument.isDiscriminator value)
      form.controls
  accounts : ∃ objects, AccountSlot.Declares (members.items "accounts") objects ∧
    List.Forall₂ AccountSlot.Carries objects form.accounts

namespace AccountSlot

theorem isSigner_eq_true {value : Json} :
    isSigner value = true ↔ value = .bool true ∨ value = .text "either" := by
  cases value <;> simp [isSigner]

private theorem carries_ofMembers (members : Json.Members) :
    Carries members (ofMembers members) where
  name := by
    cases h : members.text? "name" with
    | none => exact .inr ⟨rfl, by simp [ofMembers, h, unnamed]⟩
    | some name => exact .inl (by simp [ofMembers, h])
  signer := by
    cases h : members.get? "isSigner" with
    | some value =>
      simp [ofMembers, Outline.firstOf, h, isSigner_eq_true]
    | none =>
      cases h' : members.get? "signer" with
      | some value => simp [ofMembers, Outline.firstOf, h, h', isSigner_eq_true]
      | none => simp [ofMembers, Outline.firstOf, h, h']
  writable := by
    simp [ofMembers, Json.Members.anyTrue, Json.Members.isTrue_eq_true]
  optional := by
    simp [ofMembers, Json.Members.anyTrue, Json.Members.isTrue_eq_true]
  role := by
    intro text
    exact Json.Members.text?_eq_some
  seeds := by
    intro items
    cases h : members.get? "seeds" with
    | some value => simp [ofMembers, h, Json.asList?_eq_some]
    | none => simp [ofMembers, h, Option.bind_eq_some_iff, Json.asList?_eq_some]
  docs := rfl

mutual

private theorem declares_entry : (entry : Json) →
    ∃ inner, flatten entry = inner.map ofMembers ∧
      ∀ entries objects, Declares entries objects →
        Declares (entry :: entries) (inner ++ objects)
  | .object members => by
    obtain ⟨inner, group⟩ := declares_group members
    cases hl : Json.Members.list? members "accounts" with
    | none =>
      refine ⟨[members], by simp [flatten, groupIn_eq, hl], ?_⟩
      intro entries objects h
      exact .account (Json.Members.list?_eq_none.mp hl) h
    | some items =>
      obtain ⟨hf, hd⟩ := group items hl
      refine ⟨inner, by simpa [flatten, groupIn_eq, hl] using hf, ?_⟩
      intro entries objects h
      exact .group (Json.Members.list?_eq_some.mp hl) hd h
  | .null | .bool _ | .number _ | .text _ | .list _ =>
    ⟨[], by simp [flatten], fun _ _ h => .other (by simp) h⟩

private theorem declares_group : (members : List (String × Json)) →
    ∃ inner, ∀ items, Json.Members.list? members "accounts" = some items →
      flattenAll items = inner.map ofMembers ∧ Declares items inner
  | [] => ⟨[], by simp [Json.Members.list?]⟩
  | (key, value) :: rest => by
    by_cases hk : "accounts" = key
    · cases value with
      | list items =>
        obtain ⟨inner, hd, hf⟩ := declares_all items
        refine ⟨inner, fun others h => ?_⟩
        have same : items = others := by
          simpa [Json.Members.list?_eq_some, Json.Members.get?_cons, hk] using h
        exact same ▸ ⟨hf, hd⟩
      | null | bool _ | number _ | text _ | object _ =>
        exact ⟨[], by simp [Json.Members.list?_eq_some, Json.Members.get?_cons, hk]⟩
    · obtain ⟨inner, group⟩ := declares_group rest
      refine ⟨inner, fun items h => group items ?_⟩
      rw [Json.Members.list?_eq_some, Json.Members.get?_cons, if_neg hk] at h
      exact Json.Members.list?_eq_some.mpr h

private theorem declares_all : (entries : List Json) →
    ∃ objects, Declares entries objects ∧ flattenAll entries = objects.map ofMembers
  | [] => ⟨[], .none, rfl⟩
  | entry :: entries => by
    obtain ⟨inner, hf, hd⟩ := declares_entry entry
    obtain ⟨objects, ho, hr⟩ := declares_all entries
    exact ⟨inner ++ objects, hd entries objects ho, by simp [flattenAll, hf, hr]⟩

end

/-- The accounts that are read are those that are declared, each with what its object says. -/
theorem exists_declares (entries : List Json) :
    ∃ objects, Declares entries objects ∧
      List.Forall₂ Carries objects (flattenAll entries) := by
  obtain ⟨objects, declared, flat⟩ := declares_all entries
  refine ⟨objects, declared, ?_⟩
  rw [flat, List.forall₂_map_right_iff, List.forall₂_same]
  exact fun members _ => carries_ofMembers members

end AccountSlot

namespace Instruction

theorem declaresArguments_argumentsOf (members : Json.Members) :
    DeclaresArguments members (argumentsOf members) := by
  unfold argumentsOf Json.Members.items
  cases ha : members.list? "args" with
  | some values => exact .args (Json.Members.list?_eq_some.mp ha)
  | none =>
    have noArgs := Json.Members.list?_eq_none.mp ha
    cases hb : members.list? "arguments" with
    | some values => exact .arguments noArgs (Json.Members.list?_eq_some.mp hb)
    | none => exact .neither noArgs (Json.Members.list?_eq_none.mp hb)

theorem ofJson_eq_ok {index : Nat} {value : Json} {instruction : Instruction}
    (h : ofJson index value = .ok instruction) :
    ∃ members : Json.Members, value = .object members ∧
      nameOf? members = some instruction.name ∧
      instruction.docs = Docs.ofMembers members ∧
      instruction.accounts = AccountSlot.flattenAll (members.items "accounts") ∧
      List.Forall₂ (fun value argument => Argument.ofJson instruction.name value = .ok argument)
        (argumentsOf members) instruction.arguments := by
  unfold ofJson at h
  cases ho : value.asObject? with
  | none => simp [ho] at h
  | some members =>
    cases hn : nameOf? members with
    | none => simp [ho, hn] at h
    | some name =>
      simp only [ho, hn] at h
      obtain ⟨arguments, read, made⟩ := except_bind_eq_ok.mp h
      cases Except.ok.inj made
      exact ⟨members, Json.asObject?_eq_some.mp ho, hn, rfl, rfl, mapM_eq_ok_iff.mp read⟩

end Instruction

namespace Argument

theorem ofJson_eq_ok {instruction : String} {value : Json} {argument : Argument}
    (h : ofJson instruction value = .ok argument) :
    ∃ context type, DataType.ofMembers context (membersOf value) = .ok type ∧
      argument = .mk (nameOf value) (Docs.ofMembers (membersOf value))
        (isOptional (membersOf value)) type := by
  obtain ⟨type, read, made⟩ := except_bind_eq_ok.mp h
  exact ⟨_, type, read, (Except.ok.inj made).symm⟩

end Argument

namespace Control

private theorem shows_ofArguments {types : List TypeDefinition} {instruction : String}
    {values : List Json} {arguments : List Argument}
    (h : List.Forall₂ (fun value argument => Argument.ofJson instruction value = .ok argument)
      values arguments) :
    List.Forall₂ (Shows types) (values.filter fun value => !Argument.isDiscriminator value)
      (ofArguments types
        (arguments.filter fun argument => !Text.sameFolded argument.name discriminator)) := by
  induction h with
  | nil => exact .nil
  | @cons value argument values arguments read _ ih =>
    obtain ⟨context, type, typed, rfl⟩ := Argument.ofJson_eq_ok read
    by_cases hd : Argument.isDiscriminator value = true
    · have hd' : Text.sameFolded (Argument.nameOf value) discriminator = true := hd
      simpa [Argument.name, hd, hd'] using ih
    · have hd' : Text.sameFolded (Argument.nameOf value) discriminator = false :=
        Bool.eq_false_iff.mpr hd
      simp only [List.filter_cons, hd, Argument.name, hd', ofArguments, Bool.not_false, if_true]
      exact .cons ⟨rfl, rfl, context, type, typed, rfl, rfl, rfl, rfl⟩ ih

end Control

private theorem Form.shows_ofInstruction {types : List TypeDefinition} {index : Nat} {value : Json}
    {instruction : Instruction} (h : Instruction.ofJson index value = .ok instruction) :
    ∃ members, value = .object members ∧
      Form.Shows types members (Form.ofInstruction types instruction) := by
  obtain ⟨members, rfl, name, docs, accounts, arguments⟩ := Instruction.ofJson_eq_ok h
  obtain ⟨objects, declared, carried⟩ :=
    AccountSlot.exists_declares (Json.Members.items members "accounts")
  refine ⟨members, rfl, (Option.filter_eq_some_iff.mp name).1, docs, ?_, ?_⟩
  · exact ⟨_, Instruction.declaresArguments_argumentsOf members,
      Control.shows_ofArguments arguments⟩
  · refine ⟨objects, declared, ?_⟩
    change List.Forall₂ AccountSlot.Carries objects instruction.accounts
    rwa [accounts]

namespace Program

theorem mem_candidates_of_locate {document chosen : Json.Members}
    (h : locate document = .ok chosen) :
    chosen ∈ candidates document ∧ (chosen.list? "instructions").isSome = true := by
  have listed : chosen ∈ (candidates document).filter fun c => (c.list? "instructions").isSome := by
    simp only [locate] at h
    split at h
    · cases h
    · split at h
      · next found =>
        cases h
        exact List.mem_of_find?_eq_some found
      · split at h
        · next rest first =>
          cases h
          have member : chosen ∈ chosen :: rest := List.mem_cons_self
          rwa [← first] at member
        · cases h
  exact List.mem_filter.mp listed

private theorem list?_of_locate {document chosen : Json.Members}
    (h : locate document = .ok chosen) :
    ∃ values, chosen.get? "instructions" = some (.list values) := by
  obtain ⟨values, hv⟩ := Option.isSome_iff_exists.mp (mem_candidates_of_locate h).2
  exact ⟨values, Json.Members.list?_eq_some.mp hv⟩

/-- What an accepted document holds: the chosen object and its instructions, in order. -/
theorem ofJson_eq_ok {document : Json} {program : Program} (h : ofJson document = .ok program) :
    ∃ members chosen values, document = .object members ∧ locate members = .ok chosen ∧
      chosen.get? "instructions" = some (.list values) ∧
      List.Forall₂ (fun value instruction => ∃ index,
        Instruction.ofJson index value = .ok instruction) values program.instructions := by
  unfold ofJson at h
  cases ho : document.asObject? with
  | none => simp [ho] at h
  | some members =>
    simp only [ho] at h
    obtain ⟨chosen, located, h⟩ := except_bind_eq_ok.mp h
    obtain ⟨values, hv⟩ := list?_of_locate located
    have items : chosen.items "instructions" = values := by
      simp [Json.Members.items, Json.Members.list?_eq_some.mpr hv]
    obtain ⟨instructions, read, h⟩ := except_bind_eq_ok.mp h
    obtain ⟨_, -, h⟩ := except_bind_eq_ok.mp h
    obtain ⟨types, -, h⟩ := except_bind_eq_ok.mp h
    refine ⟨members, chosen, values, Json.asObject?_eq_some.mp ho, located, hv, ?_⟩
    rw [← Except.ok.inj h]
    rw [items] at read
    exact forall₂_of_zipIdx (mapM_eq_ok_iff.mp read)

/-- Nothing is lost, doubled or moved between the text of a descriptor and the forms: each
instruction of the object that describes the program has its form, in order, and the form shows that
instruction's own arguments and accounts. -/
theorem forms_show_instructions {text : String} {program : Program}
    (h : Program.ofText text = .ok program) :
    ∃ document chosen values,
      Json.read text = .ok (.object document) ∧ locate document = .ok chosen ∧
      chosen.get? "instructions" = some (.list values) ∧
      List.Forall₂ (fun value form => ∃ members, value = .object members ∧
        Form.Shows program.types members form) values program.forms := by
  unfold Program.ofText at h
  cases hr : Json.read text with
  | error e => simp [hr] at h
  | ok json =>
    simp only [hr] at h
    obtain ⟨document, chosen, values, rfl, located, hv, read⟩ := ofJson_eq_ok h
    refine ⟨document, chosen, values, rfl, located, hv, ?_⟩
    rw [Program.forms, List.forall₂_map_right_iff]
    refine read.imp fun value instruction h => ?_
    obtain ⟨index, h⟩ := h
    exact Form.shows_ofInstruction h

/-- A descriptor with a discriminator, an argument that is no object and a group of accounts. -/
def groupedText : String :=
  "\x7b\"instructions\":[\x7b\"name\":\"a\"," ++
    "\"args\":[\x7b\"name\":\"DISCRIMINATOR\"\x7d,7]," ++
    "\"accounts\":[\x7b\"accounts\":[\x7b\x7d,3]\x7d,\x7b\x7d]\x7d]\x7d"

theorem forms_show_instructions_of_groups :
    ∃ program, Program.ofText groupedText = .ok program ∧
      program.forms.map (fun form => (form.name, form.controls.length, form.accounts.length)) =
        [("a", 1, 2)] ∧
      ∃ document chosen values,
        Json.read groupedText = .ok (.object document) ∧ locate document = .ok chosen ∧
        chosen.get? "instructions" = some (.list values) ∧
        List.Forall₂ (fun value form => ∃ members, value = .object members ∧
          Form.Shows program.types members form) values program.forms := by
  have read : (Program.ofText groupedText).toOption.map (fun program => program.forms.map
      fun form => (form.name, form.controls.length, form.accounts.length)) =
        some [("a", 1, 2)] := by
    decide +kernel
  cases accepted : Program.ofText groupedText with
  | error e => simp [accepted, Except.toOption] at read
  | ok program =>
    have shape : program.forms.map (fun form =>
        (form.name, form.controls.length, form.accounts.length)) = [("a", 1, 2)] := by
      simpa [accepted, Except.toOption] using read
    exact ⟨program, rfl, shape, forms_show_instructions accepted⟩

end Program

end UiScaffold
