import UiScaffold.Proofs.Descriptor.Entries
import UiScaffold.Proofs.Descriptor.Refusal

/-!
What may be taken for granted of a program that was read.

Instructions have names with more than white space, no two of them the same. Documentation is
trimmed everywhere, numbers have known widths, and types keep the entries that the descriptor lists.
The widget of an integer relies on the widths: none lies between those of a plain number and of a
big one.
-/

set_option autoImplicit false
set_option relaxedAutoImplicit false

namespace UiScaffold

/-- The type that is read for an object: it keeps the entries of the value under `type`, or stands
for a missing one. -/
inductive DataType.KeepsMember (members : Json.Members) : DataType → Prop
  | given {value : Json} {type : DataType} :
      members.get? "type" = some value → Keeps value type → KeepsMember members type
  | missing : members.get? "type" = none → KeepsMember members (.unknown "missing type")

structure Argument.Kept (value : Json) (argument : Argument) : Prop where
  docs : Docs.Trimmed argument.docs
  settled : argument.type.SettledThroughout
  keeps : DataType.KeepsMember (Argument.membersOf value) argument.type

structure Instruction.Kept (value : Json) (instruction : Instruction) : Prop where
  visible : ∃ c ∈ instruction.name.toList, Text.isBlank c = false
  docs : Docs.Trimmed instruction.docs
  accounts : ∀ slot ∈ instruction.accounts, Docs.Trimmed slot.docs
  arguments : ∃ members values, value = .object members ∧
    Instruction.DeclaresArguments members values ∧
    List.Forall₂ Argument.Kept values instruction.arguments

/-- What may be taken for granted of a definition that was read from an object under its name. -/
structure TypeDefinition.Kept (entry : String × Json.Members) (definition : TypeDefinition) :
    Prop where
  name : definition.name = entry.1
  docs : Docs.Trimmed definition.docs
  settled : definition.type.SettledThroughout
  keeps : DataType.KeepsMember entry.2 definition.type

/-- The widget of an integer tells on which side of a gap its width lies. -/
structure Widget.TellsWidth (bits : Nat) (widget : Widget) : Prop where
  number : widget = .number ↔ bits ≤ 32
  bigInt : widget = .bigInt ↔ 64 ≤ bits
  either : widget = .number ∨ widget = .bigInt

/-- Every node of a tree of controls stands for a part of the argument; if the type of the part is
an integer under its options, the widget tells the width. -/
def Control.TellsWidths (argument : Argument) (tree : Control) : Prop :=
  ∀ address control, tree.at? address = some control → ∃ part, argument.at? address = some part ∧
    ∀ bits signed, part.type.unwrap = .integer bits signed → control.widget.TellsWidth bits

namespace DataType

variable {type part : DataType}

private theorem SettledThroughout.self (h : type.SettledThroughout) : type.Settled := h 0 type .root

private theorem SettledThroughout.inner (h : type.SettledThroughout) (member : part ∈ type.inner) :
    part.SettledThroughout :=
  fun level node lies => h (level + 1) node (.inside member lies)

private theorem SettledThroughout.unwrap : {type : DataType} → type.SettledThroughout →
    type.unwrap.SettledThroughout
  | .option _, h => (h.inner List.mem_cons_self).unwrap
  | .integer _ _, h | .float _, h | .bool, h | .string, h | .publicKey, h | .bytes, h | .list _, h
  | .struct _, h | .tuple _, h | .enum _, h | .defined _, h | .unknown _, h => h

private theorem tellsWidth_of_settled {bits : Nat} {signed : Bool}
    (settled : (integer bits signed).Settled) :
    (Widget.ofType (.integer bits signed)).TellsWidth bits := by
  have known : bits ≤ 32 ∨ 64 ≤ bits := by
    simp only [Settled, List.mem_cons, List.not_mem_nil, or_false] at settled
    omega
  show Widget.TellsWidth bits (if bits ≤ 32 then .number else .bigInt)
  by_cases small : bits ≤ 32
  · rw [if_pos small]
    exact ⟨by simp [small], by simp; omega, .inl rfl⟩
  · rw [if_neg small]
    exact ⟨by simp; omega, by simp; omega, .inr rfl⟩

private theorem KeepsMember.settledThroughout {members : Json.Members}
    (h : KeepsMember members type) : type.SettledThroughout := by
  cases h with
  | given _ keeps => exact keeps.settledThroughout
  | missing _ => exact .of_inner trivial nofun

private theorem keepsMember_of_ofMembers {context : String} {members : Json.Members}
    (read : DataType.ofMembers context members = .ok type) : KeepsMember members type := by
  unfold DataType.ofMembers at read
  cases found : members.get? "type" with
  | none =>
    rw [found] at read
    cases read
    exact .missing found
  | some value =>
    rw [found] at read
    exact .given found (keeps_of_readAt (orRefuse_eq_ok_iff.mp read))

end DataType

private theorem Argument.kept_of_ofJson {instruction : String} {value : Json} {argument : Argument}
    (read : Argument.ofJson instruction value = .ok argument) : Argument.Kept value argument := by
  obtain ⟨context, type, typed, rfl⟩ := Argument.ofJson_eq_ok read
  have keeps := DataType.keepsMember_of_ofMembers typed
  exact ⟨Docs.trimmed_ofMembers, keeps.settledThroughout, keeps⟩

private theorem Instruction.kept_of_ofJson {index : Nat} {value : Json} {instruction : Instruction}
    (read : Instruction.ofJson index value = .ok instruction) :
    Instruction.Kept value instruction := by
  obtain ⟨members, rfl, named, docs, accounts, arguments⟩ := Instruction.ofJson_eq_ok read
  refine ⟨(Instruction.nameOf?_eq_some.mp named).2, ?_, ?_, ?_⟩
  · rw [docs]
    exact Docs.trimmed_ofMembers
  · intro slot member
    obtain ⟨objects, -, carried⟩ :=
      AccountSlot.exists_declares (Json.Members.items members "accounts")
    rw [accounts] at member
    obtain ⟨object, -, carries⟩ := exists_of_forall₂ carried member
    rw [carries.docs]
    exact Docs.trimmed_ofMembers
  · exact ⟨members, _, rfl, Instruction.declaresArguments_argumentsOf members,
      arguments.imp fun _ _ => Argument.kept_of_ofJson⟩

private theorem TypeDefinition.kept_of_ofMembers {name : String} {members : Json.Members}
    {definition : TypeDefinition} (read : TypeDefinition.ofMembers name members = .ok definition) :
    TypeDefinition.Kept (name, members) definition := by
  obtain ⟨type, typed, made⟩ := except_bind_eq_ok.mp read
  cases made
  have keeps := DataType.keepsMember_of_ofMembers typed
  exact ⟨rfl, Docs.trimmed_ofMembers, keeps.settledThroughout, keeps⟩

namespace Control

variable {types : List TypeDefinition} {argument part : Argument}

private theorem settledThroughout_at? {address : List Nat}
    (settled : argument.type.SettledThroughout)
    (found : argument.at? address = some part) : part.type.SettledThroughout := by
  induction address generalizing argument with
  | nil =>
    cases found
    exact settled
  | cons index address ih =>
    obtain ⟨next, there, found⟩ := Option.bind_eq_some_iff.mp found
    have member : next ∈ argument.type.unwrap.parts := List.mem_of_getElem? there
    exact ih (settled.unwrap.inner (DataType.mem_inner_of_mem_parts member)) found

private theorem tellsWidths_ofArgument (settled : argument.type.SettledThroughout) :
    TellsWidths argument (ofArgument types argument) := by
  intro address control found
  rw [at?_ofArgument] at found
  obtain ⟨part, there, rfl⟩ := Option.map_eq_some_iff.mp found
  refine ⟨part, there, ?_⟩
  intro bits signed under
  have integer := (settledThroughout_at? settled there).unwrap.self
  show (Widget.ofType part.type).TellsWidth bits
  rw [under] at integer
  rw [ofType_unwrap, under]
  exact DataType.tellsWidth_of_settled integer

end Control

namespace Program

variable {text : String} {program : Program} {document chosen : Json.Members}

private theorem selects_of_locate (located : locate document = .ok chosen) :
    ∃ values, Selects document chosen values := by
  by_cases sound : ∀ value, document.get? "instructions" = some value → ∃ items, value = .list items
  · rcases locate_eq sound with ⟨found, values, located', selected⟩ | ⟨missing, -⟩
    · cases located.symm.trans located'
      exact ⟨values, selected⟩
    · rw [missing] at located
      cases located
  · push Not at sound
    obtain ⟨value, found, not_list⟩ := sound
    rw [locate_of_notAList found not_list] at located
    cases located

private theorem ofText_eq_ok (accepted : ofText text = .ok program) :
    ∃ document chosen values, Json.read text = .ok (.object document) ∧
      Selects document chosen values ∧
      List.Forall₂ (fun value instruction => ∃ index,
        Instruction.ofJson index value = .ok instruction) values program.instructions ∧
      (program.instructions.map (·.name)).Nodup ∧
      List.Forall₂ (fun entry definition =>
        TypeDefinition.ofMembers entry.1 entry.2 = .ok definition)
          (TypeDefinition.named (typesOf chosen)) program.types := by
  unfold ofText at accepted
  cases read : Json.read text with
  | error e => simp [read] at accepted
  | ok json =>
    simp only [read, ofJson] at accepted
    cases object : json.asObject? with
    | none => simp [object] at accepted
    | some document =>
      simp only [object] at accepted
      obtain ⟨chosen, located, accepted⟩ := except_bind_eq_ok.mp accepted
      obtain ⟨instructions, read_all, accepted⟩ := except_bind_eq_ok.mp accepted
      obtain ⟨⟨⟩, checked, accepted⟩ := except_bind_eq_ok.mp accepted
      obtain ⟨types, defined, accepted⟩ := except_bind_eq_ok.mp accepted
      cases accepted
      obtain ⟨values, selected⟩ := selects_of_locate located
      have items : chosen.items "instructions" = values :=
        Json.Members.items_of_get? selected.found.2
      rw [items] at read_all
      exact ⟨document, chosen, values, by rw [Json.asObject?_eq_some.mp object], selected,
        forall₂_of_zipIdx (mapM_eq_ok_iff.mp read_all), Instruction.checkNames_eq_ok.mp checked,
        mapM_eq_ok_iff.mp defined⟩

/-- What may be taken for granted of every program that is read from a text. -/
theorem accepted_program_is_settled (accepted : ofText text = .ok program) :
    (∃ document chosen values entries, Json.read text = .ok (.object document) ∧
      Selects document chosen values ∧ chosen.Lists "types" "definedTypes" entries ∧
      List.Forall₂ Instruction.Kept values program.instructions ∧
      List.Forall₂ TypeDefinition.Kept (TypeDefinition.named entries) program.types) ∧
    (program.instructions.map (·.name)).Nodup ∧
    List.Forall₂ (fun instruction form => List.Forall₂ Control.TellsWidths
        (instruction.arguments.filter fun argument =>
          !Text.sameFolded argument.name discriminator) form.controls)
      program.instructions program.forms := by
  obtain ⟨document, chosen, values, read, selected, instructions, distinct, types⟩ :=
    ofText_eq_ok accepted
  have kept : List.Forall₂ Instruction.Kept values program.instructions :=
    instructions.imp fun _ _ ⟨_, made⟩ => Instruction.kept_of_ofJson made
  have defined : List.Forall₂ TypeDefinition.Kept (TypeDefinition.named (typesOf chosen))
      program.types :=
    types.imp fun _ _ made => TypeDefinition.kept_of_ofMembers made
  refine ⟨⟨document, chosen, values, _, read, selected, Json.Members.lists_iff.mpr rfl, kept,
    defined⟩, distinct, ?_⟩
  rw [forms, List.forall₂_map_right_iff, List.forall₂_same]
  intro instruction member
  show List.Forall₂ Control.TellsWidths _ (Control.ofArguments program.types _)
  rw [Control.ofArguments_eq_map, List.forall₂_map_right_iff, List.forall₂_same]
  intro argument shown
  obtain ⟨value, -, sound⟩ := exists_of_forall₂ kept member
  obtain ⟨-, arguments, -, -, all⟩ := sound.arguments
  obtain ⟨raw, -, settled⟩ := exists_of_forall₂ all (List.mem_filter.mp shown).1
  exact Control.tellsWidths_ofArgument settled.settled

def namelessText : String :=
  "\x7b\"instructions\":[\x7b\"name\":\"a\",\"args\":[\x7b\"name\":\"c\"," ++
    "\"type\":\x7b\"struct\":\x7b\"fields\":[\x7b\"name\":\"d\",\"type\":\"u64\"\x7d," ++
    "\x7b\"kind\":\"enum\",\"variants\":[\"E\",7]\x7d]\x7d\x7d\x7d]\x7d]\x7d"

theorem accepted_program_is_settled_of_nameless :
    ∃ program, ofText namelessText = .ok program ∧
      program.forms.flatMap (fun form => form.controls.flatMap fun control =>
        control.children.map fun child => (child.name, child.widget, child.choices)) =
          [("d", .bigInt, []), ("1", .select, ["E", "1"])] ∧
      (∃ document chosen values entries, Json.read namelessText = .ok (.object document) ∧
        Selects document chosen values ∧ chosen.Lists "types" "definedTypes" entries ∧
        List.Forall₂ Instruction.Kept values program.instructions ∧
        List.Forall₂ TypeDefinition.Kept (TypeDefinition.named entries) program.types) ∧
      (program.instructions.map (·.name)).Nodup ∧
      List.Forall₂ (fun instruction form => List.Forall₂ Control.TellsWidths
          (instruction.arguments.filter fun argument =>
            !Text.sameFolded argument.name discriminator) form.controls)
        program.instructions program.forms := by
  have read : (ofText namelessText).toOption.map (fun program => program.forms.flatMap fun form =>
      form.controls.flatMap fun control =>
        control.children.map fun child => (child.name, child.widget, child.choices)) =
          some [("d", .bigInt, []), ("1", .select, ["E", "1"])] := by
    decide +kernel
  cases accepted : ofText namelessText with
  | error e => simp [accepted, Except.toOption] at read
  | ok program =>
    rw [accepted] at read
    exact ⟨program, rfl, Option.some.inj read, accepted_program_is_settled accepted⟩

end Program

end UiScaffold
