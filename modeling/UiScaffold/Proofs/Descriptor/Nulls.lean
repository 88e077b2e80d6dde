import UiScaffold.Proofs.Descriptor.Place

/-!
Descriptors without nulls.

A key with the value null is as good as a missing one, in the object that describes a program and in
the objects that it lists, so that no null hides what another key says. Accounts make two
exceptions: a null under `isSigner` hides `signer`, and one under `seeds` hides the seeds of a
derived address.
-/

set_option autoImplicit false
set_option relaxedAutoImplicit false

namespace UiScaffold

open Json (Members mapItems mapMembers)

private theorem Docs.ofMembers_clear {members : Members} {spared : List String}
    {change : String → Json → Json} (same : change "docs" = id) :
    ofMembers (members.clear spared change) = ofMembers members := by
  rw [ofMembers, ofMembers]
  by_cases safe : "docs" ∈ spared
  · rw [Members.get?_clear_of_spared safe same]
  · rw [Members.get?_clear safe same]
    rcases members.get? "docs" with - | value
    · rfl
    · cases value <;> rfl

namespace AccountSlot

mutual

/-- An entry of a list of accounts without nulls; the entries of a group have none either. -/
def dropNulls : Json → Json
  | .object members => .object (Members.dropNulls [] (dropNullsInGroup members))
  | other => other

/-- The members of an account, where those of a group have entries without nulls. -/
def dropNullsInGroup : List (String × Json) → List (String × Json)
  | [] => []
  | (key, value) :: rest =>
    (key, if key = "accounts" then dropNullsOfGroup value else value) :: dropNullsInGroup rest

def dropNullsOfGroup : Json → Json
  | .list entries => .list (dropNullsAll entries)
  | other => other

def dropNullsAll : List Json → List Json
  | [] => []
  | entry :: rest => dropNulls entry :: dropNullsAll rest

end

/-- What becomes of the values of an account: the entries of a group lose their nulls. -/
def inGroup (key : String) (value : Json) : Json :=
  if key = "accounts" then mapItems dropNullsAll value else value

/-- A null under the first of two keys hides that the account signs, or its seeds. -/
inductive Hides (members : Members) : Prop
  | signer {value : Json} : members.get? "isSigner" = some .null →
      members.get? "signer" = some value → value = .bool true ∨ value = .text "either" →
      Hides members
  | seeds {pda : Json} {items : List Json} : members.get? "seeds" = some .null →
      members.get? "pda" = some pda → pda.get? "seeds" = some (.list items) → Hides members

variable {members : Members} {entries : List Json} {objects : List Members}

private theorem dropNullsInGroup_eq (members : Members) :
    dropNullsInGroup members = members.mapValues inGroup := by
  have group (value : Json) : dropNullsOfGroup value = mapItems dropNullsAll value := by
    cases value <;> rfl
  induction members with
  | nil => rfl
  | cons member rest ih =>
    rw [dropNullsInGroup, ih, group]
    rfl

private theorem dropNulls_object (members : Members) :
    dropNulls (.object members) = .object (members.clear [] inGroup) := by
  rw [dropNulls, dropNullsInGroup_eq]
  rfl

private theorem inGroup_accounts : inGroup "accounts" = mapItems dropNullsAll := rfl

private theorem Declares.dropNulls (h : Declares entries objects) :
    Declares (dropNullsAll entries) (objects.map (·.clear [] inGroup)) := by
  induction h with
  | none => exact .none
  | @other entry entries objects plain _ ih =>
    have same : AccountSlot.dropNulls entry = entry := by
      cases entry with
      | object members => exact absurd rfl (plain members)
      | _ => rfl
    rw [dropNullsAll, same]
    exact .other plain ih
  | @group members items entries inner objects found _ _ inside after =>
    have cleared : (members.clear [] inGroup).list? "accounts" = some (dropNullsAll items) := by
      rw [Members.list?_clear inGroup_accounts, Members.list?_eq_some.mpr found]
      rfl
    rw [dropNullsAll, dropNulls_object, List.map_append]
    exact .group (Members.list?_eq_some.mp cleared) inside after
  | @account members entries objects single _ ih =>
    have cleared : (members.clear [] inGroup).list? "accounts" = .none := by
      rw [Members.list?_clear inGroup_accounts, Members.list?_eq_none.mpr single]
      rfl
    rw [dropNullsAll, dropNulls_object]
    exact .account (Members.list?_eq_none.mp cleared) ih

private theorem Declares.flattenAll (h : Declares entries objects) :
    flattenAll entries = objects.map ofMembers := by
  induction h with
  | none => rfl
  | @other entry entries objects plain _ ih =>
    have none : flatten entry = [] := by
      cases entry with
      | object members => exact absurd rfl (plain members)
      | _ => rfl
    rw [AccountSlot.flattenAll, none, ih, List.nil_append]
  | @group members items entries inner objects found _ _ inside after =>
    have group : flatten (.object members) = AccountSlot.flattenAll items := by
      rw [flatten, groupIn_eq, Members.list?_eq_some.mpr found]
      rfl
    rw [AccountSlot.flattenAll, group, inside, after, List.map_append]
  | @account members entries objects single _ ih =>
    have alone : flatten (.object members) = [ofMembers members] := by
      rw [flatten, groupIn_eq, Members.list?_eq_none.mpr single]
      rfl
    rw [AccountSlot.flattenAll, alone, ih]
    rfl

private theorem signer_eq (members : Members) : (ofMembers members).signer =
    ((members.get? "isSigner").orElse fun _ => members.get? "signer").any isSigner := by
  unfold ofMembers Outline.firstOf
  cases first : members.get? "isSigner" with
  | some value => simp [first]
  | none => cases second : members.get? "signer" <;> simp [first, second]

private theorem signer_clear_iff :
    (ofMembers (members.clear [] inGroup)).signer = (ofMembers members).signer ↔
      ∀ value, members.get? "isSigner" = some .null → members.get? "signer" = some value →
        ¬ (value = .bool true ∨ value = .text "either") := by
  have solid (value : Option Json) :
      (value.filter fun value => !value.isNull).any isSigner = value.any isSigner := by
    rcases value with - | value
    · rfl
    · cases value <;> rfl
  have first : (members.clear [] inGroup).get? "isSigner" =
      (members.get? "isSigner").filter fun value => !value.isNull :=
    Members.get?_clear List.not_mem_nil rfl
  have second : (members.clear [] inGroup).get? "signer" =
      (members.get? "signer").filter fun value => !value.isNull :=
    Members.get?_clear List.not_mem_nil rfl
  rw [signer_eq, signer_eq, first, second]
  rcases members.get? "isSigner" with - | value
  · simpa using solid (members.get? "signer")
  · cases value with
    | null =>
      have left : (((some Json.null).filter fun value => !value.isNull).orElse fun _ =>
          (members.get? "signer").filter fun value => !value.isNull).any isSigner =
            (members.get? "signer").any isSigner := solid (members.get? "signer")
      have right : ((some Json.null).orElse fun _ => members.get? "signer").any isSigner = false :=
        rfl
      rw [left, right, Bool.eq_false_iff, ne_eq, Option.any_eq_true_iff_get]
      cases members.get? "signer" with
      | none => simp
      | some value => simp [isSigner_eq_true]
    | _ => simp [Json.isNull, Option.filter_some]

private theorem seeds_clear_iff :
    (ofMembers (members.clear [] inGroup)).seeds = (ofMembers members).seeds ↔
      ∀ pda items, members.get? "seeds" = some .null → members.get? "pda" = some pda →
        pda.get? "seeds" ≠ some (.list items) := by
  have seeds_eq (members : Members) : (ofMembers members).seeds =
      ((members.get? "seeds").orElse fun _ =>
        (members.get? "pda").bind (Json.get? · "seeds")).bind Json.asList? := rfl
  have first : (members.clear [] inGroup).get? "seeds" =
      (members.get? "seeds").filter fun value => !value.isNull :=
    Members.get?_clear List.not_mem_nil rfl
  have derived : ((members.clear [] inGroup).get? "pda").bind (Json.get? · "seeds") =
      (members.get? "pda").bind (Json.get? · "seeds") := Members.bind_clear rfl
  rw [seeds_eq, seeds_eq, first, derived]
  rcases members.get? "seeds" with - | value
  · simp
  · cases value with
    | null =>
      have left : (((some Json.null).filter fun value => !value.isNull).orElse fun _ =>
          (members.get? "pda").bind (Json.get? · "seeds")).bind Json.asList? =
            ((members.get? "pda").bind (Json.get? · "seeds")).bind Json.asList? := rfl
      have right : ((some Json.null).orElse fun _ =>
          (members.get? "pda").bind (Json.get? · "seeds")).bind Json.asList? = none := rfl
      rw [left, right, Option.eq_none_iff_forall_ne_some]
      constructor
      · intro none pda items _ inside listed
        apply none items
        rw [inside, Option.bind_some, listed]
        rfl
      · intro none items found
        obtain ⟨value, listed, same⟩ := Option.bind_eq_some_iff.mp found
        obtain ⟨pda, inside, listed⟩ := Option.bind_eq_some_iff.mp listed
        rw [Json.asList?_eq_some.mp same] at listed
        exact none pda items rfl inside listed
    | _ => simp [Json.isNull, Option.filter_some]

private theorem hides_iff : Hides members ↔
    (∃ value, members.get? "isSigner" = some .null ∧ members.get? "signer" = some value ∧
      (value = .bool true ∨ value = .text "either")) ∨
    ∃ pda items, members.get? "seeds" = some .null ∧ members.get? "pda" = some pda ∧
      pda.get? "seeds" = some (.list items) := by
  constructor
  · rintro (⟨null, found, signs⟩ | ⟨null, inside, listed⟩)
    · exact .inl ⟨_, null, found, signs⟩
    · exact .inr ⟨_, _, null, inside, listed⟩
  · rintro (⟨value, null, found, signs⟩ | ⟨pda, items, null, inside, listed⟩)
    · exact .signer null found signs
    · exact .seeds null inside listed

private theorem ofMembers_clear (members : Members) : ofMembers (members.clear [] inGroup) =
    { ofMembers members with
      signer := (ofMembers (members.clear [] inGroup)).signer
      seeds := (ofMembers (members.clear [] inGroup)).seeds } := by
  have name : (members.clear [] inGroup).text? "name" = members.text? "name" :=
    Members.text?_clear rfl
  have role : (members.clear [] inGroup).text? "role" = members.text? "role" :=
    Members.text?_clear rfl
  have docs : Docs.ofMembers (members.clear [] inGroup) = Docs.ofMembers members :=
    Docs.ofMembers_clear rfl
  have flags (keys : List String) (single : "accounts" ∉ keys) :
      (members.clear [] inGroup).anyTrue keys = members.anyTrue keys :=
    Members.anyTrue_clear fun key member => funext fun value =>
      if_neg fun same : key = "accounts" => single (same ▸ member)
  have writable := flags ["isMut", "isWritable", "writable"] (by decide)
  have optional := flags ["optional", "isOptional"] (by decide)
  simp only [ofMembers, name, role, docs, writable, optional]

private theorem ofMembers_clear_iff :
    ofMembers (members.clear [] inGroup) = ofMembers members ↔ ¬ Hides members := by
  have same_iff : ofMembers (members.clear [] inGroup) = ofMembers members ↔
      (ofMembers (members.clear [] inGroup)).signer = (ofMembers members).signer ∧
        (ofMembers (members.clear [] inGroup)).seeds = (ofMembers members).seeds := by
    constructor
    · intro same
      rw [same]
      exact ⟨rfl, rfl⟩
    · rintro ⟨signer, seeds⟩
      rw [ofMembers_clear, signer, seeds]
  rw [same_iff, signer_clear_iff, seeds_clear_iff, hides_iff]
  push Not
  rfl

private theorem flattenAll_dropNulls_iff (h : Declares entries objects) :
    flattenAll (dropNullsAll entries) = flattenAll entries ↔
      ∀ account ∈ objects, ¬ Hides account := by
  rw [h.dropNulls.flattenAll, h.flattenAll, List.map_map, List.map_inj_left]
  exact forall₂_congr fun account _ => ofMembers_clear_iff

end AccountSlot

/-- An object without nulls, but for the keys that are spared. -/
def Json.dropNulls (spared : List String) (value : Json) : Json :=
  value.mapMembers (Members.dropNulls spared)

/-- What becomes of the values of an instruction: its accounts and arguments lose their nulls. -/
def Instruction.inParts : String → Json → Json
  | "accounts" => mapItems AccountSlot.dropNullsAll
  | "args" | "arguments" => mapItems (List.map (Json.dropNulls ["type"]))
  | _ => id

def Instruction.dropNulls (value : Json) : Json := value.mapMembers (Members.clear [] inParts)

/-- What becomes of the values of a program: the objects that it lists lose their nulls. -/
def Program.inParts : String → Json → Json
  | "instructions" => mapItems (List.map Instruction.dropNulls)
  | "accounts" => mapItems AccountSlot.dropNullsAll
  | "types" | "definedTypes" => mapItems (List.map (Json.dropNulls ["type"]))
  | "errors" => mapItems (List.map (Json.dropNulls []))
  | _ => id

def Program.dropNulls (program : Members) : Members := program.clear ["instructions"] inParts

section Objects

variable {spared : List String}

private theorem text?_dropNulls (members : Members) (key : String) :
    (members.dropNulls spared).text? key = members.text? key := by
  rw [Members.dropNulls_eq_clear]
  exact Members.text?_clear rfl

private theorem docs_dropNulls (members : Members) :
    Docs.ofMembers (members.dropNulls spared) = Docs.ofMembers members := by
  rw [Members.dropNulls_eq_clear]
  exact Docs.ofMembers_clear rfl

private theorem isOptional_dropNulls (members : Members) :
    isOptional (members.dropNulls spared) = isOptional members := by
  rw [Members.dropNulls_eq_clear]
  exact Members.anyTrue_clear fun _ _ => rfl

private theorem DataType.ofMembers_dropNulls (context : String) (members : Members) :
    DataType.ofMembers context (members.dropNulls ["type"]) =
      DataType.ofMembers context members := by
  have type : (members.dropNulls ["type"]).get? "type" = members.get? "type" := by
    rw [Members.dropNulls_eq_clear]
    exact Members.get?_clear_of_spared List.mem_cons_self rfl
  rw [DataType.ofMembers, DataType.ofMembers, type]

private theorem Argument.ofJson_dropNulls (instruction : String) (value : Json) :
    Argument.ofJson instruction (value.dropNulls ["type"]) = Argument.ofJson instruction value := by
  cases value with
  | object members =>
    have left : Argument.membersOf (Json.dropNulls ["type"] (.object members)) =
        Members.dropNulls ["type"] members := rfl
    have right : Argument.membersOf (.object members) = members := rfl
    have name : Argument.nameOf (Json.dropNulls ["type"] (.object members)) =
        Argument.nameOf (.object members) :=
      congrArg (·.getD unnamed) (text?_dropNulls members "name")
    simp only [Argument.ofJson, left, right, name, DataType.ofMembers_dropNulls, docs_dropNulls,
      isOptional_dropNulls]
  | null | bool _ | number _ | text _ | list _ => rfl

private theorem TypeDefinition.ofMembers_dropNulls (name : String) (members : Members) :
    TypeDefinition.ofMembers name (members.dropNulls ["type"]) =
      TypeDefinition.ofMembers name members := by
  rw [TypeDefinition.ofMembers, TypeDefinition.ofMembers, DataType.ofMembers_dropNulls,
    docs_dropNulls]

private theorem ErrorCode.ofMembers?_dropNulls (members : Members) :
    ErrorCode.ofMembers? (members.dropNulls spared) = ErrorCode.ofMembers? members := by
  have code : ((members.dropNulls spared).get? "code").bind Json.asNat? =
      (members.get? "code").bind Json.asNat? := by
    rw [Members.dropNulls_eq_clear]
    exact Members.bind_clear rfl
  simp only [ErrorCode.ofMembers?, code, text?_dropNulls]

end Objects

namespace Instruction

variable {index start : Nat} {value : Json} {values : List Json} {members : Members}

def TakesAccounts (value : Json) (instruction : Instruction) : Prop :=
  instruction.accounts = AccountSlot.flattenAll (value.itemsAt "accounts")

/-- An instruction with the accounts of the value without nulls. -/
def recount (value : Json) (instruction : Instruction) : Instruction :=
  { instruction with
    accounts := AccountSlot.flattenAll (AccountSlot.dropNullsAll (value.itemsAt "accounts")) }

private theorem argumentsOf_clear (members : Members) : argumentsOf (members.clear [] inParts) =
    (argumentsOf members).map (Json.dropNulls ["type"]) := by
  have first : (members.clear [] inParts).list? "args" =
      (members.list? "args").map (List.map (Json.dropNulls ["type"])) := Members.list?_clear rfl
  have second : (members.clear [] inParts).items "arguments" =
      (members.items "arguments").map (Json.dropNulls ["type"]) := Members.items_clear rfl rfl
  rw [argumentsOf, argumentsOf, first, second]
  cases members.list? "args" <;> rfl

private theorem ofJson_dropNulls (index : Nat) (value : Json) :
    ofJson index (dropNulls value) = (ofJson index value).map (recount value) := by
  cases value with
  | object members =>
    have name : nameOf? (Members.clear [] inParts members) = nameOf? members := by
      rw [nameOf?, nameOf?, Members.text?_clear rfl]
    have docs : Docs.ofMembers (Members.clear [] inParts members) = Docs.ofMembers members :=
      Docs.ofMembers_clear rfl
    have accounts : (Members.clear [] inParts members).items "accounts" =
        AccountSlot.dropNullsAll (Members.items members "accounts") := Members.items_clear rfl rfl
    have left : (dropNulls (.object members)).asObject? =
        some (Members.clear [] inParts members) := rfl
    have right : (Json.object members).asObject? = some members := rfl
    simp only [ofJson, left, right, name]
    cases nameOf? members with
    | none => rfl
    | some name =>
      have arguments : ((argumentsOf members).map (Json.dropNulls ["type"])).mapM
          (Argument.ofJson name) = (argumentsOf members).mapM (Argument.ofJson name) := by
        rw [List.mapM_map]
        exact congrArg (List.mapM · _) (funext fun value => Argument.ofJson_dropNulls name value)
      simp only [argumentsOf_clear, arguments, docs, accounts]
      cases (argumentsOf members).mapM (Argument.ofJson name) <;> rfl
  | null | bool _ | number _ | text _ | list _ => rfl

private theorem mapM_dropNulls (start : Nat) (values : List Json) :
    ((values.map dropNulls).zipIdx start).mapM (fun item => ofJson item.2 item.1) =
      ((values.zipIdx start).mapM fun item => ofJson item.2 item.1).map
        (List.zipWith recount values) := by
  induction values generalizing start with
  | nil => rfl
  | cons value rest ih =>
    rw [List.map_cons, List.zipIdx_cons, List.zipIdx_cons, List.mapM_cons, List.mapM_cons, ih,
      ofJson_dropNulls]
    cases ofJson start value with
    | error e => rfl
    | ok instruction =>
      cases (rest.zipIdx (start + 1)).mapM fun item => ofJson item.2 item.1 <;> rfl

end Instruction

namespace AccountSlot

private theorem dropNullsAll_eq (entries : List Json) :
    dropNullsAll entries = entries.map dropNulls := by
  induction entries with
  | nil => rfl
  | cons entry rest ih => rw [dropNullsAll, ih, List.map_cons]

private theorem textAt?_dropNulls (entry : Json) :
    (dropNulls entry).textAt? "name" = entry.textAt? "name" := by
  cases entry with
  | object members =>
    rw [dropNulls_object]
    exact Members.text?_clear rfl
  | null | bool _ | number _ | text _ | list _ => rfl

end AccountSlot

private theorem TypeDefinition.named_dropNulls (values : List Json) :
    named (values.map (Json.dropNulls ["type"])) =
      (named values).map fun item => (item.1, item.2.dropNulls ["type"]) := by
  rw [named, named, List.filterMap_map, List.filterMap_filterMap, List.filterMap_filterMap,
    List.map_filterMap]
  refine congrArg (List.filterMap · values) (funext fun value => ?_)
  cases value with
  | object members =>
    have name : (Members.dropNulls ["type"] members).text? "name" = Members.text? members "name" :=
      text?_dropNulls members "name"
    have left : (Json.dropNulls ["type"] (.object members)).asObject? =
        some (Members.dropNulls ["type"] members) := rfl
    have right : (Json.object members).asObject? = some members := rfl
    rw [Function.comp_apply, left, right, Option.bind_some, Option.bind_some, name]
    cases Members.text? members "name" <;> rfl
  | null | bool _ | number _ | text _ | list _ => rfl

namespace Program

variable {document program : Members} {values : List Json} {instructions : List Instruction}

/-- A program with the accounts of the instructions without nulls. -/
def recount (values : List Json) (program : Program) : Program :=
  { program with instructions := List.zipWith Instruction.recount values program.instructions }

private theorem typesOf_dropNulls (program : Members) :
    typesOf (dropNulls program) = (typesOf program).map (Json.dropNulls ["type"]) := by
  have first : (dropNulls program).list? "types" =
      (program.list? "types").map (List.map (Json.dropNulls ["type"])) := Members.list?_clear rfl
  have second : (dropNulls program).items "definedTypes" =
      (program.items "definedTypes").map (Json.dropNulls ["type"]) := Members.items_clear rfl rfl
  rw [typesOf, typesOf, first, second]
  cases program.list? "types" <;> rfl

private theorem accountTypes_dropNulls (program : Members) :
    ((dropNulls program).items "accounts").filterMap (fun account => account.textAt? "name") =
      (program.items "accounts").filterMap fun account => account.textAt? "name" := by
  have accounts : (dropNulls program).items "accounts" =
      AccountSlot.dropNullsAll (program.items "accounts") := Members.items_clear rfl rfl
  rw [accounts, AccountSlot.dropNullsAll_eq, List.filterMap_map]
  exact congrArg (List.filterMap · (program.items "accounts"))
    (funext AccountSlot.textAt?_dropNulls)

private theorem errors_dropNulls (program : Members) :
    (((dropNulls program).items "errors").filterMap Json.asObject?).filterMap ErrorCode.ofMembers? =
      ((program.items "errors").filterMap Json.asObject?).filterMap ErrorCode.ofMembers? := by
  have errors : (dropNulls program).items "errors" =
      (program.items "errors").map (Json.dropNulls []) := Members.items_clear rfl rfl
  rw [errors, List.filterMap_filterMap, List.filterMap_filterMap, List.filterMap_map]
  refine congrArg (List.filterMap · (program.items "errors")) (funext fun value => ?_)
  cases value with
  | object members => exact ErrorCode.ofMembers?_dropNulls members
  | null | bool _ | number _ | text _ | list _ => rfl

private theorem checkNames_recount (even : values.length = instructions.length) :
    Instruction.checkNames (List.zipWith Instruction.recount values instructions) =
      Instruction.checkNames instructions := by
  have names : (List.zipWith Instruction.recount values instructions).map (·.name) =
      instructions.map (·.name) := by
    rw [List.map_zipWith]
    induction values generalizing instructions with
    | nil =>
      rw [List.eq_nil_of_length_eq_zero even.symm]
      rfl
    | cons value rest ih =>
      cases instructions with
      | nil => cases even
      | cons first others => exact congrArg (first.name :: ·) (ih (Nat.succ.inj even))
  rw [Instruction.checkNames, names, Instruction.checkNames]

private theorem ofMembers_dropNulls (document program : Members) :
    ofMembers document (dropNulls program) =
      (ofMembers document program).map (recount (program.items "instructions")) := by
  have instructions : (dropNulls program).items "instructions" =
      (program.items "instructions").map Instruction.dropNulls := Members.items_clear rfl rfl
  have metadata : ((dropNulls program).get? "metadata").bind Json.asObject? =
      (program.get? "metadata").bind Json.asObject? := Members.object?_clear rfl
  have text (key : String) (same : inParts key = id) :
      (dropNulls program).text? key = program.text? key := Members.text?_clear same
  have name := text "name" rfl
  have version := text "version" rfl
  have address := text "address" rfl
  have publicKey := text "publicKey" rfl
  have types : (TypeDefinition.named (typesOf (dropNulls program))).mapM
        (fun item => TypeDefinition.ofMembers item.1 item.2) =
      (TypeDefinition.named (typesOf program)).mapM
        fun item => TypeDefinition.ofMembers item.1 item.2 := by
    rw [typesOf_dropNulls, TypeDefinition.named_dropNulls, List.mapM_map]
    exact congrArg (List.mapM · _) (funext fun item =>
      TypeDefinition.ofMembers_dropNulls item.1 item.2)
  unfold ofMembers
  rw [instructions, Instruction.mapM_dropNulls]
  cases read : (program.items "instructions").zipIdx.mapM fun item =>
      Instruction.ofJson item.2 item.1 with
  | error e => rfl
  | ok made =>
    have even : (program.items "instructions").length = made.length := by
      rw [← (mapM_eq_ok_iff.mp read).length_eq, List.length_zipIdx]
    simp only [bind, Except.bind, Except.map, checkNames_recount even, types, metadata, firstText,
      List.findSome?_cons, name, version, address, publicKey, accountTypes_dropNulls,
      errors_dropNulls]
    cases Instruction.checkNames made with
    | error e => rfl
    | ok _ =>
      cases (TypeDefinition.named (typesOf program)).mapM fun item =>
        TypeDefinition.ofMembers item.1 item.2 <;> rfl

private theorem stays_dropNulls (program : Members) : Stays dropNulls program where
  instructions := by
    refine ⟨List.map Instruction.dropNulls, fun _ => List.isEmpty_map, ?_⟩
    rw [dropNulls, Members.clear, Members.get?_dropNulls, if_pos List.mem_cons_self,
      Members.get?_mapValues]
    rfl
  nested := Members.object?_clear rfl
  listed := by
    rw [dropNulls, Members.items, Members.list?, Members.bind_clear rfl]
    rfl
  name := Members.text?_clear rfl

private theorem accounts_of_ofMembers {made : Program}
    (read : ofMembers document program = .ok made) :
    List.Forall₂ Instruction.TakesAccounts (program.items "instructions") made.instructions := by
  obtain ⟨instructions, each, read⟩ := except_bind_eq_ok.mp read
  obtain ⟨_, -, read⟩ := except_bind_eq_ok.mp read
  obtain ⟨types, -, read⟩ := except_bind_eq_ok.mp read
  have items : List.Forall₂ (fun value instruction => ∃ index,
        Instruction.ofJson index value = .ok instruction)
      (program.items "instructions") instructions :=
    forall₂_of_zipIdx (mapM_eq_ok_iff.mp each)
  rw [← Except.ok.inj read]
  refine items.imp ?_
  rintro value instruction ⟨index, read⟩
  obtain ⟨members, rfl, -, -, accounts, -⟩ := Instruction.ofJson_eq_ok read
  exact accounts

end Program

/-- Slots that differ in whether they sign and in their seeds at most. -/
def AccountSlot.Akin (slot other : AccountSlot) : Prop :=
  other = { slot with signer := other.signer, seeds := other.seeds }

structure Instruction.Akin (instruction other : Instruction) : Prop where
  others : other = { instruction with accounts := other.accounts }
  accounts : List.Forall₂ AccountSlot.Akin instruction.accounts other.accounts

structure Program.Akin (program other : Program) : Prop where
  others : other = { program with instructions := other.instructions }
  instructions : List.Forall₂ Instruction.Akin program.instructions other.instructions

namespace Instruction

variable {instruction : Instruction} {instructions : List Instruction} {value : Json}
  {values : List Json}

private theorem akin_recount (takes : TakesAccounts value instruction) :
    Akin instruction (recount value instruction) where
  others := rfl
  accounts := by
    have accounts : instruction.accounts = _ := takes
    obtain ⟨objects, declared, -⟩ := AccountSlot.exists_declares (value.itemsAt "accounts")
    have cleared : (recount value instruction).accounts =
        objects.map fun members =>
          AccountSlot.ofMembers (members.clear [] AccountSlot.inGroup) := by
      rw [recount, declared.dropNulls.flattenAll, List.map_map]
      rfl
    rw [accounts, cleared, declared.flattenAll, List.forall₂_map_left_iff,
      List.forall₂_map_right_iff, List.forall₂_same]
    intro members _
    exact AccountSlot.ofMembers_clear members

private theorem recount_eq_iff (takes : TakesAccounts value instruction) :
    recount value instruction = instruction ↔
      ∀ objects, AccountSlot.Declares (value.itemsAt "accounts") objects →
        ∀ account ∈ objects, ¬ AccountSlot.Hides account := by
  have same_iff : recount value instruction = instruction ↔
      AccountSlot.flattenAll (AccountSlot.dropNullsAll (value.itemsAt "accounts")) =
        AccountSlot.flattenAll (value.itemsAt "accounts") := by
    have accounts : instruction.accounts = _ := takes
    rw [← accounts]
    constructor
    · exact congrArg Instruction.accounts
    · intro same
      rw [recount, same]
  rw [same_iff]
  constructor
  · intro same objects declared
    exact (AccountSlot.flattenAll_dropNulls_iff declared).mp same
  · intro shown
    obtain ⟨objects, declared, -⟩ := AccountSlot.exists_declares (value.itemsAt "accounts")
    exact (AccountSlot.flattenAll_dropNulls_iff declared).mpr (shown objects declared)

private theorem akin_zipWith (read : List.Forall₂ TakesAccounts values instructions) :
    List.Forall₂ Akin instructions (List.zipWith recount values instructions) := by
  induction read with
  | nil => exact .nil
  | cons takes _ ih => exact .cons (akin_recount takes) ih

private theorem zipWith_recount_iff (read : List.Forall₂ TakesAccounts values instructions) :
    List.zipWith recount values instructions = instructions ↔
      ∀ value ∈ values, ∀ objects, AccountSlot.Declares (value.itemsAt "accounts") objects →
        ∀ account ∈ objects, ¬ AccountSlot.Hides account := by
  induction read with
  | nil => simp
  | cons takes _ ih =>
    rw [List.zipWith_cons_cons, List.cons.injEq, recount_eq_iff takes, ih, List.forall_mem_cons]

end Instruction

namespace Program

variable {document program : Members} {values : List Json}

/-- A null hides something of an account that the program of a document declares. -/
def NullHides (document : Json) : Prop :=
  ∃ members program values, document = .object members ∧ Selects members program values ∧
    ∃ value ∈ values, ∃ objects, AccountSlot.Declares (value.itemsAt "accounts") objects ∧
      ∃ account ∈ objects, AccountSlot.Hides account

/-- The document where the program and the objects that it lists have no nulls. -/
def withoutNulls : Json → Json :=
  mapMembers fun document =>
    match place? document with
    | some place => place.change dropNulls document
    | none => document

private theorem nullHides_iff (selected : Selects document program values) :
    NullHides (.object document) ↔
      ∃ value ∈ values, ∃ objects, AccountSlot.Declares (value.itemsAt "accounts") objects ∧
        ∃ account ∈ objects, AccountSlot.Hides account := by
  constructor
  · rintro ⟨members, program', values', same, selected', hidden⟩
    obtain rfl := Json.object.inj same
    obtain ⟨-, rfl⟩ := selected.unique selected'
    exact hidden
  · intro hidden
    exact ⟨document, program, values, rfl, selected, hidden⟩

private theorem recount_eq_iff {made : Program} : recount values made = made ↔
    List.zipWith Instruction.recount values made.instructions = made.instructions := by
  constructor
  · exact congrArg Program.instructions
  · intro same
    rw [recount, same]

/-- The same program is read from a document without nulls, up to the accounts of its instructions,
or both documents are refused before a program is found. -/
private theorem ofJson_withoutNulls (document : Members) :
    (∃ e, ofJson (.object document) = .error e ∧
      ofJson (withoutNulls (.object document)) = .error e) ∨
    ∃ program, Selects document program (program.items "instructions") ∧
      ofJson (.object document) = ofMembers document program ∧
      ofJson (withoutNulls (.object document)) =
        (ofMembers document program).map (recount (program.items "instructions")) := by
  cases chosen : place? document with
  | none =>
    obtain ⟨e, before⟩ := refused_of_no_place chosen
    have after : withoutNulls (.object document) = .object document := by
      simp only [withoutNulls, mapMembers, chosen]
    rw [after]
    exact .inl ⟨e, before, before⟩
  | some place =>
    obtain ⟨program, there⟩ := exists_object chosen
    have after : withoutNulls (.object document) = .object (place.change dropNulls document) := by
      simp only [withoutNulls, mapMembers, chosen]
    rw [after]
    rcases (stays_dropNulls program).locate_change there chosen with
      refused | ⟨values, selected, before, changed⟩
    · exact .inl refused
    · have items : program.items "instructions" = values := by
        rw [Members.items, Members.list?_eq_some.mpr selected.found.2]
        rfl
      rw [ofMembers_dropNulls] at changed
      rw [← items] at selected
      exact .inr ⟨program, selected, before, changed⟩

/-- Without the nulls of the objects that describe it, a program is read as it is, or refused as it
is, but for signers and seeds. These stay as they are exactly when in no account the null under
`isSigner` hides `signer`, or the one under `seeds` the seeds of a derived address. -/
theorem nulls_count_as_absent (document : Json) :
    Matches Akin (ofJson document) (ofJson (withoutNulls document)) ∧
      (ofJson (withoutNulls document) = ofJson document ↔
        ∀ made, ofJson document = .ok made → ¬ NullHides document) := by
  have refused {e : DescriptorError} (before : ofJson document = .error e)
      (after : ofJson (withoutNulls document) = .error e) :
      Matches Akin (ofJson document) (ofJson (withoutNulls document)) ∧
        (ofJson (withoutNulls document) = ofJson document ↔
          ∀ made, ofJson document = .ok made → ¬ NullHides document) := by
    rw [before, after]
    exact ⟨.error e, iff_of_true rfl nofun⟩
  cases document with
  | object document =>
    rcases ofJson_withoutNulls document with
      ⟨e, before, after⟩ | ⟨program, selected, before, after⟩
    · exact refused before after
    · cases read : ofMembers document program with
      | error e =>
        rw [read] at before after
        exact refused before after
      | ok made =>
        rw [read] at before after
        have takes := accounts_of_ofMembers read
        rw [before, after]
        refine ⟨.ok ⟨rfl, Instruction.akin_zipWith takes⟩, ?_⟩
        rw [Except.map, Except.ok.injEq, recount_eq_iff, Instruction.zipWith_recount_iff takes,
          nullHides_iff selected]
        push Not
        exact ⟨fun shown _ _ => shown, fun shown => shown made rfl⟩
  | null | bool _ | number _ | text _ | list _ => exact refused rfl rfl

def hidden : Json :=
  .object [("instructions", .list [.object [("name", .text "a"), ("accounts", .list
    [.object [("name", .text "x"), ("isSigner", .null), ("signer", .bool true)]])]])]

theorem null_hides_signer : ¬ ∀ document, ofJson (withoutNulls document) = ofJson document := by
  intro same
  have signers := congrArg (fun read => read.toOption.map fun program =>
    program.instructions.map fun instruction => instruction.accounts.map (·.signer)) (same hidden)
  exact absurd signers (by decide +kernel)

end Program

end UiScaffold
