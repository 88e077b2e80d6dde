import UiScaffold.Proofs.Descriptor.Levels
import UiScaffold.Proofs.Descriptor.Mixture

/-!
What a type that was read keeps of its value.

An integer or a float has one of the known widths and the documentation of a field is trimmed,
wherever in the type it stands. An enumeration has an entry for every variant that its value lists,
a struct one for every field, in the same order. An entry without a name of its own is named by its
position.
-/

set_option autoImplicit false
set_option relaxedAutoImplicit false

namespace UiScaffold

namespace DataType

/-- A number of a known width, a struct whose fields have trimmed documentation, or any other
type. -/
def Settled : DataType → Prop
  | .integer bits _ => bits ∈ [8, 16, 32, 64, 128, 256]
  | .float bits => bits ∈ [32, 64]
  | .struct fields => ∀ field ∈ fields, Docs.Trimmed field.docs
  | _ => True

def SettledThroughout (type : DataType) : Prop :=
  ∀ level node, LiesAt level type node → node.Settled

inductive ListsVariants : Json → List Json → Prop
  | node {members : Json.Members} {kind : String} :
      members.get? "kind" = some (.text kind) → kind ∈ ["enumTypeNode", "enum"] →
      ListsVariants (.object members) (members.items "variants")

inductive ListsFields : Json → List Json → Prop
  | node {members : Json.Members} {kind : String} :
      members.get? "kind" = some (.text kind) → kind ∈ ["structTypeNode", "struct"] →
      ListsFields (.object members) (members.items "fields")
  | form {members : Json.Members} {value : Json} :
      members.Untagged →
      (∀ other ∈ formKeys.takeWhile (· != "struct"), members.get? other = none) →
      members.get? "struct" = some value → ListsFields (.object members) (value.itemsAt "fields")

/-- The name of a field: its own if it has a type too, or else its position. -/
inductive NamesField : Nat → Json → String → Prop
  | own {index : Nat} {field type : Json} {name : String} :
      field.textAt? "name" = some name → field.get? "type" = some type → NamesField index field name
  | position {index : Nat} {field : Json} :
      field.textAt? "name" = none ∨ field.get? "type" = none → NamesField index field index.repr

mutual

/-- A settled type with the entries that a value lists, as are the types inside it. -/
inductive Keeps : Json → DataType → Prop
  | plain {value : Json} {type : DataType} :
      type.inner = [] → type.Settled → (∀ names, type ≠ .enum names) →
      (∀ fields, type ≠ .struct fields) → Keeps value type
  | lacking {value : Json} {type node : DataType} :
      LacksItem value node → type = .option node ∨ type = .list node → Keeps value type
  | wrapper {members : Json.Members} {kind : String} {inner : Json} {type : DataType} :
      members.get? "kind" = some (.text kind) → (kind, "type") ∈ wrappers →
      members.get? "type" = some inner → Keeps inner type → Keeps (.object members) type
  | option {value inner : Json} {type : DataType} :
      Holds value [(none, inner)] → Keeps inner type → Keeps value (.option type)
  | list {value item : Json} {type : DataType} :
      Holds value [(none, item)] → Keeps item type → Keeps value (.list type)
  | tuple {value : Json} {items : List Json} {types : List DataType} :
      Holds value (items.map fun item => (none, item)) → KeepsItems items types →
      Keeps value (.tuple types)
  | enum {value : Json} {variants : List Json} {names : List String} :
      ListsVariants value variants →
      List.Forall₂ (fun variant name => NamesVariant variant.2 variant.1 name)
        variants.zipIdx names →
      Keeps value (.enum names)
  | struct {value : Json} {entries : List Json} {fields : List Argument} :
      ListsFields value entries → KeepsFields 0 entries fields → Keeps value (.struct fields)

inductive KeepsFields : Nat → List Json → List Argument → Prop
  | nil {index : Nat} : KeepsFields index [] []
  | cons {index : Nat} {entry : Json} {entries : List Json} {field : Argument}
      {fields : List Argument} :
      NamesField index entry field.name → Docs.Trimmed field.docs →
      Keeps (fieldType entry).2 field.type → KeepsFields (index + 1) entries fields →
      KeepsFields index (entry :: entries) (field :: fields)

inductive KeepsItems : List Json → List DataType → Prop
  | nil : KeepsItems [] []
  | cons {item : Json} {items : List Json} {type : DataType} {types : List DataType} :
      Keeps item type → KeepsItems items types → KeepsItems (item :: items) (type :: types)

end

/-- What is known of a type that a value says by itself. -/
structure SaysAlone (value : Json) (type : DataType) : Prop where
  settled : type.Settled
  struct : ∀ fields, type ≠ .struct fields
  enum : ∀ names, type = .enum names → ∃ variants, ListsVariants value variants ∧
    List.Forall₂ (fun variant name => NamesVariant variant.2 variant.1 name) variants.zipIdx names

end DataType

namespace Outline

open DataType (Holds ListsFields ListsVariants NamesVariant SaysAlone formKeys wrappers)

variable {members : Json.Members} {value : Json}

private theorem namesVariant_variantName (index : Nat) (variant : Json) :
    NamesVariant index variant (variantName index variant) := by
  cases variant with
  | text name => exact .own .text
  | object members =>
    cases told : Json.textAt? (.object members) "name" with
    | some name =>
      have named : variantName index (.object members) = name := by simp [variantName, told]
      rw [named]
      exact .own (.object (Json.Members.text?_eq_some.mp told))
    | none =>
      have unnamed : variantName index (.object members) = index.repr := by simp [variantName, told]
      rw [unnamed]
      apply NamesVariant.position
      rintro name (_ | found)
      have other : Json.textAt? (.object members) "name" = some name :=
        Json.Members.text?_eq_some.mpr found
      rw [told] at other
      cases other
  | null | bool _ | number _ | list _ =>
    apply NamesVariant.position
    intro name names
    cases names

private theorem namesVariant_variantNames (variants : List Json) :
    List.Forall₂ (fun variant name => NamesVariant variant.2 variant.1 name)
      variants.zipIdx (variantNames variants) := by
  rw [variantNames, List.forall₂_map_right_iff, List.forall₂_same]
  intro variant _
  exact namesVariant_variantName variant.2 variant.1

/-- What an outline says of the value that it was made of. -/
inductive Tells : Json → Outline → Prop
  | leaf {value : Json} {type : DataType} : SaysAlone value type → Tells value (.leaf type)
  | transparent {members : Json.Members} {kind : String} {inner : Json} :
      members.get? "kind" = some (.text kind) → (kind, "type") ∈ wrappers →
      members.get? "type" = some inner → Tells (.object members) (.transparent inner)
  | option {value inner : Json} : Tells value (.option inner)
  | list {value item : Json} : Tells value (.list item)
  | struct {value : Json} {entries : List Json} :
      ListsFields value entries → Tells value (.struct entries)
  | tuple {value : Json} {items : List Json} : Tells value (.tuple items)

private theorem saysAlone_integerOfWidth? {signed : Bool} {digits : List Char} {type : DataType}
    (found : DataType.integerOfWidth? signed digits = some type) : SaysAlone value type := by
  obtain ⟨bits, -, chosen⟩ := Option.bind_eq_some_iff.mp found
  split at chosen
  · next listed =>
    cases chosen
    exact ⟨listed, nofun, nofun⟩
  · cases chosen

private theorem saysAlone_named (name : String) : SaysAlone value (DataType.named name) := by
  unfold DataType.named
  split
  case h_9 =>
    cases found : DataType.integerNamed? name with
    | none => exact ⟨trivial, nofun, nofun⟩
    | some type =>
      unfold DataType.integerNamed? at found
      split at found
      · exact saysAlone_integerOfWidth? found
      · exact saysAlone_integerOfWidth? found
      · cases found
  all_goals exact ⟨by simp [DataType.Settled], nofun, nofun⟩

private theorem saysAlone_reference (reference' : Json) :
    SaysAlone value (reference reference') := by
  unfold reference
  split
  · exact ⟨trivial, nofun, nofun⟩
  · cases reference'.textAt? "name" <;> exact ⟨trivial, nofun, nofun⟩

private theorem saysAlone_unknown (description : String) : SaysAlone value (.unknown description) :=
  ⟨trivial, nofun, nofun⟩

private theorem saysAlone_publicKey : SaysAlone value .publicKey := ⟨trivial, nofun, nofun⟩

private theorem tells_wrap {key : String} {wrapper : Json → Outline}
    {otherwise : DataType → DataType}
    (unread : ∀ inner, members.get? key = some inner → Tells value (wrapper inner))
    (absent : SaysAlone value (otherwise (missing key))) :
    Tells value (wrap members key wrapper otherwise) := by
  unfold wrap
  cases found : members.get? key with
  | none => exact .leaf absent
  | some inner => exact unread inner found

private theorem tells_ofKind {kind : String} (tagged : members.get? "kind" = some (.text kind)) :
    Tells (.object members) (ofKind kind members) := by
  unfold ofKind
  split
  case h_1 =>
    cases members.text? "format" with
    | none => exact .leaf (saysAlone_unknown _)
    | some format => exact .leaf (saysAlone_named format)
  case h_2 | h_3 | h_4 | h_5 => exact .leaf ⟨trivial, nofun, nofun⟩
  case h_6 | h_7 | h_8 => exact tells_wrap (fun _ _ => .option) ⟨trivial, nofun, nofun⟩
  case h_9 | h_10 => exact tells_wrap (fun _ _ => .list) ⟨trivial, nofun, nofun⟩
  case h_11 | h_12 => exact .struct (.node tagged (by simp))
  case h_13 => exact .tuple
  case h_14 | h_15 =>
    refine .leaf ⟨trivial, nofun, ?_⟩
    rintro names ⟨⟩
    exact ⟨_, .node tagged (by simp), namesVariant_variantNames _⟩
  case h_16 => exact .leaf (saysAlone_reference _)
  case h_23 => exact .leaf (saysAlone_unknown _)
  all_goals
    apply tells_wrap
    · intro inner found
      exact .transparent tagged (by simp [wrappers]) found
    · exact saysAlone_unknown _

private theorem tells_ofArray (array : Json) : Tells value (ofArray array) := by
  unfold ofArray
  split
  · exact .leaf ⟨trivial, nofun, nofun⟩
  · exact .list
  · exact .list

private theorem tells_ofForm (untagged : members.Untagged) :
    Tells (.object members) (ofForm members) := by
  unfold ofForm
  cases options : firstOf members ["option", "coption"] with
  | some inner => exact .option
  | none =>
  cases lists : firstOf members ["vec", "hashSet", "bTreeSet"] with
  | some item => exact .list
  | none =>
  cases array : members.get? "array" with
  | some value => exact tells_ofArray value
  | none =>
  cases defined : members.get? "defined" with
  | some name => exact .leaf (saysAlone_reference name)
  | none =>
  cases struct : members.get? "struct" with
  | some value =>
    refine .struct (.form untagged ?_ struct)
    simpa [formKeys, and_assoc] using And.intro (firstOf_eq_none.mp options)
      (And.intro (firstOf_eq_none.mp lists) ⟨array, defined⟩)
  | none =>
  cases members.list? "tuple" with
  | some items => exact .tuple
  | none =>
    show Tells _ (if members.text? "name" = some "publicKey" then _ else _)
    split
    · exact .leaf saysAlone_publicKey
    · exact .leaf (saysAlone_unknown _)

private theorem tells_ofJson (value : Json) : Tells value (ofJson value) := by
  cases value with
  | text name => exact .leaf (saysAlone_named name)
  | object members =>
    cases told : Json.Members.text? members "kind" with
    | some kind =>
      have tagged := Json.Members.text?_eq_some.mp told
      rw [ofJson_of_kind tagged]
      exact tells_ofKind tagged
    | none =>
      have untagged : Json.Members.Untagged members := by
        intro kind found
        rw [Json.Members.text?_eq_some.mpr found] at told
        cases told
      rw [ofJson_of_untagged untagged]
      exact tells_ofForm untagged
  | null | bool _ | number _ | list _ => exact .leaf (saysAlone_unknown _)

end Outline

namespace DataType

variable {levels : Nat} {context : String} {value : Json} {type : DataType}

theorem SettledThroughout.of_inner (settled : type.Settled)
    (inner : ∀ part ∈ type.inner, part.SettledThroughout) : type.SettledThroughout := by
  intro level node lies
  cases lies with
  | root => exact settled
  | inside member below => exact inner _ member _ _ below

private theorem LacksItem.settledThroughout {node : DataType} (lacks : LacksItem value node) :
    node.SettledThroughout := by
  cases lacks <;> exact .of_inner trivial nofun

mutual

theorem Keeps.settledThroughout {value : Json} {type : DataType} :
    Keeps value type → type.SettledThroughout
  | .plain closed settled _ _ => .of_inner settled (by simp [closed])
  | .lacking lacks around => by
    have inside : ∀ part ∈ type.inner, part.SettledThroughout := by
      intro part member
      rcases around with rfl | rfl <;> rw [List.mem_singleton.mp member] <;>
        exact lacks.settledThroughout
    have settled : type.Settled := by rcases around with rfl | rfl <;> trivial
    exact .of_inner settled inside
  | .wrapper _ _ _ inner => inner.settledThroughout
  | .option _ inner => .of_inner trivial fun _ member =>
    List.mem_singleton.mp member ▸ inner.settledThroughout
  | .list _ item => .of_inner trivial fun _ member =>
    List.mem_singleton.mp member ▸ item.settledThroughout
  | .tuple _ items => .of_inner trivial items.settledThroughout
  | .enum _ _ => .of_inner trivial nofun
  | .struct _ fields => by
    have settled := fields.settledThroughout
    refine .of_inner (fun field member => (settled field member).1) ?_
    intro part member
    obtain ⟨field, there, rfl⟩ := List.mem_map.mp member
    exact (settled field there).2

private theorem KeepsFields.settledThroughout {index : Nat} {entries : List Json}
    {fields : List Argument} : KeepsFields index entries fields →
    ∀ field ∈ fields, Docs.Trimmed field.docs ∧ field.type.SettledThroughout
  | .nil => nofun
  | .cons _ trimmed first rest => by
    rw [List.forall_mem_cons]
    exact ⟨⟨trimmed, first.settledThroughout⟩, rest.settledThroughout⟩

private theorem KeepsItems.settledThroughout {items : List Json} {types : List DataType} :
    KeepsItems items types → ∀ type ∈ types, type.SettledThroughout
  | .nil => nofun
  | .cons first rest => by
    rw [List.forall_mem_cons]
    exact ⟨first.settledThroughout, rest.settledThroughout⟩

end

private theorem KeepsFields.of_forall₂ {index : Nat} {entries : List Json} {fields : List Argument}
    (h : List.Forall₂ (fun entry field => NamesField entry.2 entry.1 field.name ∧
      Docs.Trimmed field.docs ∧ Keeps (fieldType entry.1).2 field.type)
        (entries.zipIdx index) fields) : KeepsFields index entries fields := by
  induction entries generalizing index fields with
  | nil =>
    cases h
    exact .nil
  | cons entry rest ih =>
    rw [List.zipIdx_cons] at h
    obtain _ | ⟨⟨named, trimmed, kept⟩, others⟩ := h
    exact .cons named trimmed kept (ih others)

private theorem KeepsItems.of_forall₂ {items : List Json} {types : List DataType}
    (h : List.Forall₂ Keeps items types) : KeepsItems items types := by
  induction h with
  | nil => exact .nil
  | cons first _ ih => exact .cons first ih

private theorem namesField_ofJson (index : Nat) (entry : Json) :
    NamesField index entry (FieldOutline.ofJson index entry).name ∧
      Docs.Trimmed (FieldOutline.ofJson index entry).docs := by
  cases named : entry.textAt? "name" with
  | none =>
    have positional : FieldOutline.ofJson index entry = ⟨index.repr, [], false, entry, false⟩ := by
      simp [FieldOutline.ofJson, named]
    rw [positional]
    exact ⟨.position (.inl named), List.forall_mem_nil _⟩
  | some name =>
    cases typed : entry.get? "type" with
    | none =>
      have positional : FieldOutline.ofJson index entry =
          ⟨index.repr, [], false, entry, false⟩ := by
        simp [FieldOutline.ofJson, typed]
      rw [positional]
      exact ⟨.position (.inr typed), List.forall_mem_nil _⟩
    | some type =>
      have own : FieldOutline.ofJson index entry = ⟨name, Docs.ofMembers (entry.asObject?.getD []),
          isOptional (entry.asObject?.getD []), type, true⟩ := by
        simp [FieldOutline.ofJson, named, typed]
      rw [own]
      exact ⟨.own named typed, Docs.trimmed_ofMembers⟩

private theorem keepsFields_of_readFields {read : String → Json → Except TooDeep DataType}
    {entries : List Json} {fields : List Argument}
    (kept : ∀ {place value type}, read place value = .ok type → Keeps value type)
    (h : readFields read context entries = .ok fields) : KeepsFields 0 entries fields := by
  apply KeepsFields.of_forall₂
  refine (mapM_eq_ok_iff.mp h).imp ?_
  rintro ⟨entry, index⟩ field made
  obtain ⟨type, typed, made⟩ := except_bind_eq_ok.mp made
  cases made
  obtain ⟨named, trimmed⟩ := namesField_ofJson index entry
  rw [(fieldOutline_eq index entry context).1] at typed
  exact ⟨named, trimmed, kept typed⟩

private theorem Keeps.noItems : Keeps value (.tuple []) := .plain rfl trivial nofun nofun

/-- What is read keeps the entries of its value. The induction is on the levels that are left; each
form of an outline leaves inner values one level down. -/
theorem keeps_of_readAt (read : readAt levels context value = .ok type) : Keeps value type := by
  induction levels generalizing context value type with
  | zero => cases read
  | succ levels ih =>
    have tells := Outline.tells_ofJson value
    have holds : ∀ types, (Outline.ofJson value).inside = types → types ≠ [] →
        Holds value types := by
      rintro _ rfl some_inside
      exact Outline.holds_of_inside some_inside
    have closed := Outline.leafClosed_ofJson value
    rw [readAt] at read
    cases outline : Outline.ofJson value with
    | leaf leaf =>
      rw [outline] at read tells closed
      cases read
      cases tells with
      | leaf alone =>
        rcases closed with none | ⟨node, around, lacks⟩
        · by_cases listed : ∃ names, type = .enum names
          · obtain ⟨names, rfl⟩ := listed
            obtain ⟨variants, lists, named⟩ := alone.enum names rfl
            exact .enum lists named
          · exact .plain none alone.settled (fun names same => listed ⟨names, same⟩) alone.struct
        · exact .lacking lacks around
    | transparent inner =>
      rw [outline] at read tells
      cases tells with
      | transparent tagged listed found => exact .wrapper tagged listed found (ih read)
    | option inner =>
      rw [outline] at read
      obtain ⟨inner_type, read_inner, rfl⟩ := except_map_eq_ok.mp read
      exact .option (holds _ (by rw [outline]; rfl) (by simp)) (ih read_inner)
    | list item =>
      rw [outline] at read
      obtain ⟨item_type, read_item, rfl⟩ := except_map_eq_ok.mp read
      exact .list (holds _ (by rw [outline]; rfl) (by simp)) (ih read_item)
    | struct entries =>
      rw [outline] at read tells
      obtain ⟨fields, read_fields, rfl⟩ := except_map_eq_ok.mp read
      cases tells with
      | struct lists => exact .struct lists (keepsFields_of_readFields ih read_fields)
    | tuple items =>
      rw [outline] at read
      obtain ⟨types, read_items, rfl⟩ := except_map_eq_ok.mp read
      have kept : List.Forall₂ Keeps items types := (mapM_eq_ok_iff.mp read_items).imp fun _ _ => ih
      cases items with
      | nil =>
        cases kept
        exact .noItems
      | cons item rest =>
        exact .tuple (holds _ (by rw [outline]; rfl) (by simp)) (.of_forall₂ kept)

end DataType

end UiScaffold
