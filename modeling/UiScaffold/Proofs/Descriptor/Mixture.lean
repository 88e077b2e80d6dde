import Mathlib.Data.List.DropRight
import UiScaffold.Proofs.Descriptor.Depth
import UiScaffold.Proofs.Descriptor.Vocabulary

/-!
Types in any mixture of the vocabularies.

A value encodes a type when it has one of the accepted forms and the values inside it encode the
inner types, each in whichever vocabulary. The height of an encoding is the length of the longest
chain of encodings inside it. An encoding is read as its type as long as its height is within the
bound on nesting, wherever it stands; a higher one is refused with the names of the fields on the
first chain that is too long.
-/

set_option autoImplicit false
set_option relaxedAutoImplicit false

namespace UiScaffold

inductive Json.Names : Json → String → Prop
  | text {name : String} : Names (.text name) name
  | object {members : Json.Members} {name : String} :
      members.get? "name" = some (.text name) → Names (.object members) name

/-- No text under `kind`, so that the form keys decide. -/
def Json.Members.Untagged (members : Json.Members) : Prop :=
  ∀ kind, members.get? "kind" ≠ some (.text kind)

namespace DataType

def scalarNames : List (String × DataType) :=
  [("bool", .bool), ("string", .string), ("publicKey", .publicKey), ("pubkey", .publicKey),
    ("bytes", .bytes), ("f32", .float 32), ("f64", .float 64), ("shortU16", .integer 16 false),
    ("u8", .integer 8 false), ("u16", .integer 16 false), ("u32", .integer 32 false),
    ("u64", .integer 64 false), ("u128", .integer 128 false), ("u256", .integer 256 false),
    ("i8", .integer 8 true), ("i16", .integer 16 true), ("i32", .integer 32 true),
    ("i64", .integer 64 true), ("i128", .integer 128 true), ("i256", .integer 256 true)]

/-- The kinds of nodes that say everything with their kind. -/
def plainNodes : List (String × DataType) :=
  [("booleanTypeNode", .bool), ("stringTypeNode", .string), ("publicKeyTypeNode", .publicKey),
    ("bytesTypeNode", .bytes)]

/-- An object without a kind that has one form key only. -/
structure HasForm (members : Json.Members) (key : String) (value : Json) : Prop where
  untagged : members.Untagged
  found : members.get? key = some value
  alone : ∀ other ∈ formKeys, other ≠ key → members.get? other = none

/-- The name of a variant: its own, or its position if it has none. -/
inductive NamesVariant : Nat → Json → String → Prop
  | own {index : Nat} {variant : Json} {name : String} :
      variant.Names name → NamesVariant index variant name
  | position {index : Nat} {variant : Json} :
      (∀ name, ¬ variant.Names name) → NamesVariant index variant index.repr

mutual

/-- The values that encode a type, each with the length of the longest chain of encodings in it. -/
inductive Encodes : Nat → Json → DataType → Prop
  | scalar {name : String} {type : DataType} :
      (name, type) ∈ scalarNames → Encodes 0 (.text name) type
  | publicKey {members : Json.Members} :
      members.Untagged → (∀ key ∈ formKeys, members.get? key = none) →
      members.get? "name" = some (.text "publicKey") → Encodes 0 (.object members) .publicKey
  | option {height : Nat} {members : Json.Members} {key : String} {inner : Json}
      {type : DataType} :
      key ∈ ["option", "coption"] → HasForm members key inner → Encodes height inner type →
      Encodes (height + 1) (.object members) (.option type)
  | list {height : Nat} {members : Json.Members} {key : String} {item : Json} {type : DataType} :
      key ∈ ["vec", "hashSet", "bTreeSet"] → HasForm members key item → Encodes height item type →
      Encodes (height + 1) (.object members) (.list type)
  | sizedArray {height : Nat} {members : Json.Members} {item : Json} {size : List Json}
      {type : DataType} :
      HasForm members "array" (.list (item :: size)) → Encodes height item type →
      Encodes (height + 1) (.object members) (.list type)
  | array {height : Nat} {members : Json.Members} {item : Json} {type : DataType} :
      HasForm members "array" item → (∀ items, item ≠ .list items) → Encodes height item type →
      Encodes (height + 1) (.object members) (.list type)
  | defined {members : Json.Members} {reference : Json} {name : String} :
      HasForm members "defined" reference → reference.Names name →
      Encodes 0 (.object members) (.defined name)
  | struct {height : Nat} {members inner : Json.Members} {fields : List Json}
      {arguments : List Argument} :
      HasForm members "struct" (.object inner) → inner.get? "fields" = some (.list fields) →
      EncodesFields height 0 fields arguments →
      Encodes height (.object members) (.struct arguments)
  | tuple {height : Nat} {members : Json.Members} {items : List Json} {types : List DataType} :
      HasForm members "tuple" (.list items) → EncodesItems height items types →
      Encodes height (.object members) (.tuple types)
  | numberNode {members : Json.Members} {format : String} {type : DataType} :
      members.get? "kind" = some (.text "numberTypeNode") →
      members.get? "format" = some (.text format) → (format, type) ∈ scalarNames →
      Encodes 0 (.object members) type
  | plainNode {members : Json.Members} {kind : String} {type : DataType} :
      members.get? "kind" = some (.text kind) → (kind, type) ∈ plainNodes →
      Encodes 0 (.object members) type
  | optionNode {height : Nat} {members : Json.Members} {kind : String} {inner : Json}
      {type : DataType} :
      members.get? "kind" = some (.text kind) →
      kind ∈ ["optionTypeNode", "zeroableOptionTypeNode", "remainderOptionTypeNode"] →
      members.get? "item" = some inner → Encodes height inner type →
      Encodes (height + 1) (.object members) (.option type)
  | listNode {height : Nat} {members : Json.Members} {kind : String} {item : Json}
      {type : DataType} :
      members.get? "kind" = some (.text kind) → kind ∈ ["arrayTypeNode", "setTypeNode"] →
      members.get? "item" = some item → Encodes height item type →
      Encodes (height + 1) (.object members) (.list type)
  | structNode {height : Nat} {members : Json.Members} {kind : String} {fields : List Json}
      {arguments : List Argument} :
      members.get? "kind" = some (.text kind) → kind ∈ ["structTypeNode", "struct"] →
      members.get? "fields" = some (.list fields) → EncodesFields height 0 fields arguments →
      Encodes height (.object members) (.struct arguments)
  | tupleNode {height : Nat} {members : Json.Members} {items : List Json}
      {types : List DataType} :
      members.get? "kind" = some (.text "tupleTypeNode") →
      members.get? "items" = some (.list items) → EncodesItems height items types →
      Encodes height (.object members) (.tuple types)
  | enumNode {members : Json.Members} {kind : String} {variants : List Json}
      {names : List String} :
      members.get? "kind" = some (.text kind) → kind ∈ ["enumTypeNode", "enum"] →
      members.get? "variants" = some (.list variants) →
      List.Forall₂ (fun variant name => NamesVariant variant.2 variant.1 name)
        variants.zipIdx names →
      Encodes 0 (.object members) (.enum names)
  | linkNode {members : Json.Members} {reference : Json} {name : String} :
      members.get? "kind" = some (.text "definedTypeLinkNode") →
      members.get? "name" = some reference → reference.Names name →
      Encodes 0 (.object members) (.defined name)
  | wrapperNode {height : Nat} {members : Json.Members} {kind : String} {inner : Json}
      {type : DataType} :
      members.get? "kind" = some (.text kind) →
      kind ∈ ["sizePrefixTypeNode", "fixedSizeTypeNode", "hiddenPrefixTypeNode",
        "hiddenSuffixTypeNode", "preOffsetTypeNode", "postOffsetTypeNode"] →
      members.get? "type" = some inner → Encodes height inner type →
      Encodes (height + 1) (.object members) type

/-- The values that encode a field at a position: an object with a name and the encoding of its
type, or the bare encoding of a type, which takes its position as its name. -/
inductive EncodesField : Nat → Nat → Json → Argument → Prop
  | named {height position : Nat} {members : Json.Members} {name : String} {optional : Bool}
      {inner : Json} {type : DataType} :
      members.get? "name" = some (.text name) → members.get? "type" = some inner →
      (optional = true ↔ ∃ key ∈ ["isOptional", "optional"],
        members.get? key = some (.bool true)) →
      Encodes height inner type →
      EncodesField height position (.object members)
        (.mk name (Docs.ofMembers members) optional type)
  | bare {height position : Nat} {field : Json} {type : DataType} :
      field.textAt? "name" = none ∨ field.get? "type" = none → Encodes height field type →
      EncodesField height position field (.mk position.repr [] false type)

inductive EncodesFields : Nat → Nat → List Json → List Argument → Prop
  | nil {position : Nat} : EncodesFields 0 position [] []
  | cons {height others position : Nat} {field : Json} {rest : List Json} {argument : Argument}
      {arguments : List Argument} :
      EncodesField height position field argument →
      EncodesFields others (position + 1) rest arguments →
      EncodesFields (max (height + 1) others) position (field :: rest) (argument :: arguments)

inductive EncodesItems : Nat → List Json → List DataType → Prop
  | nil : EncodesItems 0 [] []
  | cons {height others : Nat} {item : Json} {rest : List Json} {type : DataType}
      {types : List DataType} :
      Encodes height item type → EncodesItems others rest types →
      EncodesItems (max (height + 1) others) (item :: rest) (type :: types)

end

/-- The types with an outline whose inner values encode the inner types. -/
inductive FitsOutline : Nat → Outline → DataType → Prop
  | leaf {type : DataType} : FitsOutline 0 (.leaf type) type
  | transparent {height : Nat} {inner : Json} {type : DataType} :
      Encodes height inner type → FitsOutline (height + 1) (.transparent inner) type
  | option {height : Nat} {inner : Json} {type : DataType} :
      Encodes height inner type → FitsOutline (height + 1) (.option inner) (.option type)
  | list {height : Nat} {item : Json} {type : DataType} :
      Encodes height item type → FitsOutline (height + 1) (.list item) (.list type)
  | struct {height : Nat} {fields : List Json} {arguments : List Argument} :
      EncodesFields height 0 fields arguments →
      FitsOutline height (.struct fields) (.struct arguments)
  | tuple {height : Nat} {items : List Json} {types : List DataType} :
      EncodesItems height items types → FitsOutline height (.tuple items) (.tuple types)

theorem named_of_mem_scalarNames {name : String} {type : DataType}
    (listed : (name, type) ∈ scalarNames) : named name = type ∧ type.Known := by
  simp only [scalarNames, List.mem_cons, Prod.mk.injEq, List.not_mem_nil, or_false] at listed
  rcases listed with ⟨rfl, rfl⟩ | ⟨rfl, rfl⟩ | ⟨rfl, rfl⟩ | ⟨rfl, rfl⟩ | ⟨rfl, rfl⟩ | ⟨rfl, rfl⟩ |
    ⟨rfl, rfl⟩ | ⟨rfl, rfl⟩ | ⟨rfl, rfl⟩ | ⟨rfl, rfl⟩ | ⟨rfl, rfl⟩ | ⟨rfl, rfl⟩ | ⟨rfl, rfl⟩ |
    ⟨rfl, rfl⟩ | ⟨rfl, rfl⟩ | ⟨rfl, rfl⟩ | ⟨rfl, rfl⟩ | ⟨rfl, rfl⟩ | ⟨rfl, rfl⟩ | ⟨rfl, rfl⟩ <;>
  exact ⟨rfl, by simp [Known, integerWidths]⟩

private theorem known_of_mem_plainNodes {kind : String} {type : DataType}
    (listed : (kind, type) ∈ plainNodes) : type.Known := by
  simp only [plainNodes, List.mem_cons, Prod.mk.injEq, List.not_mem_nil, or_false] at listed
  rcases listed with ⟨-, rfl⟩ | ⟨-, rfl⟩ | ⟨-, rfl⟩ | ⟨-, rfl⟩ <;> simp [Known]

end DataType

namespace Json.Members

theorem items_of_get? {members : Json.Members} {key : String} {values : List Json}
    (found : members.get? key = some (.list values)) : members.items key = values := by
  simp [items, list?_eq_some.mpr found]

end Json.Members

namespace Text

private theorem trimChars_trimChars (chars : List Char) :
    trimChars (trimChars chars) = trimChars chars := by
  have start : (trimChars chars).dropWhile isBlank = trimChars chars := by
    rw [List.dropWhile_eq_self_iff]
    intro longer
    have cut : trimChars chars <+: chars.dropWhile isBlank := List.rdropWhile_prefix isBlank _
    have first := List.dropWhile_get_zero_not isBlank chars (longer.trans_le cut.length_le)
    rwa [List.get_eq_getElem, ← cut.getElem longer] at first
  rw [trimChars, start]
  exact List.rdropWhile_idempotent isBlank _

private theorem trim_trim (text : String) : trim (trim text) = trim text := by
  simp [trim, trimChars_trimChars]

end Text

theorem Docs.trimmed_ofJson (value : Json) : Trimmed (ofJson value) := by
  intro line member
  cases value with
  | text | list =>
    obtain ⟨written, -, rfl⟩ := List.mem_map.mp member
    exact Text.trim_trim written
  | _ => cases member

theorem Docs.trimmed_ofMembers {members : Json.Members} : Trimmed (ofMembers members) := by
  cases found : members.get? "docs" with
  | none => simp [ofMembers, found, Trimmed]
  | some value => simpa [ofMembers, found] using trimmed_ofJson value

namespace Outline

open DataType

variable {members : Json.Members} {value : Json} {name : String}

private theorem reference_of_names (h : value.Names name) : reference value = .defined name := by
  cases h with
  | text => rfl
  | @object members name found =>
    have told : Json.textAt? (.object members) "name" = some name :=
      Json.Members.text?_eq_some.mpr found
    simp [reference, told]

private theorem variantName_of_namesVariant {index : Nat} (h : NamesVariant index value name) :
    variantName index value = name := by
  cases h with
  | own names =>
    cases names with
    | text => rfl
    | @object members name found =>
      have told : Json.textAt? (.object members) "name" = some name :=
        Json.Members.text?_eq_some.mpr found
      simp [variantName, told]
  | position unnamed =>
    cases value with
    | text own => exact absurd .text (unnamed own)
    | object members =>
      have told : Json.textAt? (.object members) "name" = none :=
        Option.eq_none_iff_forall_ne_some.mpr fun own found =>
          unnamed own (.object (Json.Members.text?_eq_some.mp found))
      simp [variantName, told]
    | _ => rfl

private theorem variantNames_of_forall₂ {variants : List Json} {names : List String}
    (h : List.Forall₂ (fun variant name => NamesVariant variant.2 variant.1 name)
      variants.zipIdx names) : variantNames variants = names := by
  refine List.forall₂_eq_eq_eq ▸ ?_
  rw [variantNames, List.forall₂_map_left_iff]
  exact h.imp fun _ _ => variantName_of_namesVariant

theorem ofJson_of_untagged (untagged : members.Untagged) :
    ofJson (.object members) = ofForm members := by
  have no_kind : Json.Members.text? members "kind" = none :=
    Option.eq_none_iff_forall_ne_some.mpr fun kind told =>
      untagged kind (Json.Members.text?_eq_some.mp told)
  simp only [ofJson, no_kind]

theorem ofJson_of_kind {kind : String} (tagged : members.get? "kind" = some (.text kind)) :
    ofJson (.object members) = ofKind kind members := by
  simp only [ofJson, Json.Members.text?_eq_some.mpr tagged]

private theorem ofForm_publicKey (none : ∀ key ∈ formKeys, members.get? key = none)
    (named : members.get? "name" = some (.text "publicKey")) :
    ofForm members = .leaf .publicKey := by
  simp only [formKeys, List.forall_mem_cons] at none
  simp [ofForm, firstOf, none, Json.Members.list?, Json.Members.text?_eq_some.mpr named]

private theorem ofJson_option {key : String} (listed : key ∈ ["option", "coption"])
    (form : HasForm members key value) : ofJson (.object members) = .option value := by
  rw [ofJson_of_untagged form.untagged]
  obtain ⟨-, found, alone⟩ := form
  simp only [List.mem_cons, List.not_mem_nil, or_false] at listed
  rcases listed with rfl | rfl <;> simp [formKeys] at alone <;> simp [ofForm, firstOf, found, alone]

private theorem ofJson_list {key : String} (listed : key ∈ ["vec", "hashSet", "bTreeSet"])
    (form : HasForm members key value) : ofJson (.object members) = .list value := by
  rw [ofJson_of_untagged form.untagged]
  obtain ⟨-, found, alone⟩ := form
  simp only [List.mem_cons, List.not_mem_nil, or_false] at listed
  rcases listed with rfl | rfl | rfl <;> simp [formKeys] at alone <;>
    simp [ofForm, firstOf, found, alone]

private theorem ofJson_array (form : HasForm members "array" value) :
    ofJson (.object members) = ofArray value := by
  rw [ofJson_of_untagged form.untagged]
  obtain ⟨-, found, alone⟩ := form
  simp [formKeys] at alone
  simp [ofForm, firstOf, found, alone]

private theorem ofArray_of_single (single : ∀ items, value ≠ .list items) :
    ofArray value = .list value := by
  cases value with
  | list items => exact absurd rfl (single items)
  | _ => rfl

private theorem ofJson_defined (form : HasForm members "defined" value) :
    ofJson (.object members) = .leaf (reference value) := by
  rw [ofJson_of_untagged form.untagged]
  obtain ⟨-, found, alone⟩ := form
  simp [formKeys] at alone
  simp [ofForm, firstOf, found, alone]

private theorem ofJson_struct (form : HasForm members "struct" value) :
    ofJson (.object members) = .struct (value.itemsAt "fields") := by
  rw [ofJson_of_untagged form.untagged]
  obtain ⟨-, found, alone⟩ := form
  simp [formKeys] at alone
  simp [ofForm, firstOf, found, alone]

private theorem ofJson_tuple {items : List Json} (form : HasForm members "tuple" (.list items)) :
    ofJson (.object members) = .tuple items := by
  rw [ofJson_of_untagged form.untagged]
  obtain ⟨-, found, alone⟩ := form
  simp [formKeys] at alone
  simp [ofForm, firstOf, Json.Members.list?_eq_some.mpr found, alone]

/-- The outline of an encoding is the outermost form of its type; inside it stand encodings. -/
private theorem fitsOutline_of_encodes {height : Nat} {type : DataType}
    (h : Encodes height value type) : FitsOutline height (ofJson value) type := by
  cases h with
  | scalar listed =>
    rw [ofJson, (named_of_mem_scalarNames listed).1]
    exact .leaf
  | publicKey untagged none named =>
    rw [ofJson_of_untagged untagged, ofForm_publicKey none named]
    exact .leaf
  | option listed form inner =>
    rw [ofJson_option listed form]
    exact .option inner
  | list listed form item =>
    rw [ofJson_list listed form]
    exact .list item
  | sizedArray form item =>
    rw [ofJson_array form]
    exact .list item
  | array form single item =>
    rw [ofJson_array form, ofArray_of_single single]
    exact .list item
  | defined form names =>
    rw [ofJson_defined form, reference_of_names names]
    exact .leaf
  | @struct _ _ inner _ _ form found fields =>
    have items : Json.itemsAt (.object inner) "fields" = _ := Json.Members.items_of_get? found
    rw [ofJson_struct form, items]
    exact .struct fields
  | tuple form items =>
    rw [ofJson_tuple form]
    exact .tuple items
  | numberNode tagged found listed =>
    rw [ofJson_of_kind tagged]
    simp only [ofKind, Json.Members.text?_eq_some.mpr found, (named_of_mem_scalarNames listed).1]
    exact .leaf
  | plainNode tagged listed =>
    rw [ofJson_of_kind tagged]
    simp only [plainNodes, List.mem_cons, Prod.mk.injEq, List.not_mem_nil, or_false] at listed
    rcases listed with ⟨rfl, rfl⟩ | ⟨rfl, rfl⟩ | ⟨rfl, rfl⟩ | ⟨rfl, rfl⟩ <;> exact .leaf
  | optionNode tagged listed found inner =>
    rw [ofJson_of_kind tagged]
    simp only [List.mem_cons, List.not_mem_nil, or_false] at listed
    rcases listed with rfl | rfl | rfl <;> simp only [ofKind, wrap, found] <;> exact .option inner
  | listNode tagged listed found item =>
    rw [ofJson_of_kind tagged]
    simp only [List.mem_cons, List.not_mem_nil, or_false] at listed
    rcases listed with rfl | rfl <;> simp only [ofKind, wrap, found] <;> exact .list item
  | structNode tagged listed found fields =>
    rw [ofJson_of_kind tagged]
    simp only [List.mem_cons, List.not_mem_nil, or_false] at listed
    rcases listed with rfl | rfl <;> simp only [ofKind, Json.Members.items_of_get? found] <;>
      exact .struct fields
  | tupleNode tagged found items =>
    rw [ofJson_of_kind tagged]
    simp only [ofKind, Json.Members.items_of_get? found]
    exact .tuple items
  | enumNode tagged listed found names =>
    rw [ofJson_of_kind tagged]
    simp only [List.mem_cons, List.not_mem_nil, or_false] at listed
    rcases listed with rfl | rfl <;>
      simp only [ofKind, Json.Members.items_of_get? found, variantNames_of_forall₂ names] <;>
      exact .leaf
  | linkNode tagged found names =>
    rw [ofJson_of_kind tagged]
    simp only [ofKind, found, Option.getD_some, reference_of_names names]
    exact .leaf
  | wrapperNode tagged listed found inner =>
    rw [ofJson_of_kind tagged]
    simp only [List.mem_cons, List.not_mem_nil, or_false] at listed
    rcases listed with rfl | rfl | rfl | rfl | rfl | rfl <;> simp only [ofKind, wrap, found] <;>
      exact .transparent inner

end Outline

namespace DataType

variable {height position level : Nat} {value field : Json} {type : DataType} {argument : Argument}
  {values : List Json} {types : List DataType} {arguments : List Argument}

private theorem forall₂_of_encodesItems (h : EncodesItems height values types) :
    List.Forall₂ (fun item type => ∃ below < height, Encodes below item type) values types := by
  induction values generalizing height types with
  | nil =>
    cases h
    exact .nil
  | cons item rest ih =>
    obtain _ | ⟨inner, more⟩ := h
    refine .cons ⟨_, by omega, inner⟩ ((ih more).imp ?_)
    rintro item type ⟨below, lower, encodes⟩
    exact ⟨below, by omega, encodes⟩

private theorem forall₂_of_encodesFields (h : EncodesFields height position values arguments) :
    List.Forall₂ (fun field argument =>
      ∃ below < height, EncodesField below field.2 field.1 argument)
        (values.zipIdx position) arguments := by
  induction values generalizing height position arguments with
  | nil =>
    cases h
    exact .nil
  | cons field rest ih =>
    obtain _ | ⟨first, more⟩ := h
    rw [List.zipIdx_cons]
    refine .cons ⟨_, by omega, first⟩ ((ih more).imp ?_)
    rintro field argument ⟨below, lower, encodes⟩
    exact ⟨below, by omega, encodes⟩

private theorem fieldOutline_of_encodesField (h : EncodesField height position field argument) :
    ∃ type isNamed, FieldOutline.ofJson position field =
        ⟨argument.name, argument.docs, argument.optional, type, isNamed⟩ ∧
      Encodes height type argument.type := by
  cases h with
  | @named _ _ members name optional inner type named typed flag encodes =>
    have name_eq : Json.textAt? (.object members) "name" = some name :=
      Json.Members.text?_eq_some.mpr named
    have type_eq : Json.get? (.object members) "type" = some inner := typed
    have flag_eq : isOptional members = optional := by
      rw [Bool.eq_iff_iff, flag]
      simp [isOptional, Json.Members.anyTrue, Json.Members.isTrue_eq_true]
    refine ⟨inner, true, ?_, encodes⟩
    simp only [FieldOutline.ofJson, name_eq, type_eq, Json.asObject?, Option.getD_some, flag_eq]
    rfl
  | bare unnamed encodes =>
    refine ⟨field, false, ?_, encodes⟩
    rcases unnamed with missing | missing <;> unfold FieldOutline.ofJson <;> rw [missing]
    · rfl
    · cases field.textAt? "name" <;> rfl

private theorem readAt_of_encodes {levels : Nat} {context : String} (h : Encodes height value type)
    (within : height < levels) : readAt levels context value = .ok type := by
  induction levels generalizing height context value type with
  | zero => omega
  | succ levels ih =>
    rw [readAt]
    have fits := Outline.fitsOutline_of_encodes h
    generalize Outline.ofJson value = outline at fits ⊢
    cases fits with
    | leaf => rfl
    | transparent inner => exact ih inner (by omega)
    | option inner =>
      simp only [ih inner (by omega)]
      rfl
    | list item =>
      simp only [ih item (by omega)]
      rfl
    | @struct _ values arguments fields =>
      have read : readFields (readAt levels) context values = .ok arguments := by
        refine mapM_eq_ok_iff.mpr ((forall₂_of_encodesFields fields).imp ?_)
        rintro ⟨field, position⟩ argument ⟨below, lower, encodes⟩
        obtain ⟨written, isNamed, outline, encodes⟩ := fieldOutline_of_encodesField encodes
        simp only [outline]
        exact except_bind_eq_ok.mpr ⟨argument.type, ih encodes (by omega), by cases argument; rfl⟩
      simp only [read]
      rfl
    | @tuple _ values types items =>
      have read : values.mapM (readAt levels context) = .ok types := by
        refine mapM_eq_ok_iff.mpr ((forall₂_of_encodesItems items).imp ?_)
        rintro item type ⟨below, lower, encodes⟩
        exact ih encodes (by omega)
      simp only [read]
      rfl

private theorem exists_high_item (h : EncodesItems height values types) (high : level < height) :
    ∃ item ∈ values, ∃ above type, level ≤ above ∧ Encodes above item type := by
  induction values generalizing height types with
  | nil =>
    cases h
    omega
  | cons item rest ih =>
    obtain _ | @⟨first, others, _, _, type, _, inner, more⟩ := h
    by_cases here : level ≤ first
    · exact ⟨item, List.mem_cons_self, first, type, here, inner⟩
    · obtain ⟨other, there, found⟩ := ih more (by omega)
      exact ⟨other, List.mem_cons_of_mem item there, found⟩

private theorem exists_high_field (h : EncodesFields height position values arguments)
    (high : level < height) :
    ∃ field ∈ values, ∃ above type, level ≤ above ∧ Encodes above (fieldType field).2 type := by
  induction values generalizing height position arguments with
  | nil =>
    cases h
    omega
  | cons field rest ih =>
    obtain _ | @⟨first, others, _, _, _, argument, _, inner, more⟩ := h
    by_cases here : level ≤ first
    · obtain ⟨written, isNamed, outline, encodes⟩ := fieldOutline_of_encodesField inner
      have same : written = (fieldType field).2 := by
        rw [← (fieldOutline_eq position field "").1, outline]
      exact ⟨field, List.mem_cons_self, first, argument.type, here, same ▸ encodes⟩
    · obtain ⟨other, there, found⟩ := ih more (by omega)
      exact ⟨other, List.mem_cons_of_mem field there, found⟩

private theorem exists_high_inner {outline : Outline} (h : FitsOutline height outline type)
    (high : level < height) :
    ∃ inner ∈ outline.inside, ∃ above type, level ≤ above ∧ Encodes above inner.2 type := by
  cases h with
  | leaf => omega
  | transparent inner | option inner | list inner =>
    exact ⟨_, List.mem_cons_self, _, _, Nat.le_of_lt_succ high, inner⟩
  | struct fields =>
    obtain ⟨field, member, found⟩ := exists_high_field fields high
    exact ⟨fieldType field, List.mem_map_of_mem member, found⟩
  | tuple items =>
    obtain ⟨item, member, found⟩ := exists_high_item items high
    exact ⟨(none, item), List.mem_map_of_mem member, found⟩

private theorem nests_of_encodes (h : Encodes height value type) (within : level ≤ height) :
    ∃ names, Nests level value names := by
  induction level generalizing height value type with
  | zero => exact ⟨[], rfl⟩
  | succ level ih =>
    obtain ⟨inner, member, above, type, high, encodes⟩ :=
      exists_high_inner (Outline.fitsOutline_of_encodes h) within
    obtain ⟨names, deep⟩ := ih encodes high
    simp only [nests_succ_iff]
    exact Earliest.exists_iff.mpr ⟨inner, member, _, names, deep, rfl⟩

mutual

private theorem known_of_encodes {height : Nat} {value : Json} {type : DataType} :
    Encodes height value type → type.Known
  | .scalar listed | .numberNode _ _ listed => (named_of_mem_scalarNames listed).2
  | .plainNode _ listed => known_of_mem_plainNodes listed
  | .publicKey .. | .defined .. | .enumNode .. | .linkNode .. => by simp [Known]
  | .option _ _ inner | .optionNode _ _ _ inner => by simpa [Known] using known_of_encodes inner
  | .list _ _ item | .sizedArray _ item | .array _ _ item | .listNode _ _ _ item => by
    simpa [Known] using known_of_encodes item
  | .struct _ _ fields | .structNode _ _ _ fields => by
    simpa [Known] using knownFields_of_encodes fields
  | .tuple _ items | .tupleNode _ _ items => by simpa [Known] using knownItems_of_encodes items
  | .wrapperNode _ _ _ inner => known_of_encodes inner

private theorem knownField_of_encodes {height position : Nat} {value : Json} {argument : Argument} :
    EncodesField height position value argument → Docs.Trimmed argument.docs ∧ argument.type.Known
  | .named _ _ _ encodes => ⟨Docs.trimmed_ofMembers, known_of_encodes encodes⟩
  | .bare _ encodes => ⟨List.forall_mem_nil _, known_of_encodes encodes⟩

private theorem knownFields_of_encodes {height position : Nat} {values : List Json}
    {arguments : List Argument} :
    EncodesFields height position values arguments → KnownFields arguments
  | .nil => by simp [KnownFields]
  | @EncodesFields.cons _ _ _ _ _ (.mk ..) _ first more => by
    rw [KnownFields]
    exact ⟨knownField_of_encodes first, knownFields_of_encodes more⟩

private theorem knownItems_of_encodes {height : Nat} {values : List Json} {types : List DataType} :
    EncodesItems height values types → KnownItems types
  | .nil => by simp [KnownItems]
  | .cons encodes more => by
    simpa [KnownItems] using ⟨known_of_encodes encodes, knownItems_of_encodes more⟩

end

/-- A value that encodes a type, with the vocabularies nested in each other in any way, is read as
that type if its longest chain of encodings is within the bound. If the chain is longer the value is
refused at the first place that is too deep. No part of the type is unknown. -/
theorem encodings_are_read_in_any_mixture (h : Encodes height value type) :
    type.Known ∧ ∀ context,
      (height ≤ maxTypeDepth → read context value = .ok type) ∧
      (maxTypeDepth < height → ∃ names, Nests (maxTypeDepth + 1) value names ∧
        read context value = .error ⟨contextAt context names⟩) := by
  refine ⟨known_of_encodes h, fun context => ⟨?_, ?_⟩⟩
  · intro within
    exact readAt_of_encodes h (Nat.lt_succ_of_le within)
  · intro beyond
    obtain ⟨names, deep⟩ := nests_of_encodes h beyond
    exact ⟨names, deep, readAt_eq_error_iff.mpr ⟨names, deep, rfl⟩⟩

private theorem hasForm_singleton {key : String} (apart : key ≠ "kind") :
    HasForm [(key, value)] key value where
  untagged := by simp [Json.Members.Untagged, Json.Members.get?_cons, apart.symm]
  found := by simp [Json.Members.get?_cons]
  alone := by
    intro other _ differ
    simp [Json.Members.get?_cons, differ]

namespace SampleMixture

def tags : Json :=
  .object [("name", .text "tags"), ("optional", .bool true),
    ("type", .object [("vec", .object [("kind", .text "enumTypeNode"),
      ("variants", .list [.text "low", .object [("name", .text "high")], .null])])])]

def owner : Json :=
  .object [("kind", .text "optionTypeNode"),
    ("item", .object [("defined", .object [("name", .text "Owner")])])]

def pair : Json := .object [("tuple", .list [.text "u64", .object [("name", .text "publicKey")]])]

def document : Json :=
  .object [("kind", .text "sizePrefixTypeNode"),
    ("type", .object [("struct", .object [("fields", .list [tags, owner, pair])])])]

def shape : DataType :=
  .struct [.mk "tags" [] true (.list (.enum ["low", "high", "2"])),
    .mk "1" [] false (.option (.defined "Owner")),
    .mk "2" [] false (.tuple [.integer 64 false, .publicKey])]

private theorem tags_encodes :
    EncodesField 1 0 tags (.mk "tags" [] true (.list (.enum ["low", "high", "2"]))) := by
  have third : ∀ name, ¬ Json.null.Names name := by
    intro name names
    cases names
  refine .named rfl rfl (by simp [Json.Members.get?_cons]) ?_
  refine .list (by simp) (hasForm_singleton (by decide)) ?_
  refine .enumNode rfl (by simp) rfl ?_
  exact .cons (.own .text) (.cons (.own (.object rfl)) (.cons (.position third) .nil))

private theorem owner_encodes :
    EncodesField 1 1 owner (.mk "1" [] false (.option (.defined "Owner"))) := by
  refine .bare (.inl rfl) (.optionNode rfl (by simp) rfl ?_)
  exact .defined (hasForm_singleton (by decide)) (.object rfl)

private theorem pair_encodes :
    EncodesField 1 2 pair (.mk "2" [] false (.tuple [.integer 64 false, .publicKey])) := by
  refine .bare (.inl rfl) (.tuple (hasForm_singleton (by decide)) ?_)
  refine .cons (.scalar (by simp [scalarNames])) (.cons (.publicKey ?_ ?_ rfl) .nil)
  · simp [Json.Members.Untagged, Json.Members.get?_cons]
  · simp [formKeys, Json.Members.get?_cons]

private theorem document_encodes : Encodes 3 document shape := by
  refine .wrapperNode rfl (List.mem_cons_self) rfl ?_
  refine .struct (hasForm_singleton (by decide)) rfl ?_
  exact .cons tags_encodes (.cons owner_encodes (.cons pair_encodes .nil))

/-- Options in options, every other one a node. -/
def options : Nat → Json
  | 0 => .text "u8"
  | depth + 1 =>
    if depth % 2 = 0 then .object [("option", options depth)]
    else .object [("kind", .text "optionTypeNode"), ("item", options depth)]

private theorem options_encodes (depth : Nat) : ∃ type, Encodes depth (options depth) type := by
  induction depth with
  | zero => exact ⟨.integer 8 false, .scalar (by simp [scalarNames])⟩
  | succ depth ih =>
    obtain ⟨type, inner⟩ := ih
    refine ⟨.option type, ?_⟩
    rw [options]
    split
    · exact .option List.mem_cons_self (hasForm_singleton (by decide)) inner
    · exact .optionNode rfl List.mem_cons_self rfl inner

end SampleMixture

open SampleMixture in
/-- The sample is read wherever it stands; options beyond the bound are refused. -/
theorem encodings_are_read_in_any_mixture_of_sample :
    (shape.Known ∧ ∀ context, read context document = .ok shape) ∧
      ∀ context, ∃ names, Nests (maxTypeDepth + 1) (options 33) names ∧
        read context (options 33) = .error ⟨contextAt context names⟩ := by
  have sound := encodings_are_read_in_any_mixture document_encodes
  obtain ⟨type, deep⟩ := options_encodes 33
  refine ⟨⟨sound.1, fun context => (sound.2 context).1 (by decide)⟩, fun context => ?_⟩
  exact ((encodings_are_read_in_any_mixture deep).2 context).2 (by decide)

end DataType

end UiScaffold
