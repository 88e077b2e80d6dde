import UiScaffold.Descriptor.Docs
import UiScaffold.Descriptor.Scalar
import UiScaffold.Json.Writer

/-!
One layer of a type in a descriptor.

Two vocabularies are understood, in any mixture: objects with a single form key (`option`, `vec`,
`array`, `defined`, `struct`, `tuple` and their kin) and objects with a `kind`. The outline of a
value says which form it has and which values inside it are types again; it does not look into them.
-/

set_option autoImplicit false
set_option relaxedAutoImplicit false

namespace UiScaffold

/-- A type with its inner types still unread. -/
inductive Outline where
  /-- A type without inner types. -/
  | leaf (type : DataType)
  /-- A wrapper that only says how the inner type is laid out. -/
  | transparent (inner : Json)
  | option (inner : Json)
  | list (item : Json)
  | struct (fields : List Json)
  | tuple (items : List Json)

namespace Outline

/-- A reference to a defined type: its name, or an object that has the name. -/
def reference (value : Json) : DataType :=
  match value with
  | .text name => .defined name
  | other => ((other.textAt? "name").map DataType.defined).getD (.unknown "defined")

/-- The name of a variant; a variant without one is named by its position. -/
def variantName (index : Nat) (variant : Json) : String :=
  match variant with
  | .text name => name
  | other => (other.textAt? "name").getD index.repr

def variantNames (variants : List Json) : List String :=
  variants.zipIdx.map fun (variant, index) => variantName index variant

/-- The description of a type under a key that is missing. -/
def missing (key : String) : DataType := .unknown ("missing `" ++ key ++ "`")

def wrap (members : Json.Members) (key : String) (wrapper : Json → Outline)
    (otherwise : DataType → DataType) : Outline :=
  match members.get? key with
  | some inner => wrapper inner
  | none => leaf (otherwise (missing key))

/-- The keys of an object between braces. -/
def describe (members : Json.Members) : String :=
  "\x7b" ++ ", ".intercalate (members.map (·.1)) ++ "\x7d"

def ofKind (kind : String) (members : Json.Members) : Outline :=
  match kind with
  | "numberTypeNode" =>
    leaf (match members.text? "format" with
      | some format => DataType.named format
      | none => .unknown kind)
  | "booleanTypeNode" => leaf .bool
  | "stringTypeNode" => leaf .string
  | "publicKeyTypeNode" => leaf .publicKey
  | "bytesTypeNode" => leaf .bytes
  | "optionTypeNode" | "zeroableOptionTypeNode" | "remainderOptionTypeNode" =>
    wrap members "item" option .option
  | "arrayTypeNode" | "setTypeNode" => wrap members "item" list .list
  | "structTypeNode" | "struct" => struct (members.items "fields")
  | "tupleTypeNode" => tuple (members.items "items")
  | "enumTypeNode" | "enum" => leaf (.enum (variantNames (members.items "variants")))
  | "definedTypeLinkNode" => leaf (reference ((members.get? "name").getD .null))
  | "sizePrefixTypeNode" | "fixedSizeTypeNode" | "hiddenPrefixTypeNode"
  | "hiddenSuffixTypeNode" | "preOffsetTypeNode" | "postOffsetTypeNode" =>
    wrap members "type" transparent id
  | other => leaf (.unknown other)

/-- The item of an array: the first entry of a list of item and length, or the value itself. -/
def ofArray : Json → Outline
  | .list [] => leaf (.list (.unknown "array"))
  | .list (item :: _) => list item
  | item => list item

def firstOf (members : Json.Members) (keys : List String) : Option Json :=
  keys.findSome? members.get?

/-- An object without a `kind`: the first form key that it has decides. -/
def ofForm (members : Json.Members) : Outline :=
  match firstOf members ["option", "coption"] with
  | some inner => option inner
  | none =>
  match firstOf members ["vec", "hashSet", "bTreeSet"] with
  | some item => list item
  | none =>
  match members.get? "array" with
  | some array => ofArray array
  | none =>
  match members.get? "defined" with
  | some value => leaf (reference value)
  | none =>
  match members.get? "struct" with
  | some inner => struct (inner.itemsAt "fields")
  | none =>
  -- Alone among the forms, a tuple has to hold a list: any other value leaves the form unknown.
  match members.list? "tuple" with
  | some items => tuple items
  | none =>
    if members.text? "name" = some "publicKey" then leaf .publicKey
    else leaf (.unknown (describe members))

def ofJson : Json → Outline
  | .text name => leaf (DataType.named name)
  | .object members =>
    match Json.Members.text? members "kind" with
    | some kind => ofKind kind members
    | none => ofForm members
  | .null => leaf (.unknown "null")
  | other => leaf (.unknown other.compact)

end Outline

def isOptional (members : Json.Members) : Bool := members.anyTrue ["isOptional", "optional"]

/-- A field of a struct with its type still unread. -/
structure FieldOutline where
  name : String
  docs : List String
  optional : Bool
  type : Json
  /-- Whether the field has a name of its own. -/
  isNamed : Bool

/-- A field with a name and a type, or a bare type that is named by its position. -/
def FieldOutline.ofJson (index : Nat) (field : Json) : FieldOutline :=
  match field.textAt? "name", field.get? "type" with
  | some name, some type =>
    let members := field.asObject?.getD []
    ⟨name, Docs.ofMembers members, isOptional members, type, true⟩
  | _, _ => ⟨index.repr, [], false, field, false⟩

/-- The context of the type of a field: a named field appends its name. -/
def FieldOutline.context (field : FieldOutline) (context : String) : String :=
  if field.isNamed then context ++ "." ++ field.name else context

end UiScaffold
