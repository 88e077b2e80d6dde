import UiScaffold.Descriptor.Reader
import UiScaffold.Json.Record

/-!
Writing a program in one of the two vocabularies of descriptors.

Both vocabularies describe the same programs. One writes types as names and as objects with a form
key, the other as nodes with a `kind`; the keys of arguments, definitions, messages and the address
differ too. Accounts have several spellings, which may be chosen account by account.
-/

set_option autoImplicit false
set_option relaxedAutoImplicit false

namespace UiScaffold

open Json.Record (ifPresent)

/-- The vocabularies of descriptors. -/
inductive Vocabulary where
  | anchor
  | codama
deriving DecidableEq

namespace Vocabulary

/-- A word that the vocabularies differ in. -/
def word (anchor codama : String) : Vocabulary → String
  | .anchor => anchor
  | .codama => codama

/-- The kind of a node, where nodes have kinds. -/
def tag (kind : String) : Vocabulary → Json.Members
  | .anchor => []
  | .codama => [("kind", .text kind)]

def scalar (name kind : String) : Vocabulary → Json
  | .anchor => .text name
  | .codama => .object [("kind", .text kind)]

def number (format : String) : Vocabulary → Json
  | .anchor => .text format
  | .codama => .object [("kind", .text "numberTypeNode"), ("format", .text format)]

def wrapper (form kind : String) (inner : Json) : Vocabulary → Json
  | .anchor => .object [(form, inner)]
  | .codama => .object [("kind", .text kind), ("item", inner)]

def tuple (items : List Json) : Vocabulary → Json
  | .anchor => .object [("tuple", .list items)]
  | .codama => .object [("kind", .text "tupleTypeNode"), ("items", .list items)]

def reference (name : String) : Vocabulary → Json
  | .anchor => .object [("defined", .object [("name", .text name)])]
  | .codama => .object [("kind", .text "definedTypeLinkNode"), ("name", .text name)]

/-- The place of the object that describes the program. -/
def document (program : Json.Members) : Vocabulary → Json
  | .anchor => .object program
  | .codama => .object [("kind", .text "rootNode"), ("program", .object program)]

end Vocabulary

def Json.texts (items : List String) : Json := .list (items.map .text)

namespace DataType

def integerName (bits : Nat) (signed : Bool) : String := (if signed then "i" else "u") ++ bits.repr

def floatName (bits : Nat) : String := "f" ++ bits.repr

end DataType

/-- A named value with its type already written. -/
def Argument.object (v : Vocabulary) (kind name : String) (docs : List String) (optional : Bool)
    (type : Json) : Json :=
  .object (v.tag kind ++
    [("name", .text name), ("type", type), ("docs", .texts docs), ("isOptional", .bool optional)])

namespace DataType

mutual

/-- A type in a vocabulary. -/
def encode (v : Vocabulary) : DataType → Json
  | .integer bits signed => v.number (integerName bits signed)
  | .float bits => v.number (floatName bits)
  | .bool => v.scalar "bool" "booleanTypeNode"
  | .string => v.scalar "string" "stringTypeNode"
  | .publicKey => v.scalar "publicKey" "publicKeyTypeNode"
  | .bytes => v.scalar "bytes" "bytesTypeNode"
  | .option inner => v.wrapper "option" "optionTypeNode" (encode v inner)
  | .list item => v.wrapper "vec" "arrayTypeNode" (encode v item)
  | .struct fields =>
    .object [("kind", .text (v.word "struct" "structTypeNode")),
      ("fields", .list (encodeFields v fields))]
  | .tuple items => v.tuple (encodeItems v items)
  | .enum variants =>
    .object [("kind", .text (v.word "enum" "enumTypeNode")),
      ("variants", .list (variants.map fun name =>
        .object (v.tag "enumEmptyVariantTypeNode" ++ [("name", .text name)])))]
  | .defined name => v.reference name
  | .unknown what => .text what

def encodeFields (v : Vocabulary) : List Argument → List Json
  | [] => []
  | .mk name docs optional type :: rest =>
    Argument.object v "structFieldTypeNode" name docs optional (encode v type) ::
      encodeFields v rest

def encodeItems (v : Vocabulary) : List DataType → List Json
  | [] => []
  | type :: rest => encode v type :: encodeItems v rest

end

end DataType

def Argument.encode (v : Vocabulary) (argument : Argument) : Json :=
  Argument.object v "instructionArgumentNode" argument.name argument.docs argument.optional
    (argument.type.encode v)

/-- How an account is spelled: the keys of its flags, and whether its seeds stand under `pda`. -/
structure AccountSpelling where
  signer : String
  writable : String
  optional : String
  underPda : Bool
  signer_mem : signer ∈ ["isSigner", "signer"] := by decide
  writable_mem : writable ∈ ["isMut", "isWritable", "writable"] := by decide
  optional_mem : optional ∈ ["isOptional", "optional"] := by decide

namespace AccountSlot

/-- The seeds of an account, on their own or under `pda`. -/
def seedsMember (underPda : Bool) (seeds : Option (List Json)) : Json.Members :=
  if underPda then ifPresent "pda" seeds fun items => .object [("seeds", .list items)]
  else ifPresent "seeds" seeds .list

def encodeMembers (v : Vocabulary) (spelling : AccountSpelling) (slot : AccountSlot) :
    Json.Members :=
  v.tag "instructionAccountNode" ++
    ([("name", .text slot.name), ("docs", .texts slot.docs),
      (spelling.signer, .bool slot.signer), (spelling.writable, .bool slot.writable),
      (spelling.optional, .bool slot.optional)] ++
    (ifPresent "role" slot.role .text ++ seedsMember spelling.underPda slot.seeds))

def encode (v : Vocabulary) (spelling : AccountSpelling) (slot : AccountSlot) : Json :=
  .object (slot.encodeMembers v spelling)

end AccountSlot

/-- An instruction in a vocabulary, with a spelling for each account. -/
def Instruction.encode (v : Vocabulary) (spelling : AccountSlot → AccountSpelling)
    (instruction : Instruction) : Json :=
  .object (v.tag "instructionNode" ++
    [("name", .text instruction.name), ("docs", .texts instruction.docs),
      ("accounts", .list (instruction.accounts.map fun slot => slot.encode v (spelling slot))),
      (v.word "args" "arguments", .list (instruction.arguments.map (Argument.encode v)))])

def TypeDefinition.encode (v : Vocabulary) (definition : TypeDefinition) : Json :=
  .object (v.tag "definedTypeNode" ++
    [("name", .text definition.name), ("docs", .texts definition.docs),
      ("type", definition.type.encode v)])

/-- The number of an error code; one beyond all numbers has none. -/
def ErrorCode.codeJson (code : Nat) : Json :=
  ((Json.Number.ofInt? code).map Json.number).getD .null

def ErrorCode.encode (v : Vocabulary) (error : ErrorCode) : Json :=
  .object (v.tag "errorNode" ++
    ([("code", ErrorCode.codeJson error.code), ("name", .text error.name)] ++
      ifPresent (v.word "msg" "message") error.message .text))

namespace Program

def encodeMembers (v : Vocabulary) (spelling : AccountSlot → AccountSpelling) (program : Program) :
    Json.Members :=
  v.tag "programNode" ++
    ([("name", .text program.name), ("version", .text program.version),
      ("metadata", .object program.metadata),
      ("instructions", .list (program.instructions.map (Instruction.encode v spelling))),
      ("accounts", .list (program.accountTypes.map fun name =>
        .object (v.tag "accountNode" ++ [("name", .text name)]))),
      (v.word "types" "definedTypes", .list (program.types.map (TypeDefinition.encode v))),
      ("errors", .list (program.errors.map (ErrorCode.encode v)))] ++
    ifPresent (v.word "address" "publicKey") program.address .text)

/-- A program as a document in a vocabulary, with a spelling for each account. -/
def encode (v : Vocabulary) (spelling : AccountSlot → AccountSpelling) (program : Program) : Json :=
  v.document (program.encodeMembers v spelling)

end Program

namespace DataType

mutual

/-- Whether a type is built of known forms and known widths only, with trimmed documentation. -/
def Known : DataType → Prop
  | .integer bits _ => bits ∈ integerWidths
  | .float bits => bits ∈ [32, 64]
  | .option inner => Known inner
  | .list item => Known item
  | .struct fields => KnownFields fields
  | .tuple items => KnownItems items
  | .unknown _ => False
  | .bool | .string | .publicKey | .bytes | .enum _ | .defined _ => True

def KnownFields : List Argument → Prop
  | [] => True
  | .mk _ docs _ type :: rest =>
    ((∀ line ∈ docs, Text.trim line = line) ∧ Known type) ∧ KnownFields rest

def KnownItems : List DataType → Prop
  | [] => True
  | type :: rest => Known type ∧ KnownItems rest

end

mutual

/-- How many steps into inner types the deepest place of a type is away. -/
def depth : DataType → Nat
  | .option inner => depth inner + 1
  | .list item => depth item + 1
  | .struct fields => depthFields fields
  | .tuple items => depthItems items
  | .integer .. | .float _ | .bool | .string | .publicKey | .bytes | .enum _ | .defined _
  | .unknown _ => 0

def depthFields : List Argument → Nat
  | [] => 0
  | .mk _ _ _ type :: rest => max (depth type + 1) (depthFields rest)

def depthItems : List DataType → Nat
  | [] => 0
  | type :: rest => max (depth type + 1) (depthItems rest)

end

/-- Whether a type can be written in a descriptor and read from there. -/
def Writable (type : DataType) : Prop := type.Known ∧ type.depth ≤ maxTypeDepth

end DataType

/-- Whether all lines of a documentation are trimmed. -/
def Docs.Trimmed (docs : List String) : Prop := ∀ line ∈ docs, Text.trim line = line

/-- A program with usable instruction names, trimmed documentation and known types of bounded depth,
whose metadata does not speak of the address. -/
structure Program.Canonical (program : Program) : Prop where
  named : ∀ instruction ∈ program.instructions, ¬ Text.isBlankText instruction.name
  distinct : (program.instructions.map (·.name)).Nodup
  instructionDocs : ∀ instruction ∈ program.instructions, Docs.Trimmed instruction.docs
  accountDocs : ∀ instruction ∈ program.instructions, ∀ slot ∈ instruction.accounts,
    Docs.Trimmed slot.docs
  arguments : ∀ instruction ∈ program.instructions, ∀ argument ∈ instruction.arguments,
    Docs.Trimmed argument.docs ∧ argument.type.Writable
  types : ∀ definition ∈ program.types, Docs.Trimmed definition.docs ∧ definition.type.Writable
  codes : ∀ error ∈ program.errors, error.code < twoTo 32
  metadata : ∀ address, ("address", address) ∉ program.metadata

end UiScaffold
