import UiScaffold.Descriptor.Error
import UiScaffold.Descriptor.Program
import UiScaffold.Json.Reader

/-!
Reading a program from its descriptor.

The list of instructions is looked for in the document, in its `program` and in the first of its
`programs`. Most parts have several spellings, of which the first that has the right form counts;
malformed parts other than instructions are passed over or take a default.
-/

set_option autoImplicit false
set_option relaxedAutoImplicit false

namespace UiScaffold

def Program.defaultName : String := "unknown_program"
def Program.defaultVersion : String := "0.1.0"

def unnamed : String := "unknown"

def missingType : DataType := .unknown "missing type"

namespace AccountSlot

/-- Whether a signer flag is set; an account that signs in some calls counts as a signer. -/
def isSigner : Json → Bool
  | .bool value => value
  | .text value => value == "either"
  | _ => false

def ofMembers (members : Json.Members) : AccountSlot where
  name := (members.text? "name").getD unnamed
  docs := Docs.ofMembers members
  -- The first of these keys decides, whatever its value; of other flags, any that is set.
  signer := ((Outline.firstOf members ["isSigner", "signer"]).map isSigner).getD false
  writable := members.anyTrue ["isMut", "isWritable", "writable"]
  optional := members.anyTrue ["optional", "isOptional"]
  role := members.text? "role"
  -- Seeds of its own hide those of the derived address even if they are no list.
  seeds :=
    (((members.get? "seeds").orElse fun _ =>
      (members.get? "pda").bind (Json.get? · "seeds"))).bind Json.asList?

mutual

/-- The accounts of an entry: those of a group, or the account itself. -/
def flatten : Json → List AccountSlot
  | .object members =>
    match groupIn members with
    | some slots => slots
    | none => [ofMembers members]
  | _ => []

/-- The accounts of the list under the first key `accounts`, if there is a list. -/
def groupIn : List (String × Json) → Option (List AccountSlot)
  | [] => none
  | (key, .list items) :: rest =>
    if key = "accounts" then some (flattenAll items) else groupIn rest
  | (key, _) :: rest => if key = "accounts" then none else groupIn rest

def flattenAll : List Json → List AccountSlot
  | [] => []
  | item :: rest => flatten item ++ flattenAll rest

end

end AccountSlot

/-- A type that is too deep, as a reason to refuse the descriptor. -/
def TooDeep.orRefuse {α : Type} : Except TooDeep α → Except DescriptorError α
  | .ok a => .ok a
  | .error e => .error (.typeTooDeep e.context)

def DataType.ofMembers (context : String) (members : Json.Members) :
    Except DescriptorError DataType :=
  match members.get? "type" with
  | some value => TooDeep.orRefuse (DataType.read context value)
  | none => .ok missingType

namespace Argument

/-- The members of an argument; anything but an object has none. -/
def membersOf (value : Json) : Json.Members := value.asObject?.getD []

/-- The name of an argument as the descriptor gives it. -/
def nameOf (value : Json) : String := (Json.Members.text? (membersOf value) "name").getD unnamed

def ofJson (instruction : String) (value : Json) : Except DescriptorError Argument := do
  let members := membersOf value
  let name := nameOf value
  let type ← DataType.ofMembers (instruction ++ "." ++ name) members
  return .mk name (Docs.ofMembers members) (isOptional members) type

end Argument

namespace Instruction

/-- The name of an instruction: a text with more than white space. -/
def nameOf? (members : Json.Members) : Option String :=
  (members.text? "name").filter fun name => !Text.isBlankText name

/-- The arguments of an instruction, under the first of two keys that has a list. -/
def argumentsOf (members : Json.Members) : List Json :=
  (members.list? "args").getD (members.items "arguments")

def ofJson (index : Nat) (value : Json) : Except DescriptorError Instruction := do
  let some members := value.asObject? | .error (.invalidInstruction index .notAnObject)
  let some name := nameOf? members | .error (.invalidInstruction index .unnamed)
  let arguments ← (argumentsOf members).mapM (Argument.ofJson name)
  return {
    name := name
    docs := Docs.ofMembers members
    accounts := AccountSlot.flattenAll (members.items "accounts")
    arguments := arguments }

/-- The first name that was seen before, with its index. -/
def firstRepeat (seen : List String) (index : Nat) : List String → Option (Nat × String)
  | [] => none
  | name :: rest =>
    if name ∈ seen then some (index, name) else firstRepeat (name :: seen) (index + 1) rest

def checkNames (instructions : List Instruction) : Except DescriptorError Unit :=
  match firstRepeat [] 0 (instructions.map (·.name)) with
  | some (index, name) => .error (.invalidInstruction index (.repeated name))
  | none => .ok ()

end Instruction

namespace TypeDefinition

def ofMembers (name : String) (members : Json.Members) : Except DescriptorError TypeDefinition := do
  let type ← DataType.ofMembers name members
  return { name := name, docs := Docs.ofMembers members, type := type }

def named (values : List Json) : List (String × Json.Members) :=
  (values.filterMap Json.asObject?).filterMap fun members =>
    (Json.Members.text? members "name").map fun name => (name, members)

end TypeDefinition

namespace ErrorCode

/-- Reads an error code; one without a number of thirty-two bits or a name is passed over. -/
def ofMembers? (members : Json.Members) : Option ErrorCode := do
  let code ← (members.get? "code").bind Json.asNat?
  if twoTo 32 ≤ code then none
  let name ← members.text? "name"
  return { code := code, name := name,
           message := (members.text? "msg").orElse fun _ => members.text? "message" }

end ErrorCode

namespace Program

/-- The objects that may describe the program: the document, its `program`, the first of its
`programs`. -/
def candidates (document : Json.Members) : List Json.Members :=
  document ::
    (((document.get? "program").bind Json.asObject?).toList ++
      ((document.items "programs").head?.bind Json.asObject?).toList)

/-- The candidate to read: the first with instructions, else the first with an empty list. -/
def locate (document : Json.Members) : Except DescriptorError Json.Members :=
  let listed := (candidates document).filter fun c => (c.list? "instructions").isSome
  -- Only the document itself is refused for this; another candidate of the kind is passed over.
  if (document.get? "instructions").isSome ∧ (document.list? "instructions").isNone then
    .error .instructionsNotAList
  else match listed.find? fun c => !(c.items "instructions").isEmpty with
    | some program => .ok program
    | none =>
      match listed with
      | program :: _ => .ok program
      | [] => .error .missingInstructions

def firstText (places : List (Json.Members × String)) : Option String :=
  places.findSome? fun (members, key) => members.text? key

/-- The type definitions, under the first of two keys that has a list. -/
def typesOf (program : Json.Members) : List Json :=
  (program.list? "types").getD (program.items "definedTypes")

/-- Reads a program from the object that describes it; the document lends its name. -/
def ofMembers (document program : Json.Members) : Except DescriptorError Program := do
  let metadata := ((program.get? "metadata").bind Json.asObject?).getD []
  let instructions ← (program.items "instructions").zipIdx.mapM fun (value, index) =>
    Instruction.ofJson index value
  -- All instructions are read before names are compared, and the types come after both.
  Instruction.checkNames instructions
  let types ← (TypeDefinition.named (typesOf program)).mapM fun (name, members) =>
    TypeDefinition.ofMembers name members
  return {
    name := (firstText [(program, "name"), (metadata, "name"), (document, "name")]).getD defaultName
    version := (firstText [(program, "version"), (metadata, "version")]).getD defaultVersion
    metadata := metadata
    address :=
      firstText [(metadata, "address"), (program, "address"), (program, "publicKey")]
    instructions := instructions
    accountTypes := (program.items "accounts").filterMap fun account => account.textAt? "name"
    types := types
    errors := ((program.items "errors").filterMap Json.asObject?).filterMap ErrorCode.ofMembers? }

def ofJson (document : Json) : Except DescriptorError Program := do
  let some members := document.asObject? | .error .notAnObject
  let program ← locate members
  ofMembers members program

def ofText (text : String) : Except DescriptorError Program :=
  match Json.read text with
  | .ok document => ofJson document
  | .error error => .error (.malformed error)

end Program

end UiScaffold
