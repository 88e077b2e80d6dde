import UiScaffold.Json.Token

/-!
Reading a JSON document.

The reader is a fold over the tokens: its state says what may stand next and holds the containers
that are open. The first token that may not stand where it does decides the error. What is made of
the tokens is the matter of an assembly, so that a document can be read exactly or in outline.
-/

set_option autoImplicit false
set_option relaxedAutoImplicit false

namespace UiScaffold.Json

/-- How values of a type `α`, with keys of a type `κ`, are made of the parts of a document. -/
structure Assembly (α κ : Type) where
  literal : Except Fault Json → Except Fault α
  text : Except Fault String → Except Fault α
  key : Except Fault String → Except Fault κ
  list : List α → α
  object : List (κ × α) → α

/-- A container that is open, with what it holds so far, the last first. -/
inductive Frame (α κ : Type) where
  | list (items : List α)
  /-- An object whose last member is complete. -/
  | object (members : List (κ × α))
  /-- An object whose last member waits for its value. -/
  | member (members : List (κ × α)) (key : κ)

/-- What may stand next. -/
inductive Stage (α : Type) where
  | value
  | itemOrEnd
  | item
  | keyOrEnd
  | key
  | colon
  | separator
  /-- Nothing more: the document is complete. -/
  | done (document : α)

/-- The reader between two tokens; the innermost container comes first. -/
structure Reading (α κ : Type) where
  stage : Stage α
  stack : List (Frame α κ)

namespace Reading

variable {α κ : Type}

def start : Reading α κ := ⟨.value, []⟩

def supply (stack : List (Frame α κ)) (value : α) : Reading α κ :=
  match stack with
  | .list items :: up => ⟨.separator, .list (value :: items) :: up⟩
  | .member members key :: up => ⟨.separator, .object ((key, value) :: members) :: up⟩
  | .object members :: up => ⟨.separator, .object members :: up⟩
  | [] => ⟨.done value, []⟩

def close (assembly : Assembly α κ) : List (Frame α κ) → Reading α κ
  | .list items :: up => supply up (assembly.list items.reverse)
  | .object members :: up => supply up (assembly.object members.reverse)
  | .member members _ :: up => supply up (assembly.object members.reverse)
  | [] => ⟨.value, []⟩

def takeValue (assembly : Assembly α κ) (limit : Nat) (stack : List (Frame α κ)) (t : Placed) :
    Except Fault (Reading α κ) :=
  match t.token with
  | .literal value => (assembly.literal value).map (supply stack)
  | .quoted content => (assembly.text content).map (supply stack)
  | .openList =>
    if stack.length < limit then .ok ⟨.itemOrEnd, .list [] :: stack⟩
    else .error (.atNext .tooDeep t.start)
  | .openObject =>
    if stack.length < limit then .ok ⟨.keyOrEnd, .object [] :: stack⟩
    else .error (.atNext .tooDeep t.start)
  | .broken _ fault => .error fault
  | .finish => .error (.atNext .endInValue t.start)
  | _ => .error (.atNext .noValue t.start)

/-- Takes a key; `atEnd` is the problem of a text that ends instead. -/
def takeKey (assembly : Assembly α κ) (stack : List (Frame α κ)) (atEnd : Problem) (t : Placed) :
    Except Fault (Reading α κ) :=
  match t.token, stack with
  | .quoted content, .object members :: up =>
    (assembly.key content).map fun key => ⟨.colon, .member members key :: up⟩
  -- A literal that breaks off is no key at all, so its own fault is not told.
  | .broken true fault, _ => .error fault
  | .finish, _ => .error (.atNext atEnd t.start)
  | _, _ => .error (.atNext .keyNotText t.start)

/-- Takes what stands after an element of a list or after a member of an object. -/
def takeSeparator (assembly : Assembly α κ) (stack : List (Frame α κ)) (t : Placed) :
    Except Fault (Reading α κ) :=
  match stack, t.token with
  | .list _ :: _, .comma => .ok ⟨.item, stack⟩
  | .list _ :: _, .closeList => .ok (close assembly stack)
  | .list _ :: _, .finish => .error (.atNext .endInList t.start)
  | .list _ :: _, _ => .error (.atNext .noListEnd t.start)
  | _, .comma => .ok ⟨.key, stack⟩
  | _, .closeObject => .ok (close assembly stack)
  | _, .finish => .error (.atNext .endInObject t.start)
  | _, _ => .error (.atNext .noObjectEnd t.start)

/-- Takes one token. At most `limit` containers may be open. -/
def take (assembly : Assembly α κ) (limit : Nat) (reading : Reading α κ) (t : Placed) :
    Except Fault (Reading α κ) :=
  match reading.stage, t.token with
  | .value, _ => takeValue assembly limit reading.stack t
  | .itemOrEnd, .closeList => .ok (close assembly reading.stack)
  | .itemOrEnd, .finish => .error (.atNext .endInList t.start)
  | .itemOrEnd, _ => takeValue assembly limit reading.stack t
  | .item, .closeList => .error (.atNext .trailingComma t.start)
  | .item, _ => takeValue assembly limit reading.stack t
  | .keyOrEnd, .closeObject => .ok (close assembly reading.stack)
  | .keyOrEnd, _ => takeKey assembly reading.stack .endInObject t
  | .key, .closeObject => .error (.atNext .trailingComma t.start)
  | .key, _ => takeKey assembly reading.stack .endInValue t
  | .colon, .colon => .ok ⟨.value, reading.stack⟩
  | .colon, .finish => .error (.atNext .endInObject t.start)
  | .colon, _ => .error (.atNext .noColon t.start)
  | .separator, _ => takeSeparator assembly reading.stack t
  | .done _, .finish => .ok reading
  | .done _, _ => .error (.atNext .trailingCharacters t.start)

/-- The document, once it is complete. -/
def finish (reading : Reading α κ) : Except Fault α :=
  match reading.stage with
  | .done document => .ok document
  | _ => .error (.before .endInValue [])

end Reading

/-- Reads a document under a nesting limit, by an assembly. -/
def assemble {α κ : Type} (assembly : Assembly α κ) (limit : Nat) (input : List Char) :
    Except Fault α := do
  let reading ← (tokens input).foldlM (Reading.take assembly limit) Reading.start
  reading.finish

/-- The assembly of a value just as it is written; a literal or text with a fault has no value. -/
def exactly : Assembly Json String where
  literal := id
  text := Except.map Json.text
  key := id
  list := Json.list
  object := Json.object

def nestingLimit : Nat := 127

/-- Reads a document under a nesting limit; keys may repeat. -/
def readChars (limit : Nat) (input : List Char) : Except Fault Json := assemble exactly limit input

/-- Reads a document, with repeated keys as they stand in the text. -/
def readVerbatim (text : String) : Except ReadError Json :=
  match readChars nestingLimit text.toList with
  | .ok value => .ok value
  | .error fault => .error (fault.locate text)

/-- Reads a document; a repeated key keeps its first position and takes its last value. -/
def read (text : String) : Except ReadError Json :=
  (readVerbatim text).map settle

end UiScaffold.Json
