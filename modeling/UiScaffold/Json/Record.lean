import UiScaffold.Json.Sketch

/-!
Records in JSON documents.

A record is an object with known keys, of which none may stand twice, or the list of its fields in
the order of their declaration. Keys that are not known are passed over with their values. A field
that is missing is accepted only where it has a default, which its reader decides.

A decoder is given the number of containers that may still be open where it starts.
-/

set_option autoImplicit false
set_option relaxedAutoImplicit false

namespace UiScaffold.Json.Record

/-- Reads values of a type out of documents. -/
abbrev Decoder (α : Type) := Nat → Sketch → Option α

/-- The values of the fields that a record has. -/
abbrev Fields := List (String × Sketch)

def keyed? (member : Option String × Sketch) : Option (String × Sketch) :=
  member.1.map fun key => (key, member.2)

def fields? (keys : List String) : Sketch → Option Fields
  | .object members => do
    let members ← members.mapM keyed?
    let known := members.filter fun member => keys.contains member.1
    if (known.map (·.1)).Nodup then some known else none
  | .list items => if items.length ≤ keys.length then some (keys.zip items) else none
  | _ => none

def text? : Decoder String
  | _, .text content => content
  | _, _ => none

def bool? : Decoder Bool
  | _, .literal (some (.bool value)) => some value
  | _, _ => none

def values? (levels : Nat) (value : Sketch) : Option (List Json) :=
  (value.toJson? levels).bind asList?

def listOf? {α : Type} (read : Decoder α) : Decoder (List α)
  | levels + 1, .list items => items.mapM (read levels)
  | _, _ => none

def texts? : Decoder (List String) := listOf? text?

def required? {α : Type} (fields : Fields) (key : String) (read : Sketch → Option α) : Option α :=
  (fields.lookup key).bind read

def withDefault? {α : Type} (fields : Fields) (key : String) (read : Sketch → Option α)
    (otherwise : α) : Option α :=
  match fields.lookup key with
  | some value => read value
  | none => some otherwise

/-- A field that may be absent or null. -/
def optional? {α : Type} (fields : Fields) (key : String) (read : Sketch → Option α) :
    Option (Option α) :=
  match fields.lookup key with
  | none => some none
  | some (.literal (some .null)) => some none
  | some value => (read value).map some

/-- The name of a case without contents: a text, or an object with the name and null. -/
def caseName? : Decoder String
  | _, .text name => name
  | _ + 1, .object [(some name, .literal (some .null))] => some name
  | _, _ => none

/-- A member that is left out of a document when the list is empty. -/
def unlessEmpty {α : Type} (key : String) (items : List α) (write : α → Json) : Members :=
  if items.isEmpty then [] else [(key, .list (items.map write))]

/-- A member that is left out of a document when there is no value. -/
def ifPresent {α : Type} (key : String) (value : Option α) (write : α → Json) : Members :=
  match value with
  | some a => [(key, write a)]
  | none => []

end UiScaffold.Json.Record
