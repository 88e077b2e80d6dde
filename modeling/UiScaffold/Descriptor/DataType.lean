/-!
The types of instruction arguments.

Every vocabulary that descriptors use is read into this closed set of shapes. An argument of an
instruction and a field of a struct are the same thing: a named, documented, typed value.
-/

set_option autoImplicit false
set_option relaxedAutoImplicit false

namespace UiScaffold

mutual

/-- The shapes of values. -/
inductive DataType where
  | integer (bits : Nat) (signed : Bool)
  | float (bits : Nat)
  | bool
  | string
  | publicKey
  | bytes
  | option (inner : DataType)
  /-- Vectors, arrays of fixed length and sets. -/
  | list (item : DataType)
  | struct (fields : List Argument)
  | tuple (items : List DataType)
  /-- An inline enumeration with its variant names. -/
  | enum (variants : List String)
  /-- A reference to a type that the program defines. -/
  | defined (name : String)
  /-- Anything else, with a short description. -/
  | unknown (what : String)

/-- A named value: an argument of an instruction or a field of a struct. -/
inductive Argument where
  | mk (name : String) (docs : List String) (optional : Bool) (type : DataType)

end

instance : Inhabited DataType := ⟨.bool⟩

instance : Inhabited Argument := ⟨.mk "" [] false .bool⟩

namespace Argument

def name : Argument → String
  | mk name _ _ _ => name

def docs : Argument → List String
  | mk _ docs _ _ => docs

/-- The explicit flag; an argument of an option type is optional without it. -/
def optional : Argument → Bool
  | mk _ _ optional _ => optional

def type : Argument → DataType
  | mk _ _ _ type => type

end Argument

namespace DataType

def unwrap : DataType → DataType
  | .option inner => inner.unwrap
  | other => other

def isOption : DataType → Bool
  | .option _ => true
  | _ => false

end DataType

end UiScaffold
