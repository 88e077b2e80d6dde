import UiScaffold.Descriptor.DataType
import UiScaffold.Json.Value

/-!
A program as its descriptor declares it: instructions with their accounts and arguments, the types
that the program defines, its account types and its error codes, all in the order of declaration.
-/

set_option autoImplicit false
set_option relaxedAutoImplicit false

namespace UiScaffold

/-- A slot for an account that an instruction works on. -/
structure AccountSlot where
  name : String
  docs : List String
  signer : Bool
  writable : Bool
  optional : Bool
  role : Option String
  /-- The seeds of a derived address, as the descriptor gives them. -/
  seeds : Option (List Json)

structure Instruction where
  name : String
  docs : List String
  accounts : List AccountSlot
  arguments : List Argument

/-- A type that a program defines under a name. -/
structure TypeDefinition where
  name : String
  docs : List String
  type : DataType

structure ErrorCode where
  code : Nat
  name : String
  message : Option String
deriving DecidableEq, Repr

structure Program where
  name : String
  version : String
  metadata : Json.Members
  /-- The program's id, if the descriptor declares one. -/
  address : Option String
  instructions : List Instruction
  accountTypes : List String
  types : List TypeDefinition
  errors : List ErrorCode

end UiScaffold
