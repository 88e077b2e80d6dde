import UiScaffold.Decimal.Power
import UiScaffold.Descriptor.DataType
import UiScaffold.Text.Numeral

/-!
The names of scalar types.

An integer type is named by a letter for its sign and its width in decimal digits.
-/

set_option autoImplicit false
set_option relaxedAutoImplicit false

namespace UiScaffold.DataType

def integerWidths : List Nat := [8, 16, 32, 64, 128, 256]

/-- The integer type with the given sign and the width that is spelled. -/
def integerOfWidth? (signed : Bool) (digits : List Char) : Option DataType := do
  let bits ← Text.naturalBelow? (twoTo 16) digits
  if bits ∈ integerWidths then some (.integer bits signed) else none

def integerNamed? (name : String) : Option DataType :=
  match name.toList with
  | 'u' :: digits => integerOfWidth? false digits
  | 'i' :: digits => integerOfWidth? true digits
  | _ => none

/-- The type of a scalar name; any other name is unknown. -/
def named (name : String) : DataType :=
  match name with
  | "bool" => .bool
  | "string" => .string
  | "publicKey" => .publicKey
  | "pubkey" => .publicKey
  | "bytes" => .bytes
  | "f32" => .float 32
  | "f64" => .float 64
  | "shortU16" => .integer 16 false
  | _ => (integerNamed? name).getD (.unknown name)

end UiScaffold.DataType
