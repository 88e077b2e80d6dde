/-!
Naturals in decimal digits.

One plus sign may stand before the digits, and leading zeros do no harm.
-/

set_option autoImplicit false
set_option relaxedAutoImplicit false

namespace UiScaffold.Text

def digitsValue (digits : List Char) : Nat :=
  digits.foldl (fun n d => n * 10 + (d.toNat - '0'.toNat)) 0

/-- The number below a limit that digits spell. -/
def naturalBelow? (limit : Nat) (chars : List Char) : Option Nat :=
  let digits := match chars with
    | '+' :: rest => rest
    | other => other
  if digits ≠ [] ∧ digits.all Char.isDigit = true ∧ digitsValue digits < limit then
    some (digitsValue digits)
  else none

end UiScaffold.Text
