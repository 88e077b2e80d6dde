/-!
Powers of two and of ten.
-/

set_option autoImplicit false
set_option relaxedAutoImplicit false

namespace UiScaffold

def twoTo (n : Nat) : Nat := Nat.pow 2 n

def tenTo (n : Nat) : Nat := Nat.pow 10 n

end UiScaffold
