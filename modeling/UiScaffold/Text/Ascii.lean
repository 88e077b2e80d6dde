/-!
Comparison of texts without regard to the case of ASCII letters.
-/

set_option autoImplicit false
set_option relaxedAutoImplicit false

namespace UiScaffold.Text

def foldCase (text : String) : String := String.ofList (text.toList.map Char.toLower)

def sameFolded (a b : String) : Bool := foldCase a == foldCase b

end UiScaffold.Text
