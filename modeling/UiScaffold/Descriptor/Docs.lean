import UiScaffold.Json.Value
import UiScaffold.Text.Blank

/-!
Documentation lines: a list of texts, or one text with several lines. Every line is trimmed.
-/

set_option autoImplicit false
set_option relaxedAutoImplicit false

namespace UiScaffold.Docs

/-- The lines of a documentation value; items that are no texts are passed over. -/
def ofJson : Json → List String
  | .list items => (items.filterMap Json.asText?).map Text.trim
  | .text content => (Text.lines content).map Text.trim
  | _ => []

def ofMembers (members : Json.Members) : List String :=
  ((members.get? "docs").map ofJson).getD []

end UiScaffold.Docs
