import UiScaffold.Console
import UiScaffold.Journal.Event

/-!
Events as lines of text: the level, the message and the details, with colours or without.
-/

set_option autoImplicit false
set_option relaxedAutoImplicit false

namespace UiScaffold

namespace Level

/-- The name of a level, aligned to the right in five columns. -/
def label (level : Level) : String :=
  String.ofList (List.replicate (5 - level.name.length) ' ') ++ level.name

def color : Level → Nat
  | error => 31
  | warn => 33
  | info => 32
  | debug => 34
  | trace => 35

end Level

namespace Event

/-- A detail, with the blank before it. -/
def fieldText (colors : Bool) (field : String × String) : String :=
  if colors then " " ++ Console.italic field.1 ++ Console.dim "=" ++ field.2
  else " " ++ field.1 ++ "=" ++ field.2

def line (colors : Bool) (event : Event) : String :=
  let label := event.level.label
  (if colors then Console.painted event.level.color label else label) ++ " " ++ event.message ++
    String.join (event.fields.map (fieldText colors)) ++ "\n"

end Event

end UiScaffold
