import UiScaffold.FileSystem.Action
import UiScaffold.Journal.Event

/-!
The files that a run works on, and what it has reported so far.
-/

set_option autoImplicit false
set_option relaxedAutoImplicit false

namespace UiScaffold

structure Workspace where
  files : FileSystem
  /-- What happened, in order. -/
  journal : List Event

/-- Work that may fail; a failure keeps the changes and the events so far. -/
abbrev Work (ε : Type) := EStateM ε Workspace

namespace Work

variable {ε α : Type}

/-- An action on files as work; it reports nothing. -/
def onFiles (action : EStateM ε FileSystem α) : Work ε α := fun workspace =>
  match action workspace.files with
  | .ok a files => .ok a { workspace with files }
  | .error e files => .error e { workspace with files }

def report (event : Event) : Work ε Unit :=
  modify fun workspace => { workspace with journal := workspace.journal ++ [event] }

def query (ask : FileSystem → Except ε α) : Work ε α := fun workspace =>
  match ask workspace.files with
  | .ok a => .ok a workspace
  | .error e => .error e workspace

end Work

end UiScaffold
