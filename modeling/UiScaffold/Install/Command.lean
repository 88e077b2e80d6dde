import UiScaffold.FileSystem.Action

/-!
Commands that are started and awaited.
-/

set_option autoImplicit false
set_option relaxedAutoImplicit false

namespace UiScaffold

/-- A command and the directory that it runs in. -/
structure Command where
  program : String
  arguments : List String
  directory : Path
deriving DecidableEq, Repr

inductive Ending where
  | exited (code : Nat)
  /-- A signal ended the command. -/
  | killed
deriving DecidableEq, Repr

namespace Ending

def isSuccess (ending : Ending) : Bool := ending == exited 0

/-- The exit status, which is `-1` after a signal. -/
def status : Ending → Int
  | exited code => code
  | killed => -1

end Ending

/-- What is known of a command after its end. -/
structure CommandResult where
  ending : Ending
  output : ByteArray
  errors : ByteArray

/-- What starting a command does: it may change files, and it fails if the command cannot be
started. -/
abbrev Launcher := Command → FileAction CommandResult

end UiScaffold
