import UiScaffold.Render.Error

/-!
The steps that write an output tree.
-/

set_option autoImplicit false
set_option relaxedAutoImplicit false

namespace UiScaffold

inductive RenderStep where
  | makeDirectory (path : Path)
  /-- Copies a file; the directory of the copy is made first. -/
  | copy (source target : Path)
  /-- Writes a text; the directory of the file is made first. -/
  | write (path : Path) (text : String)
deriving DecidableEq, Repr

namespace RenderStep

def ensureDirectory (path : Path) : EStateM RenderError FileSystem Unit :=
  (FileAction.makeDirectories path).adaptExcept (.directoryRefused path)

def makeParent (path : Path) : EStateM RenderError FileSystem Unit :=
  match path.parent with
  | some parent => ensureDirectory parent
  | none => pure ()

def run : RenderStep → EStateM RenderError FileSystem Unit
  | makeDirectory path => ensureDirectory path
  | copy source target => do
    makeParent target
    (FileAction.copy source target).adaptExcept (.copyRefused source target)
  | write path text => do
    makeParent path
    (FileAction.writeText path text).adaptExcept (.writeRefused path)

end RenderStep

end UiScaffold
