import UiScaffold.FileSystem.Action

/-!
Walks through directory trees.

A walk visits the files below a directory, depth first and in the order of their names, and goes
through links. The names in a directory are read when the walk enters it, so that a visit may change
what the walk meets later. A link to a directory that the walk is in would never end and is refused.
-/

set_option autoImplicit false
set_option relaxedAutoImplicit false

namespace UiScaffold

/-- A file that a walk visits. -/
structure Asset where
  /-- The path by which the walk came to the file. -/
  path : Path
  /-- The names from the directory where the walk started. -/
  relative : List String
deriving DecidableEq, Repr

/-- Why a walk ends early. -/
inductive WalkError where
  | loop (link ancestor : Path)
  | refused (path : Path) (cause : OsError)
deriving DecidableEq, Repr

def WalkError.message : WalkError → String
  | loop link ancestor =>
    "File system loop found: " ++ link.text ++ " points to an ancestor " ++ ancestor.text
  | refused path cause => "IO error for operation on " ++ path.text ++ ": " ++ cause.message

namespace Walk

/-- The directories that a walk is in, the innermost first, each with the path that led there. -/
abbrev Trail := List (Path × Location)

/-- A query as a step of a walk, blamed on a path. -/
def ask {α : Type} (path : Path) (query : FileSystem → Except OsError α) :
    EStateM WalkError FileSystem α := fun fs =>
  match query fs with
  | .ok a => .ok a fs
  | .error cause => .error (.refused path cause) fs

/-- Whether a listed entry leads to a directory; a link back into the trail is refused. -/
def leadsDown (trail : Trail) (path : Path) : Entry → EStateM WalkError FileSystem Bool
  | .directory => pure true
  | .file .. => pure false
  | .link _ => do
    match ← ask path (·.status path) with
    | .directory =>
      let location ← ask path (·.locate path)
      match trail.find? (·.2 = location) with
      | some ancestor => throw (.loop path ancestor.1)
      | none => return true
    | _ => return false

/-- Enters a directory: gives its location and its entries, sorted by name. -/
def enter (path : Path) : EStateM WalkError FileSystem (Location × List (String × Entry)) := do
  let location ← ask path (·.locateDirectory path)
  let fs ← get
  return (location, (fs.names location).filterMap fun name =>
    (fs.get? (location ++ [name])).map fun entry => (name, entry))

end Walk

variable {ε : Type}

/-- Walks through a directory at most `depth` levels deep and gives the files that it visited. -/
def walkFrom (refuse : WalkError → ε) (wanted : Asset → Bool)
    (visit : Asset → EStateM ε FileSystem Unit) :
    Nat → Walk.Trail → Path → List String → EStateM ε FileSystem (List Asset)
  | 0, _, path, _ => throw (refuse (.refused path .nameTooLong))
  | depth + 1, trail, path, relative => do
    let (location, entries) ← (Walk.enter path).adaptExcept refuse
    let trail := (path, location) :: trail
    -- The entries were listed before any of them is visited, so a visit adds none; what a link
    -- leads to is only looked up when it is its turn.
    let visited ← entries.mapM fun (name, entry) => do
      let asset : Asset := ⟨path.child name, relative ++ [name]⟩
      if ← (Walk.leadsDown trail asset.path entry).adaptExcept refuse then
        walkFrom refuse wanted visit depth trail asset.path asset.relative
      else if wanted asset then
        visit asset
        return [asset]
      else return []
    return visited.flatten

/-- Walks through a directory, visits the files that are wanted and gives them in the order of the
visits. No path has more steps than it may have bytes. -/
def walk (refuse : WalkError → ε) (wanted : Asset → Bool)
    (visit : Asset → EStateM ε FileSystem Unit) (root : Path) :
    EStateM ε FileSystem (List Asset) :=
  walkFrom refuse wanted visit (Path.maxLength + 1) [] root []

end UiScaffold
