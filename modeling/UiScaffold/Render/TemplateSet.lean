import UiScaffold.Render.Error

/-!
Sets of templates.

A set is a directory below the root of all sets. It holds the template of the app shell, the
template of the instruction pages, and any number of assets.
-/

set_option autoImplicit false
set_option relaxedAutoImplicit false

namespace UiScaffold

/-- The templates of a set and the directory that the set is in. -/
structure TemplateSet where
  directory : Path
  shell : Template
  page : Template

namespace TemplateSet

/-- The names of all sets below a root, sorted; a root that cannot be read has none. -/
def available (fs : FileSystem) (root : Path) : List String :=
  match fs.list root with
  | .ok names => names.filter fun name => fs.isDirectory (root.child name)
  | .error _ => []

/-- The directory of a set. The name must be a single step, so that it cannot lead elsewhere. -/
def resolve (fs : FileSystem) (root : Path) (name : String) : Except RenderError Path :=
  let directory := root.join (.ofText name)
  -- Both faults are reported alike, with the sets that there are.
  if (Path.ofText name).singleName?.isSome && fs.isDirectory directory then .ok directory
  else .error (.templateNotFound name root (available fs root))

/-- Where a set has the template of the app shell, and where it has that of the pages. -/
def shellFile : Path := ⟨["pages", "_app.tsx.tmpl"]⟩
def pageFile : Path := ⟨["pages", "instruction.tsx.tmpl"]⟩

def shellKeys : List String := ["programId", "programName", "network", "rpcEndpoint"]

def pageKeys : List String :=
  shellKeys ++ ["instructionName", "instructionTitle", "instruction"]

/-- The extension of templates; files with any other are assets. -/
def extension : String := "tmpl"

/-- Whether a file is copied as it is. -/
def isAsset (asset : Asset) : Bool :=
  (asset.relative.getLast?.bind Path.extension?) ≠ some extension

def loadFile (fs : FileSystem) (directory : Path) (name : String) (file : Path)
    (keys : List String) : Except RenderError Template :=
  let path := directory.join file
  if !fs.isFile path then .error (.missingTemplateFile name file)
  else match fs.readText path with
    | .error cause => .error (.unreadableTemplate path cause)
    | .ok source =>
      match Template.parse path source keys with
      | .ok template => .ok template
      | .error fault => .error (.faultyTemplate path fault)

def load (fs : FileSystem) (root : Path) (name : String) : Except RenderError TemplateSet := do
  let directory ← resolve fs root name
  let shell ← loadFile fs directory name shellFile shellKeys
  let page ← loadFile fs directory name pageFile pageKeys
  return { directory, shell, page }

end TemplateSet

end UiScaffold
