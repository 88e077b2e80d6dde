import UiScaffold.FileSystem.Resolve

/-!
Operations that change a tree of files.

An operation is refused for what stands in the tree: something is missing, in the way or of the
wrong kind. It keeps what it did before it was refused: a directory that was made on the way to
another one stays.
-/

set_option autoImplicit false
set_option relaxedAutoImplicit false

namespace UiScaffold

/-- An operation on a file system; a refusal keeps the changes made so far. -/
abbrev FileAction := EStateM OsError FileSystem

namespace FileAction

def ask {α : Type} (query : FileSystem → Except OsError α) : FileAction α := fun fs =>
  match query fs with
  | .ok a => .ok a fs
  | .error e => .error e fs

/-- The path without slashes at its end; the root keeps its own. -/
def withoutSlash (path : Path) : Path :=
  let bare (pieces : List String) := (pieces.reverse.dropWhile (· == "")).reverse
  if path.isAbsolute then .absolute (bare path.pieces.tail) else ⟨bare path.pieces⟩

/-- Makes one directory, where nothing stands yet. Slashes at the end of the path count for its
length, but demand nothing of what it leads to. -/
def makeDirectory (path : Path) : FileAction Unit := fun fs =>
  match path.refusal? with
  | some e => .error e fs
  | none =>
    match fs.follow false FileSystem.maxLinks (FileSystem.base fs.workingDirectory path)
        (withoutSlash path).steps with
    | .ok (.vacant directory name) => .ok () (fs.put (directory ++ [name]) .directory)
    | .ok (.existing _) => .error .alreadyExists fs
    | .error e => .error e fs

/-- Makes one directory, unless it is there. -/
def ensureDirectory (path : Path) : FileAction Unit := fun fs =>
  match makeDirectory path fs with
  | .error .alreadyExists fs => if fs.isDirectory path then .ok () fs else .error .alreadyExists fs
  | other => other

/-- Goes up along paths until a directory is there or can be made; gives the paths that were passed,
the last one first. The empty path and the root end the way. -/
def climb : List Path → List Path → FileAction (List Path)
  | passed, [] => pure passed
  | passed, path :: more => fun fs =>
    if path.isEmpty || path.parent.isNone then .ok passed fs
    else match ensureDirectory path fs with
      | .ok () fs => .ok passed fs
      | .error .notFound fs => climb (path :: passed) more fs
      | .error e fs => .error e fs

/-- Makes a directory and the directories on the way to it, as far as they are missing. -/
def makeDirectories (path : Path) : FileAction Unit := do
  let missing ← climb [] path.ancestors
  missing.forM ensureDirectory

/-- Puts contents into a file, which is made when it is missing. A file keeps its mode; a new one
gets the one given. A write that has begun goes through. -/
def store (path : Path) (contents : ByteArray) (executable : Bool) : FileAction Unit := fun fs =>
  match fs.resolve true path with
  | .ok (.vacant directory name) =>
    .ok () (fs.put (directory ++ [name]) (.file contents executable))
  | .ok (.existing location) =>
    match fs.get? location with
    | some (.file _ mode) => .ok () (fs.put location (.file contents mode))
    | _ => .error .isADirectory fs
  | .error e => .error e fs

def setExecutable (path : Path) (executable : Bool) : FileAction Unit := fun fs =>
  match fs.locate path with
  | .ok location =>
    match fs.get? location with
    | some (.file contents _) => .ok () (fs.put location (.file contents executable))
    | _ => .ok () fs
  | .error e => .error e fs

def writeText (path : Path) (text : String) : FileAction Unit := store path text.toUTF8 false

/-- Copies a file with its execution bit. The target is emptied before the source is read, so a file
copied onto itself ends up empty. -/
def copy (source target : Path) : FileAction Unit := do
  let entry ← ask (·.status source)
  let executable := match entry with
    | .file _ mode => mode
    | _ => false
  -- From here on the source may be empty: it may be the target under another name.
  store target ByteArray.empty executable
  let contents ← ask (·.readBytes source)
  store target contents executable
  setExecutable target executable

/-- Makes a link, where nothing stands yet. -/
def makeLink (path target : Path) : FileAction Unit := fun fs =>
  match fs.resolve false path with
  | .ok (.vacant directory name) => .ok () (fs.put (directory ++ [name]) (.link target))
  | .ok (.existing _) => .error .alreadyExists fs
  | .error e => .error e fs

/-- Removes what a path names, with everything below it; a link is not followed. -/
def remove (path : Path) : FileAction Unit := fun fs =>
  match fs.resolve false path with
  | .ok (.existing location) => .ok () (fs.prune location)
  | .ok (.vacant ..) => .error .notFound fs
  | .error e => .error e fs

end FileAction

end UiScaffold
