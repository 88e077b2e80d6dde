import UiScaffold.FileSystem.Path

/-!
A tree of files.

A location is the list of names from the root; a file system says what stands at each location. The
root is a directory that needs no entry. Relative paths start at the working directory.

The trees that are meant hold directories, regular files and symbolic links. Each file has a
location of its own, so there are no hard links, and there are no devices, pipes or sockets. Of a
file's mode only the execution bit counts: every directory may be searched and changed and every
file read and written, as by a superuser. Space does not run out, so a file that could be opened is
written to its end.
-/

set_option autoImplicit false
set_option relaxedAutoImplicit false

namespace UiScaffold

/-- The names on the way from the root. -/
abbrev Location := List String

/-- What stands at a location. -/
inductive Entry where
  | directory
  | file (contents : ByteArray) (executable : Bool)
  | link (target : Path)

/-- The entries of a tree of files, and the working directory. -/
structure FileSystem where
  entries : List (Location × Entry)
  workingDirectory : Location

namespace FileSystem

/-- Nothing but the working directory. -/
def empty (workingDirectory : Location) : FileSystem :=
  ⟨(List.range workingDirectory.length).map fun n => (workingDirectory.take (n + 1), .directory),
    workingDirectory⟩

def get? (fs : FileSystem) (location : Location) : Option Entry :=
  if location = [] then some .directory else fs.entries.lookup location

/-- Replaces the entry of a location, or adds one. -/
def putEntry (location : Location) (entry : Entry) :
    List (Location × Entry) → List (Location × Entry)
  | [] => [(location, entry)]
  | (place, other) :: rest =>
    if place = location then (location, entry) :: rest
    else (place, other) :: putEntry location entry rest

def put (fs : FileSystem) (location : Location) (entry : Entry) : FileSystem :=
  { fs with entries := putEntry location entry fs.entries }

def prune (fs : FileSystem) (location : Location) : FileSystem :=
  { fs with entries := fs.entries.filter fun e => !location.isPrefixOf e.1 }

def hasDirectory (fs : FileSystem) (location : Location) : Bool :=
  match fs.get? location with
  | some .directory => true
  | _ => false

def nameIn (directory location : Location) : Option String :=
  if location.dropLast = directory then location.getLast? else none

def insertName (name : String) : List String → List String
  | [] => [name]
  | other :: rest =>
    if name ≤ other then name :: other :: rest else other :: insertName name rest

/-- The names in a directory, sorted. -/
def names (fs : FileSystem) (directory : Location) : List String :=
  (fs.entries.filterMap fun e => nameIn directory e.1).foldr insertName []

end FileSystem

end UiScaffold
